import TopicRouting.Json.Basic
import TopicRouting.Table.Strategy
import TopicRouting.Text.Blank
import TopicRouting.Text.Shortest

set_option autoImplicit false

namespace TopicRouting

inductive SettingValue where
  | nil
  | boolean (value : Bool)
  | integer (value : Int)
  | float (value : Float)
  | text (content : String)
  | list (items : List SettingValue)
  | group (entries : List (String × SettingValue))
deriving Repr

namespace SettingValue

def find? (entries : List (String × SettingValue)) (key : String) : Option SettingValue :=
  (entries.find? fun entry => entry.1 == key).map Prod.snd

def replace {α : Type} (entries : List (String × α)) (key : String) (value : α) :
    List (String × α) :=
  if entries.any fun entry => entry.1 == key then
    entries.map fun entry => if entry.1 == key then (key, value) else entry
  else entries ++ [(key, value)]

def lastOfEach {α : Type} (entries : List (String × α)) : List (String × α) :=
  entries.foldl (fun kept entry => replace kept entry.1 entry.2) []

def ofEntries (entries : List (String × SettingValue)) : SettingValue :=
  .group (lastOfEach entries)

def entries : SettingValue → List (String × SettingValue)
  | .group entries => entries
  | _ => []

def items : SettingValue → List SettingValue
  | .list items => items
  | _ => []

mutual

def merge (held : Option SettingValue) : SettingValue → SettingValue
  | .group incoming => mergeEntries (held.getD (.group [])) incoming
  | other => other

def mergeEntries (held : SettingValue) : List (String × SettingValue) → SettingValue
  | [] => held
  | (key, value) :: rest =>
    mergeEntries
      (.group (replace held.entries key (merge (find? held.entries key) value))) rest

end

def truthOfText? (content : String) : Option Bool :=
  match asciiLower content with
  | "true" | "on" | "yes" => some true
  | "false" | "off" | "no" => some false
  | _ => none

-- A value as an integer of 64 bits without a sign. A fraction is rounded to the nearest
-- integer, half away from zero, and one out of range to the nearer end.
def size? : SettingValue → Option Nat
  | .boolean value => some (if value then 1 else 0)
  | .integer value => if 0 ≤ value then some value.toNat else none
  | .float value => some value.round.toUInt64.toNat
  | .text content =>
    match truthOfText? content with
    | some value => some (if value then 1 else 0)
    | none => readUnsigned64? content
  | _ => none

def truth? : SettingValue → Option Bool
  | .boolean value => some value
  | .integer value => some (value ≠ 0)
  | .float value => some (value != 0.0)
  | .text content =>
    if content = "1" then some true
    else if content = "0" then some false
    else truthOfText? content
  | _ => none

def text? : SettingValue → Option String
  | .boolean value => some (if value then "true" else "false")
  | .integer value => some (toString value)
  | .float value => some (Shortest.text value)
  | .text content => some content
  | _ => none

def character? : SettingValue → Option Char
  | .text content =>
    match content.toList with
    | [c] => some c
    | _ => none
  | _ => none

def strategy? : SettingValue → Option Strategy
  | .text name | .group [(name, _)] => Strategy.ofName? name
  | _ => none

def settings? (names : List String) : SettingValue → Option (List (String × SettingValue))
  | .group entries => some entries
  | .list items => some (names.zip items)
  | _ => none

def setting {α : Type} (entries : List (String × SettingValue)) (name : String) (default : α)
    (read : SettingValue → Option α) : Option α :=
  match find? entries name with
  | none => some default
  | some value => read value

end SettingValue

end TopicRouting
