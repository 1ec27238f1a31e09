import TopicRouting.Settings.Value

set_option autoImplicit false

namespace TopicRouting

inductive PathStep where
  | entry (name : String)
  -- An item of a list; a negative index counts from the end.
  | item (index : Int)
deriving DecidableEq, Repr

structure SettingPath where
  first : String
  steps : List PathStep
deriving DecidableEq, Repr

namespace SettingPath

def isNameChar (c : Char) : Bool := c.isAlphanum || c = ' ' || c = '_' || c = '-'

def isSpacing (c : Char) : Bool := c = ' ' || c = '\t'

def readIndex? (characters : List Char) : Option (Int × List Char) :=
  let start := characters.dropWhile isSpacing
  let (sign, unsigned) := match start with
    | '-' :: rest => (['-'], rest)
    | rest => ([], rest)
  let digits := unsigned.takeWhile Char.isDigit
  match (unsigned.dropWhile Char.isDigit).dropWhile isSpacing with
  | ']' :: rest =>
    (readSigned64? (String.ofList (sign ++ digits))).map fun index => (index, rest)
  | _ => none

def readSteps? : (fuel : Nat) → List Char → Option (List PathStep)
  | _, [] => some []
  | fuel + 1, '.' :: rest =>
    let name := rest.takeWhile isNameChar
    if name.isEmpty then none
    else
      (readSteps? fuel (rest.dropWhile isNameChar)).map fun steps =>
        .entry (String.ofList name) :: steps
  | fuel + 1, '[' :: rest =>
    match readIndex? rest with
    | none => none
    | some (index, rest) => (readSteps? fuel rest).map fun steps => .item index :: steps
  | _, _ => none

def parse (text : String) : SettingPath :=
  let characters := text.toList
  let first := characters.takeWhile isNameChar
  let rest := characters.dropWhile isNameChar
  match first, readSteps? rest.length rest with
  | _ :: _, some steps => ⟨String.ofList first, steps⟩
  | _, _ => ⟨text, []⟩

def position (index : Int) (length : Nat) : Nat :=
  if 0 ≤ index then index.toNat else length - index.natAbs

def placeItem (items : List SettingValue) (position : Nat) (item : SettingValue) :
    List SettingValue :=
  (items ++ List.replicate (position + 1 - items.length) SettingValue.nil).set position item

def assignAt (incoming : SettingValue) : List PathStep → Option SettingValue → SettingValue
  | [], held => SettingValue.merge held incoming
  | .entry name :: rest, held =>
    let entries := (held.map SettingValue.entries).getD []
    .group (SettingValue.replace entries name
      (assignAt incoming rest (SettingValue.find? entries name)))
  | .item index :: rest, held =>
    let items := (held.map SettingValue.items).getD []
    let position := position index items.length
    .list (placeItem items position
      (if rest.isEmpty then incoming else assignAt incoming rest items[position]?))

def assign (path : SettingPath) (value root : SettingValue) : SettingValue :=
  assignAt value (.entry path.first :: path.steps) (some root)

end SettingPath

end TopicRouting
