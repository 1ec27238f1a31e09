import TopicRouting.Text.Decimal

set_option autoImplicit false

namespace TopicRouting

inductive TableOrigin where
  | header
  | implied
  | dotted
  | inlined
deriving DecidableEq, Repr

inductive Toml where
  | string (text : String)
  | integer (value : Int)
  | float (value : Decimal)
  | boolean (value : Bool)
  | moment (text : String)
  | array (items : List Toml)
  | tables (items : List Toml)
  | table (origin : TableOrigin) (entries : List (String × Toml))
deriving Repr

abbrev TomlEntries := List (String × Toml)

namespace TomlEntries

def get? (entries : TomlEntries) (key : String) : Option Toml :=
  (entries.find? fun entry => entry.1 == key).map Prod.snd

def replace (entries : TomlEntries) (key : String) (value : Toml) : TomlEntries :=
  entries.map fun entry => if entry.1 == key then (key, value) else entry

def add (entries : TomlEntries) (key : String) (value : Toml) : TomlEntries :=
  entries ++ [(key, value)]

-- Changes the table that a path of keys leads to, making tables on the way where there are
-- none: dotted ones for the path of a dotted key and implied ones for the path of a header. A
-- dotted key does not lead into a table with a header of its own; nothing leads into a value.
def within (dotted : Bool) (change : TableOrigin → TomlEntries → Option TomlEntries) :
    List String → TableOrigin → TomlEntries → Option TomlEntries
  | [], origin, entries => change origin entries
  | key :: rest, _, entries =>
    match entries.get? key with
    | none =>
      let origin := if dotted then TableOrigin.dotted else .implied
      (within dotted change rest origin []).map fun made => entries.add key (.table origin made)
    | some (.table origin found) =>
      if origin = .inlined || (dotted && origin = .header) then none
      else
        (within dotted change rest origin found).map fun made =>
          entries.replace key (.table origin made)
    | some (.tables items) =>
      match items.getLast? with
      | some (.table origin found) =>
        (within dotted change rest origin found).map fun made =>
          entries.replace key (.tables (items.dropLast ++ [.table origin made]))
      | _ => none
    | some _ => none

def define (isDotted : Bool) (key : String) (value : Toml) (origin : TableOrigin)
    (entries : TomlEntries) : Option TomlEntries :=
  if isDotted && origin ≠ .dotted then none
  else if (entries.get? key).isSome then none
  else some (entries.add key value)

def assign (entries : TomlEntries) (path : List String) (key : String) (value : Toml) :
    Option TomlEntries :=
  within true (define (!path.isEmpty) key value) path .header entries

def openTable (entries : TomlEntries) (path : List String) (key : String) : Option TomlEntries :=
  within false
    (fun _ entries =>
      match entries.get? key with
      | none => some (entries.add key (.table .header []))
      | some (.table .implied found) => some (entries.replace key (.table .header found))
      | some _ => none)
    path .header entries

def appendTable (entries : TomlEntries) (path : List String) (key : String) :
    Option TomlEntries :=
  within false
    (fun _ entries =>
      match entries.get? key with
      | none => some (entries.add key (.tables [.table .header []]))
      | some (.tables items) =>
        some (entries.replace key (.tables (items ++ [.table .header []])))
      | some _ => none)
    path .header entries

end TomlEntries

end TopicRouting
