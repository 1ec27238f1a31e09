import TopicRouting.Toml.Basic

set_option autoImplicit false

namespace TopicRouting

namespace Toml

structure Pair where
  path : List String
  key : String
  value : Toml
deriving Repr

structure Section where
  -- The keys of the header; the document itself has none.
  header : List String
  repeated : Bool
  pairs : List Pair
deriving Repr

namespace Section

def below (part : Section) : Section := { part with header := part.header.drop 1 }

def entries? (part : Section) : Option TomlEntries :=
  part.pairs.foldlM (fun entries pair => TomlEntries.assign entries pair.path pair.key pair.value)
    []

def startsItem (part : Section) : Bool := part.repeated && part.header.isEmpty

end Section

def openSection (part : Section) (entries : TomlEntries) : Option TomlEntries :=
  match part.header.getLast? with
  | none => some entries
  | some key =>
    if part.repeated then entries.appendTable part.header.dropLast key
    else entries.openTable part.header.dropLast key

def addSection (entries : TomlEntries) (part : Section) : Option TomlEntries :=
  (openSection part entries).bind fun entries =>
    part.pairs.foldlM
      (fun entries pair =>
        TomlEntries.within false
          (fun _ entries => TomlEntries.assign entries pair.path pair.key pair.value)
          part.header .header entries)
      entries

def joinSections (parts : List Section) : Option TomlEntries := parts.foldlM addSection []

def itemsOf (parts : List Section) : List (List Section) :=
  let (before, items) := parts.foldr
    (fun part (current, items) =>
      if part.startsItem then ([], ({ part with repeated := false } :: current) :: items)
      else (part :: current, items))
    (([] : List Section), ([] : List (List Section)))
  if before.isEmpty then items else before :: items

-- The table of all sections that lead into it. No more than one of them may end there, and
-- every key may come from one place only.
def gatherSections : (fuel : Nat) → List Section → Option TomlEntries
  | 0, _ => none
  | fuel + 1, parts => do
    let own ← match parts.filter fun part => part.header.isEmpty with
      | [] => some []
      | [part] => if part.repeated then none else part.entries?
      | _ => none
    let keys := (parts.filterMap fun part => part.header.head?).eraseDups
    let tables ← keys.mapM fun key => do
      let inner := (parts.filter fun part => part.header.head? = some key).map Section.below
      if inner.head?.any Section.startsItem then
        let items ← (itemsOf inner).mapM fun item =>
          (gatherSections fuel item).map (Toml.table .header)
        return (key, Toml.tables items)
      else
        return (key, Toml.table .header (← gatherSections fuel inner))
    if own.any fun entry => keys.contains entry.1 then none else some (own ++ tables)

def gather (parts : List Section) : Option TomlEntries :=
  gatherSections ((parts.map fun part => part.header.length).foldl max 0 + 1) parts

end Toml

end TopicRouting
