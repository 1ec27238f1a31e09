import TopicRouting.Table.Forest

/-!
The quick-match cache: the resolvable paths as one flat list, kept in descending order so that
a longer path comes before every shorter one it extends. A key resolves through the first
entry it matches.
-/

set_option autoImplicit false

namespace TopicRouting

universe u

structure QuickMatch (V : Type u) where
  path : String
  value : V
  isLiteral : Bool
deriving DecidableEq, Repr

namespace QuickMatch

variable {V : Type u}

def ofPath (path : Path) (value : V) : QuickMatch V :=
  ⟨path.text, value, path.isLiteral⟩

def length (entry : QuickMatch V) : Nat := entry.path.utf8ByteSize

-- Whether a key resolves through an entry: the path starts the key and ends where a segment
-- ends, or is the whole key. Nothing is checked about the key.
def covers (entry : QuickMatch V) (key : String) : Bool :=
  entry.path.toList.isPrefixOf key.toList &&
    (key.utf8ByteSize == entry.path.utf8ByteSize ||
      (!entry.isLiteral && entry.path.toList.getLast? == some separator))

def descending (entries : List (QuickMatch V)) : List (QuickMatch V) :=
  entries.mergeSort fun a b => decide (b.path ≤ a.path)

def representatives (eqv : Comparator V) (entries : List (QuickMatch V)) :
    List (QuickMatch V) :=
  entries.foldl
    (fun kept entry =>
      if kept.any fun earlier => eqv earlier.value entry.value then kept else kept ++ [entry])
    []

end QuickMatch

def Forest.quickMatches {V : Type u} (forest : Forest V) : List (QuickMatch V) :=
  forest.topmost.map fun (path, value) => .ofPath path value

structure QuickCache (V : Type u) where
  entries : List (QuickMatch V)
  -- Whether the forest changed since the entries were collected.
  stale : Bool
deriving DecidableEq, Repr

namespace QuickCache

variable {V : Type u}

def empty : QuickCache V := ⟨[], true⟩

def invalidate (cache : QuickCache V) : QuickCache V :=
  { cache with stale := true }

def ofForest (forest : Forest V) : QuickCache V :=
  ⟨QuickMatch.descending forest.quickMatches, false⟩

def find? (cache : QuickCache V) (key : String) : Option (QuickMatch V) :=
  cache.entries.find? fun entry => entry.covers key

end QuickCache

end TopicRouting
