import TopicRouting.Table.Change

/-!
The root directory: a bounded number of slots, each vacant or holding a root with its tree.
A new root takes the first vacant slot, so the order of roots is the order of slots and the
slot of a removed root is used again.
-/

set_option autoImplicit false

namespace TopicRouting

universe u

structure Tree (V : Type u) where
  segment : Segment
  target : Target V
  children : Forest V
deriving DecidableEq, Repr

def Tree.toForest {V : Type u} (tree : Tree V) : Forest V :=
  .node tree.segment tree.target tree.children .nil

def Tree.chain {V : Type u} (value : V) (segment : Segment) : Path → Tree V
  | [] => ⟨segment, .route value, .nil⟩
  | next :: rest => ⟨segment, .collapsed value, Forest.chain value next rest⟩

def Forest.firstTree? {V : Type u} : Forest V → Option (Tree V)
  | .nil => none
  | .node segment target children _ => some ⟨segment, target, children⟩

structure Roots (V : Type u) where
  capacity : Nat
  -- The slots that were ever taken; those past the end are vacant.
  slots : List (Option (Tree V))
deriving DecidableEq, Repr

namespace Roots

variable {V : Type u}

def empty (capacity : Nat) : Roots V := ⟨capacity, []⟩

def trees (roots : Roots V) : List (Tree V) :=
  roots.slots.filterMap id

def forest (roots : Roots V) : Forest V :=
  roots.trees.foldr (fun tree rest => .node tree.segment tree.target tree.children rest) .nil

def count (roots : Roots V) : Nat := roots.trees.length

def dynamicCount (roots : Roots V) : Nat :=
  roots.trees.foldr (fun tree total => tree.children.size + total) 0

def isFull (roots : Roots V) : Bool := roots.capacity ≤ roots.count

def find? (roots : Roots V) (segment : Segment) : Option (Tree V) :=
  roots.trees.find? fun tree => tree.segment = segment

def vacancy (roots : Roots V) : Nat :=
  roots.slots.findIdx Option.isNone

def place (tree : Tree V) : List (Option (Tree V)) → List (Option (Tree V))
  | [] => [some tree]
  | none :: rest => some tree :: rest
  | some held :: rest => some held :: place tree rest

def add (roots : Roots V) (tree : Tree V) : Roots V :=
  { roots with slots := place tree roots.slots }

def modify (roots : Roots V) (segment : Segment) (f : Tree V → Option (Tree V)) : Roots V :=
  { roots with
    slots := roots.slots.map fun slot =>
      slot.bind fun tree => if tree.segment = segment then f tree else some tree }

def map (roots : Roots V) (f : Tree V → Tree V) : Roots V :=
  { roots with slots := roots.slots.map fun slot => slot.map f }

def register (roots : Roots V) (eqv : Comparator V) (value : V) (segment : Segment)
    (rest : Path) : Outcome (Roots V) Unit :=
  match roots.find? segment with
  | some tree =>
    let change := tree.toForest.register eqv value segment rest false
    ⟨(), roots.modify segment fun _ => change.forest.firstTree?, change.events⟩
  | none => ⟨(), roots.add (.chain value segment rest), [Journal.rootAdded roots.vacancy segment]⟩

def detach (roots : Roots V) (eqv : Comparator V) (segment : Segment) (rest : Path) :
    Outcome (Roots V) Unit :=
  match roots.find? segment with
  | none => ⟨(), roots, []⟩
  | some tree =>
    let change := tree.toForest.detach eqv segment rest
    match change.forest.firstTree? with
    | some left => ⟨(), roots.modify segment fun _ => some left, change.events⟩
    | none =>
      ⟨(), roots.modify segment fun _ => none, change.events ++ [Journal.rootRemoved segment]⟩

def reconcile (roots : Roots V) (eqv : Comparator V) : Outcome (Roots V) Unit :=
  ⟨(),
    roots.map fun tree =>
      let settled := tree.children.reconcile eqv
      { tree with target := Forest.reconciledTarget eqv tree.target settled, children := settled },
    roots.trees.reverse.flatMap fun tree => tree.toForest.withdrawals eqv⟩

end Roots

end TopicRouting
