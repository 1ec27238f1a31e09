import TopicRouting.Topic.Segment

/-!
Cells for linked nodes. A node is one cell of the arena and is referred to by its number, so
parents and children are plain numbers. Cells given up are kept on a free list and used again;
nothing here keeps a number from outliving its cell.
-/

set_option autoImplicit false

namespace TopicRouting

abbrev NodeId := Nat

structure Cell (V : Type) where
  segment : Segment
  value : Option V
  -- Whether a route was registered for exactly this node.
  routed : Bool
  -- None for the nodes in the root directory.
  parent : Option NodeId
  -- In the order of insertion.
  children : List NodeId
deriving DecidableEq, Repr

structure Arena (V : Type) where
  slots : List (Option (Cell V))
  -- The slot given up last comes first.
  free : List NodeId
  live : Nat
deriving DecidableEq, Repr

namespace Arena

variable {V : Type}

def empty : Arena V := ⟨[], [], 0⟩

def cell? (arena : Arena V) (id : NodeId) : Option (Cell V) := arena.slots[id]?.join

def contains (arena : Arena V) (id : NodeId) : Bool := (arena.cell? id).isSome

def write (arena : Arena V) (id : NodeId) (cell : Cell V) : Arena V :=
  { arena with slots := arena.slots.set id (some cell) }

def next (arena : Arena V) : NodeId := arena.free.head?.getD arena.slots.length

def insert (arena : Arena V) (cell : Cell V) : Arena V :=
  match arena.free with
  | id :: free => ⟨arena.slots.set id (some cell), free, arena.live + 1⟩
  | [] => ⟨arena.slots ++ [some cell], [], arena.live + 1⟩

def vacate (arena : Arena V) (id : NodeId) : Arena V :=
  ⟨arena.slots.set id none, id :: arena.free, arena.live - 1⟩

end Arena

end TopicRouting
