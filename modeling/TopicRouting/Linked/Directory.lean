import TopicRouting.Linked.Arena

set_option autoImplicit false

namespace TopicRouting

structure Directory where
  slots : List (Option NodeId)
  index : List (String × Nat)
deriving DecidableEq, Repr

namespace Directory

def ofCapacity (capacity : Nat) : Directory := ⟨List.replicate capacity none, []⟩

def capacity (directory : Directory) : Nat := directory.slots.length

def count (directory : Directory) : Nat := directory.index.length

def ids (directory : Directory) : List NodeId := directory.slots.filterMap id

def slot? (directory : Directory) (text : String) : Option Nat := directory.index.lookup text

def vacancy? (directory : Directory) : Option Nat := directory.slots.findIdx? Option.isNone

def put (directory : Directory) (text : String) (slot : Nat) (root : NodeId) : Directory :=
  ⟨directory.slots.set slot (some root),
    (text, slot) :: directory.index.filter fun entry => entry.1 ≠ text⟩

def drop (directory : Directory) (text : String) (slot : Nat) : Directory :=
  ⟨directory.slots.set slot none, directory.index.filter fun entry => entry.1 ≠ text⟩

end Directory

end TopicRouting
