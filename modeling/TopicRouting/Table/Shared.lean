import TopicRouting.Table.Registration
import TopicRouting.Table.Removal
import TopicRouting.Table.Report

/-!
A table behind a reader and writer lock. Lookups read; a quick lookup that finds the cache
stale gives up the lock, brings the cache up to date as a writer and then resolves the key as a
reader.
-/

set_option autoImplicit false

namespace TopicRouting

universe u v

structure SharedTable (V : Type u) where
  table : Table V

namespace SharedTable

variable {V : Type u}

def ofTable (table : Table V) : SharedTable V := ⟨table⟩

def intoInner (shared : SharedTable V) : Table V := shared.table

def write {α : Type v} (shared : SharedTable V) (operation : Table V → Outcome (Table V) α) :
    Outcome (SharedTable V) α :=
  let done := operation shared.table
  ⟨done.result, ⟨done.state⟩, done.events⟩

def read {α : Type v} (shared : SharedTable V) (observe : Table V → α) : α :=
  observe shared.table

-- The first phase of a lookup, as a reader. There is no result if the cache is needed but stale.
def tryLookup (shared : SharedTable V) (key : String) : Option (Except RouteError V) :=
  shared.read fun table =>
    if table.strategy ≠ .quickCache || !table.cache.stale then some (table.resolve key) else none

-- The second phase, as a writer that becomes a reader. Another writer may have brought the cache
-- up to date in between.
def renewedLookup (shared : SharedTable V) (key : String) :
    Outcome (SharedTable V) (Except RouteError V) :=
  let renewed := shared.write fun table =>
    if table.cache.stale then table.refreshCache else ⟨(), table, []⟩
  ⟨renewed.state.read fun table => table.resolve key, renewed.state, renewed.events⟩

def lookup (shared : SharedTable V) (key : String) :
    Outcome (SharedTable V) (Except RouteError V) :=
  match shared.tryLookup key with
  | some result => ⟨result, shared, []⟩
  | none => shared.renewedLookup key

def setRoute (shared : SharedTable V) (key : String) (value : V) :
    Outcome (SharedTable V) (Except RouteError Unit) :=
  shared.write fun table => table.setRoute key value

def removeRoute (shared : SharedTable V) (key : String) :
    Outcome (SharedTable V) (Except RouteError Unit) :=
  shared.write fun table => table.removeRoute key

def removeValue (shared : SharedTable V) (value : V) : Outcome (SharedTable V) Nat :=
  shared.write fun table => table.removeValue value

def keysRoutedTo (shared : SharedTable V) (value : V) : List String :=
  shared.read fun table => table.keysRoutedTo value

def setStrategy (shared : SharedTable V) (strategy : Strategy) : Outcome (SharedTable V) Unit :=
  shared.write fun table => table.setStrategy strategy

def strategy (shared : SharedTable V) : Strategy :=
  shared.read fun table => table.strategy

def statistics (shared : SharedTable V) : Stats :=
  shared.read fun table => table.statistics

end SharedTable

end TopicRouting
