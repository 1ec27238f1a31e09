import TopicRouting.Proofs.Table.Runs
import TopicRouting.Table.Shared

/-!
A shared table in the hands of one caller at a time. Its lookup decides on its own whether the cache
has to be renewed, and before it looks at the key, so it does what the lookup of the table does even
where that is refused; every other request is served under one lock.
-/

set_option autoImplicit false

namespace TopicRouting

universe u

variable {V : Type u}

structure Sight (V : Type u) where
  answer : Answer V
  events : List Event
  stale : Bool

namespace Table

def watch (table : Table V) : List (Request V) → List (Sight V) × Table V
  | [] => ([], table)
  | request :: later =>
    let served := table.serve request
    let rest := served.state.watch later
    (⟨served.result, served.events, served.state.cache.stale⟩ :: rest.1, rest.2)

end Table

namespace SharedTable

def serve (shared : SharedTable V) : Request V → Outcome (SharedTable V) (Answer V)
  | .setRoute key value =>
    let set := shared.setRoute key value
    ⟨.done set.result, set.state, set.events⟩
  | .removeRoute key =>
    let removed := shared.removeRoute key
    ⟨.done removed.result, removed.state, removed.events⟩
  | .removeValue value =>
    let removed := shared.removeValue value
    ⟨.removed removed.result, removed.state, removed.events⟩
  | .setStrategy strategy =>
    let set := shared.setStrategy strategy
    ⟨.done (.ok ()), set.state, set.events⟩
  | .refreshCache =>
    let ready := shared.write fun table => table.refreshCache
    ⟨.done (.ok ()), ready.state, ready.events⟩
  | .lookup key =>
    let found := shared.lookup key
    ⟨.resolved found.result, found.state, found.events⟩
  | .keysRoutedTo value => ⟨.keys (shared.keysRoutedTo value), shared, []⟩
  | .statistics => ⟨.statistics shared.statistics, shared, []⟩
  | .resolve key => ⟨.resolved (shared.read fun table => table.resolve key), shared, []⟩
  | .lookupExhaustive key =>
    ⟨.resolved (shared.read fun table => table.lookupExhaustive key), shared, []⟩
  | .lookupEarlyExit key =>
    ⟨.resolved (shared.read fun table => table.lookupEarlyExit key), shared, []⟩
  | .endpoints expression =>
    let found := shared.read fun table => table.endpoints expression
    ⟨.entries found.value, shared, found.events⟩
  | .traceTree => ⟨.text (shared.read fun table => table.traceTree), shared, []⟩
  | request => shared.write fun table => table.serve request

def watch (shared : SharedTable V) : List (Request V) → List (Sight V) × SharedTable V
  | [] => ([], shared)
  | request :: later =>
    let served := shared.serve request
    let rest := served.state.watch later
    (⟨served.result, served.events, served.state.read fun table => table.cache.stale⟩ :: rest.1,
      rest.2)

theorem try_lookup_eq (table : Table V) (key : String) :
    (ofTable table).tryLookup key =
      if table.strategy = .quickCache ∧ table.cache.stale = true then none
      else some (table.resolve key) := by
  by_cases cached : table.strategy = .quickCache <;> cases stale : table.cache.stale <;>
    simp [tryLookup, read, ofTable, cached, stale]

-- A writer does what the table would do, also when another one has renewed the cache in between.
theorem renewed_lookup_cached (table : Table V) (key : String)
    (cached : table.strategy = .quickCache) :
    (ofTable table).renewedLookup key = (ofTable table).write fun table => table.lookup key := by
  have ensured : table.lookup key = ⟨table.ensureCache.state.resolve key, table.ensureCache.state,
      table.ensureCache.events⟩ := by
    rw [Table.lookup, if_pos cached]
  rw [write, ofTable, ensured]
  rfl

theorem lookup_written (table : Table V) (key : String) :
    (ofTable table).lookup key = (ofTable table).write fun table => table.lookup key := by
  rw [lookup, try_lookup_eq]
  by_cases renewed : table.strategy = .quickCache ∧ table.cache.stale = true
  · rw [if_pos renewed]
    exact renewed_lookup_cached table key renewed.1
  · have current : table.lookup key = ⟨table.resolve key, table, []⟩ := by
      rw [Table.lookup, Table.ensureCache]
      grind
    rw [if_neg renewed, write, ofTable, current]

theorem serve_written (table : Table V) (request : Request V) :
    (ofTable table).serve request = (ofTable table).write fun table => table.serve request := by
  cases request with
  | lookup key =>
      rw [serve, lookup_written]
      rfl
  | _ => rfl

theorem shared_is_table (table : Table V) (requests : List (Request V)) :
    Prod.map id intoInner ((ofTable table).watch requests) = table.watch requests := by
  induction requests generalizing table with
  | nil => rfl
  | cons request later ih =>
      have rest := ih (table.serve request).state
      simp only [watch, serve_written, Table.watch, ← rest]
      rfl

end SharedTable

end TopicRouting
