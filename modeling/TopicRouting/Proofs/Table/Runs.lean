import TopicRouting.Table.Reconciliation
import TopicRouting.Table.Registration
import TopicRouting.Table.Removal
import TopicRouting.Table.Report

/-!
Runs of a table: the requests it serves, what it answers and which tables come about. Every
comparator of a run is given when the table is built or installed later, and a statement about
runs says which comparators it permits.
-/

set_option autoImplicit false

namespace TopicRouting

universe u

inductive Request (V : Type u) where
  | setRoute (key : String) (value : V)
  | removeRoute (key : String)
  | removeValue (value : V)
  | setComparator (eqv : Comparator V)
  | setStrategy (strategy : Strategy)
  | refreshCache
  | dumpQuickMatches
  | lookup (key : String)
  | lookupQuick (key : String)
  | resolve (key : String)
  | lookupExhaustive (key : String)
  | lookupEarlyExit (key : String)
  | keysRoutedTo (value : V)
  | endpoints (expression : String)
  | statistics
  | traceTree

inductive Answer (V : Type u) where
  | done (result : Except RouteError Unit)
  | removed (routes : Nat)
  | resolved (result : Except RouteError V)
  | keys (keys : List String)
  | entries (result : Except RouteError (List (QuickMatch V)))
  | statistics (stats : Stats)
  | text (text : String)

variable {V : Type u}

def Request.Permitted (permits : Comparator V → Prop) : Request V → Prop
  | .setComparator eqv => permits eqv
  | _ => True

-- Whether a request only asks for something. The cache may be renewed by that.
def Request.reads : Request V → Bool
  | .setRoute .. | .removeRoute _ | .removeValue _ | .setComparator _ | .setStrategy _ => false
  | _ => true

namespace Table

def serve (table : Table V) : Request V → Outcome (Table V) (Answer V)
  | .setRoute key value =>
    let set := table.setRoute key value
    ⟨.done set.result, set.state, set.events⟩
  | .removeRoute key =>
    let removed := table.removeRoute key
    ⟨.done removed.result, removed.state, removed.events⟩
  | .removeValue value =>
    let removed := table.removeValue value
    ⟨.removed removed.result, removed.state, removed.events⟩
  | .setComparator eqv =>
    let set := table.setComparator eqv
    ⟨.done (.ok ()), set.state, set.events⟩
  | .setStrategy strategy =>
    let set := table.setStrategy strategy
    ⟨.done (.ok ()), set.state, set.events⟩
  | .refreshCache =>
    let ready := table.refreshCache
    ⟨.done (.ok ()), ready.state, ready.events⟩
  | .dumpQuickMatches =>
    let dumped := table.dumpQuickMatches
    ⟨.entries (.ok dumped.result), dumped.state, dumped.events⟩
  | .lookup key =>
    let found := table.lookup key
    ⟨.resolved found.result, found.state, found.events⟩
  | .lookupQuick key =>
    let found := table.lookupQuick key
    ⟨.resolved found.result, found.state, found.events⟩
  | .resolve key => ⟨.resolved (table.resolve key), table, []⟩
  | .lookupExhaustive key => ⟨.resolved (table.lookupExhaustive key), table, []⟩
  | .lookupEarlyExit key => ⟨.resolved (table.lookupEarlyExit key), table, []⟩
  | .keysRoutedTo value => ⟨.keys (table.keysRoutedTo value), table, []⟩
  | .endpoints expression =>
    let found := table.endpoints expression
    ⟨.entries found.value, table, found.events⟩
  | .statistics => ⟨.statistics table.statistics, table, []⟩
  | .traceTree => ⟨.text table.traceTree, table, []⟩

inductive Reachable (permits : Comparator V → Prop) : Table V → Prop where
  | start (config : TableConfig) (eqv : Comparator V) (permitted : permits eqv) :
      Reachable permits (withComparator config eqv)
  | step (table : Table V) (request : Request V) (earlier : Reachable permits table)
      (permitted : request.Permitted permits) : Reachable permits (table.serve request).state

theorem reachable_weaken (permits allows : Comparator V → Prop)
    (weaker : ∀ eqv, permits eqv → allows eqv) (table : Table V)
    (reachable : Reachable permits table) : Reachable allows table := by
  induction reachable with
  | start config eqv permitted => exact .start config eqv (weaker eqv permitted)
  | step table request _ permitted ih =>
      refine .step table request ih ?_
      cases request with
      | setComparator eqv => exact weaker eqv permitted
      | _ => trivial

def serveAll (table : Table V) (requests : List (Request V)) : Table V :=
  requests.foldl (fun table request => (table.serve request).state) table

def serveEach (table : Table V) : List (Request V) → Outcome (Table V) (List (Answer V))
  | [] => ⟨[], table, []⟩
  | request :: later =>
    let first := table.serve request
    let rest := first.state.serveEach later
    ⟨first.result :: rest.result, rest.state, first.events ++ rest.events⟩

theorem serve_each_state (table : Table V) (requests : List (Request V)) :
    (table.serveEach requests).state = table.serveAll requests := by
  induction requests generalizing table with
  | nil => rfl
  | cons request later ih => exact ih (table.serve request).state

theorem reachable_serve_all (permits : Comparator V → Prop) (table : Table V)
    (reachable : Reachable permits table) (requests : List (Request V))
    (permitted : ∀ request ∈ requests, request.Permitted permits) :
    Reachable permits (table.serveAll requests) := by
  induction requests generalizing table with
  | nil => exact reachable
  | cons request rest ih =>
      have first := Reachable.step table request reachable (permitted request (by simp))
      exact ih _ first fun later member => permitted later (List.mem_cons_of_mem _ member)

theorem reachable_iff_run (permits : Comparator V → Prop) (table : Table V) :
    Reachable permits table ↔
      ∃ config eqv requests, permits eqv ∧ (∀ request ∈ requests, request.Permitted permits) ∧
        (withComparator config eqv).serveAll requests = table := by
  constructor
  · intro reachable
    induction reachable with
    | start config eqv permitted => exact ⟨config, eqv, [], permitted, by simp, rfl⟩
    | step table request _ permitted ih =>
        obtain ⟨config, eqv, requests, start, each, rfl⟩ := ih
        refine ⟨config, eqv, requests ++ [request], start, ?_, by simp [serveAll]⟩
        intro other member
        rcases List.mem_append.mp member with earlier | last
        · exact each other earlier
        · rwa [List.mem_singleton.mp last]
  · rintro ⟨config, eqv, requests, start, each, rfl⟩
    exact reachable_serve_all permits _ (.start config eqv start) requests each

theorem key_kind_iff (table : Table V) (key : String) (kind : KeyKind) :
    table.keyKind key = .ok kind ↔ table.config.keyRules.classify key = .ok kind := by
  cases classified : table.config.keyRules.classify key <;> simp [keyKind, classified]

theorem key_path_iff (table : Table V) (key : String) (path : Path) :
    table.keyPath key = .ok path ↔
      ∃ kind, table.config.keyRules.classify key = .ok kind ∧ kind.path key = path := by
  cases classified : table.config.keyRules.classify key <;> simp [keyPath, keyKind, classified]

theorem detach_matching_keeps (P : Table V → Prop) (value : V)
    (keeps : ∀ table path, P table → table.stillMatches value path = true →
      P (table.detach path).state) (table : Table V) (paths : List Path) (holds : P table) :
    P (detachMatching value table paths).state := by
  induction paths generalizing table with
  | nil => exact holds
  | cons path rest ih =>
      rw [detachMatching]
      by_cases still : table.stillMatches value path = true
      · rw [if_pos still]
        exact ih _ (keeps table path holds still)
      · rw [if_neg still]
        exact ih table holds

theorem removal_passes_keeps (P : Table V → Prop) (value : V)
    (keeps : ∀ table path, P table → table.stillMatches value path = true →
      P (table.detach path).state) (limit : Nat) (table : Table V) (holds : P table) :
    P (removalPasses value limit table).state := by
  induction limit generalizing table with
  | zero => exact holds
  | succ limit ih =>
      rw [removalPasses]
      cases table.matching value with
      | nil => exact holds
      | cons first rest =>
          exact ih _ (detach_matching_keeps P value keeps table (first :: rest) holds)

theorem remove_value_keeps (P : Table V → Prop)
    (keeps : ∀ table path, P table → P (table.detach path).state) (table : Table V) (value : V)
    (holds : P table) : P (table.removeValue value).state :=
  removal_passes_keeps P value (fun table path holds _ => keeps table path holds) table.nodeCount
    table holds

section

variable (P : Table V → Prop) (refresh : ∀ table, P table → P table.refreshCache.state)
  (table : Table V)
include refresh

theorem ensure_cache_keeps (holds : P table) : P table.ensureCache.state := by
  rw [ensureCache]
  by_cases stale : table.cache.stale = true
  · rw [if_pos stale]
    exact refresh table holds
  · rwa [if_neg stale]

theorem reading_keeps (request : Request V) (reads : request.reads = true) (holds : P table) :
    P (table.serve request).state := by
  cases request with
  | setRoute key value => cases reads
  | removeRoute key => cases reads
  | removeValue value => cases reads
  | setComparator eqv => cases reads
  | setStrategy strategy => cases reads
  | refreshCache => exact refresh table holds
  | dumpQuickMatches => exact ensure_cache_keeps P refresh table holds
  | lookup key =>
      simp only [serve, lookup]
      by_cases cached : table.strategy = .quickCache
      · simpa only [if_pos cached] using ensure_cache_keeps P refresh table holds
      · simpa only [if_neg cached] using holds
  | lookupQuick key =>
      simp only [serve, lookupQuick]
      cases table.keyPath key with
      | error error => exact holds
      | ok path => exact ensure_cache_keeps P refresh table holds
  | resolve key => exact holds
  | lookupExhaustive key => exact holds
  | lookupEarlyExit key => exact holds
  | keysRoutedTo value => exact holds
  | endpoints expression => exact holds
  | statistics => exact holds
  | traceTree => exact holds

end

-- Every request comes down to registering an accepted route, detaching nodes, installing a
-- comparator, selecting a strategy or collecting the cache, so an invariant has to be shown for
-- these alone.
structure Kept (permits : Comparator V → Prop) (P : Table V → Prop) : Prop where
  start : ∀ config eqv, permits eqv → P (withComparator config eqv)
  register : ∀ table key value kind, P table → table.accept key value = .ok kind →
    P (table.register (kind.path key) value).state
  detach : ∀ table path, P table → P (table.detach path).state
  install : ∀ table eqv, P table → permits eqv → P (table.setComparator eqv).state
  select : ∀ table strategy, P table → P (table.setStrategy strategy).state
  refresh : ∀ table, P table → P table.refreshCache.state

section

variable (permits : Comparator V → Prop) (P : Table V → Prop) (kept : Kept permits P)
include kept

theorem set_route_keeps (table : Table V) (key : String) (value : V) (holds : P table) :
    P (table.setRoute key value).state := by
  rw [setRoute]
  cases accepted : table.accept key value with
  | error error => exact holds
  | ok kind => exact kept.register table key value kind holds accepted

theorem remove_route_keeps (table : Table V) (key : String) (holds : P table) :
    P (table.removeRoute key).state := by
  rw [removeRoute]
  cases table.keyPath key with
  | error error => exact holds
  | ok path =>
      by_cases registered : table.isRegistered path = true
      · simpa only [if_pos registered] using kept.detach table path holds
      · simpa only [if_neg registered] using holds

theorem serve_keeps (table : Table V) (request : Request V)
    (permitted : request.Permitted permits) (holds : P table) :
    P (table.serve request).state := by
  cases request with
  | setRoute key value => exact set_route_keeps permits P kept table key value holds
  | removeRoute key => exact remove_route_keeps permits P kept table key holds
  | removeValue value => exact remove_value_keeps P kept.detach table value holds
  | setComparator eqv => exact kept.install table eqv holds permitted
  | setStrategy strategy => exact kept.select table strategy holds
  | _ => exact reading_keeps P kept.refresh table _ rfl holds

theorem reachable_keeps (table : Table V) (reachable : Reachable permits table) : P table := by
  induction reachable with
  | start config eqv permitted => exact kept.start config eqv permitted
  | step table request _ permitted ih => exact serve_keeps permits P kept table request permitted ih

end

theorem detach_state (table : Table V) (path : Path) :
    (table.detach path).state = table ∨
      ∃ segment rest, (table.detach path).state =
        { table with
          roots := (table.roots.detach table.eqv segment rest).state
          cache := table.cache.invalidate } := by
  cases path with
  | nil => exact Or.inl rfl
  | cons segment rest =>
      cases found : table.forest.node? (segment :: rest) with
      | none => exact Or.inl (by simp only [detach, found])
      | some here => exact Or.inr ⟨segment, rest, by simp only [detach, found]⟩

theorem register_comparator (table : Table V) (path : Path) (value : V) :
    (table.register path value).state.eqv = table.eqv := by
  cases path <;> rfl

theorem detach_comparator (table : Table V) (path : Path) :
    (table.detach path).state.eqv = table.eqv := by
  rcases detach_state table path with same | ⟨segment, rest, changed⟩
  · rw [same]
  · rw [changed]

theorem kept_comparator (permits : Comparator V → Prop) :
    Kept permits fun table => permits table.eqv where
  start _ _ permitted := permitted
  register table key value kind permitted _ := by rwa [register_comparator]
  detach table path permitted := by rwa [detach_comparator]
  install _ _ _ permitted := permitted
  select _ _ permitted := permitted
  refresh _ permitted := permitted

theorem reachable_comparator (permits : Comparator V → Prop) (table : Table V)
    (reachable : Reachable permits table) : permits table.eqv :=
  reachable_keeps permits _ (kept_comparator permits) table reachable

end Table

end TopicRouting
