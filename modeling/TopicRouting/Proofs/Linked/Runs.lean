import TopicRouting.Proofs.Linked.Answering
import TopicRouting.Proofs.Linked.Passes
import TopicRouting.Proofs.Linked.Registering

set_option autoImplicit false

namespace TopicRouting

open Layout

variable {V : Type}

namespace Linked

def serve : Request V → Action V (Answer V)
  | .setRoute key value => do pure (.done (← attempt (setRoute key value)))
  | .removeRoute key => do pure (.done (← attempt (removeRoute key)))
  | .removeValue value => do pure (.removed (← removeValue value))
  | .setComparator eqv => do
    setComparator eqv
    pure (.done (.ok ()))
  | .setStrategy strategy => do
    setStrategy strategy
    pure (.done (.ok ()))
  | .refreshCache => do
    refreshCache
    pure (.done (.ok ()))
  | .dumpQuickMatches => do pure (.entries (.ok (← dumpQuickMatches)))
  | .lookup key => do pure (.resolved (← attempt (lookup key)))
  | .lookupQuick key => do pure (.resolved (← attempt (lookupQuick key)))
  | .resolve key => do pure (.resolved (← attempt (resolve key)))
  | .lookupExhaustive key => do pure (.resolved (← attempt (lookupExhaustive key)))
  | .lookupEarlyExit key => do pure (.resolved (← attempt (lookupEarlyExit key)))
  | .keysRoutedTo value => do pure (.keys (← keysRoutedTo value))
  | .endpoints expression => do pure (.entries (← attempt (endpoints expression)))
  | .statistics => do pure (.statistics (← statistics))
  | .traceTree => do pure (.text (← traceTree))

def serveAll : List (Request V) → Action V (List (Answer V))
  | [] => pure []
  | request :: later => do
    let answer ← serve request
    pure (answer :: (← serveAll later))

theorem run_ends {α : Type} (action : Action V α) (linked next : LinkedTable V)
    (result : Except RouteError α) (events : List Event)
    (ends : Ends action linked result next events) :
    run action linked = some (.ok (result, ⟨next, events.map .event⟩)) := by
  rw [run, ends [], List.nil_append]

end Linked

namespace LinkedTable

section

variable (linked : LinkedTable V) (table : Table V) (layout : Layout V)
  (represents : linked.Represents table layout)
include represents

theorem set_route_refines (key : String) (value : V) :
    linked.Follows (Linked.setRoute key value) (table.setRoute key value).result
      (table.setRoute key value).state (table.setRoute key value).events := by
  rcases set_route_cases linked table layout represents key value with
    ⟨error, refused, ends⟩ | ⟨accepted, follows⟩
  · rw [refused]
    exact ⟨linked, layout, ends, represents⟩
  · rw [accepted]
    exact follows

theorem remove_route_refines (key : String) :
    linked.Follows (Linked.removeRoute key) (table.removeRoute key).result
      (table.removeRoute key).state (table.removeRoute key).events := by
  rcases remove_route_cases linked table layout represents key with
    ⟨error, refused, ends⟩ | ⟨accepted, next, left, ends, represented, _⟩
  · rw [refused]
    exact ⟨linked, layout, ends, represents⟩
  · rw [accepted]
    exact ⟨next, left, ends, represented⟩

theorem serve_consults (request : Request V) (reads : request.reads = true) :
    linked.Consults layout (Linked.serve request) (.ok (table.serve request).result)
      (table.serve request).state (table.serve request).events := by
  have remains : ∀ {α : Type} (action : Action V α) (result : α),
      Linked.Reads action linked result → linked.Consults layout action (.ok result) table [] :=
    fun _ _ found => consults_ends linked table layout represents _ _ _ (Linked.ends_of_reads found)
  have refusable : ∀ {α : Type} (action : Action V α) (result : Except RouteError α)
      (events : List Event), Linked.Ends action linked result linked events →
        linked.Consults layout (Linked.attempt action) (.ok result) table events :=
    fun _ _ _ ends => consults_attempt linked layout _ _ _ _
      (consults_ends linked table layout represents _ _ _ ends)
  cases request with
  | setRoute key value => cases reads
  | removeRoute key => cases reads
  | removeValue value => cases reads
  | setComparator eqv => cases reads
  | setStrategy strategy => cases reads
  | refreshCache =>
      exact consults_last linked layout _ (fun _ => Answer.done (.ok ())) _ _ _
        (refresh_consults linked table layout represents)
  | dumpQuickMatches =>
      exact consults_last linked layout _ (fun entries => Answer.entries (.ok entries)) _ _ _
        (dump_consults linked table layout represents)
  | lookup key =>
      exact consults_last linked layout _ _ _ _ _ (consults_attempt linked layout _ _ _ _
        (lookup_consults linked table layout represents key))
  | lookupQuick key =>
      exact consults_last linked layout _ _ _ _ _ (consults_attempt linked layout _ _ _ _
        (lookup_quick_consults linked table layout represents key))
  | resolve key =>
      exact consults_last linked layout _ _ _ _ _
        (refusable _ _ _ (ends_resolve linked table layout represents key))
  | lookupExhaustive key =>
      exact consults_last linked layout _ _ _ _ _
        (refusable _ _ _ (ends_lookup_exhaustive linked table layout represents key))
  | lookupEarlyExit key =>
      exact consults_last linked layout _ _ _ _ _
        (refusable _ _ _ (ends_lookup_early_exit linked table layout represents key))
  | keysRoutedTo value =>
      exact consults_last linked layout _ _ _ _ _
        (remains _ _ (reads_keys_routed_to linked table layout represents value))
  | endpoints expression =>
      exact consults_last linked layout _ _ _ _ _
        (refusable _ _ _ (endpoints_refines linked table layout represents expression))
  | statistics =>
      exact consults_last linked layout _ _ _ _ _
        (remains _ _ (reads_statistics linked table layout represents))
  | traceTree =>
      exact consults_last linked layout _ _ _ _ _
        (remains _ _ (reads_trace_tree linked table layout represents))

theorem serve_refines (request : Request V) :
    linked.Follows (Linked.serve request) (.ok (table.serve request).result)
      (table.serve request).state (table.serve request).events := by
  cases reads : request.reads with
  | true =>
      exact consults_follows linked layout _ _ _ _
        (serve_consults linked table layout represents request reads)
  | false =>
      cases request with
      | setRoute key value =>
          exact follows_last linked _ _ _ _ _ (follows_attempt linked _ _ _ _
            (set_route_refines linked table layout represents key value))
      | removeRoute key =>
          exact follows_last linked _ _ _ _ _ (follows_attempt linked _ _ _ _
            (remove_route_refines linked table layout represents key))
      | removeValue value =>
          exact follows_last linked _ _ _ _ _
            (remove_value_refines linked table layout represents value)
      | setComparator eqv =>
          exact follows_last linked _ (fun _ => Answer.done (.ok ())) _ _ _
            (set_comparator_refines linked table layout represents eqv)
      | setStrategy strategy =>
          exact follows_last linked _ (fun _ => Answer.done (.ok ())) _ _ _
            (set_strategy_refines linked table layout represents strategy)
      | _ => cases reads

end

theorem start_represents (config : TableConfig) (eqv : Comparator V) :
    (withComparator config eqv).Represents (.withComparator config eqv)
      (List.replicate config.rootCapacity none) := by
  have vacant : plants (List.replicate config.rootCapacity (none : Option (Plant V))) = [] := by
    simp [plants]
  have entries : entries 0 (List.replicate config.rootCapacity (none : Option (Plant V))) = [] := by
    rw [← List.length_eq_zero_iff, entries_length, vacant]
    rfl
  have empty : grove (List.replicate config.rootCapacity (none : Option (Plant V))) = .nil := by
    induction config.rootCapacity with
    | zero => rfl
    | succ count ih => simpa [List.replicate_succ, grove, Plant.remains, Grove.append] using ih
  have kept := Table.kept_fits (V := V) fun _ => True
  refine ⟨rfl, rfl, rfl, rfl, ?_, ⟨?_, ?_, ?_⟩, ?_, ?_, kept.start config eqv trivial⟩
  · simp [Table.withComparator, Roots.padded, Roots.empty]
  · simp [withComparator, Directory.ofCapacity]
  · rw [entries]
    exact .nil
  · rw [vacant]
    exact List.nodup_nil
  · rw [empty]
    exact ⟨trivial, Arena.tallies_empty⟩
  · exact Table.start_sound config eqv

theorem serve_all_refines (requests : List (Request V)) (linked : LinkedTable V) (table : Table V)
    (layout : Layout V) (represents : linked.Represents table layout) :
    linked.Follows (Linked.serveAll requests) (.ok (table.serveEach requests).result)
      (table.serveEach requests).state (table.serveEach requests).events := by
  induction requests generalizing linked table layout with
  | nil => exact ⟨linked, layout, Linked.ends_of_reads (Linked.reads_pure linked []), represents⟩
  | cons request later ih =>
      refine follows_bind linked _ _ _ _ _ _ _ _
        (serve_refines linked table layout represents request) ?_
      intro next left represented
      exact follows_last next _ (fun answers => (table.serve request).result :: answers) _ _ _
        (ih next _ left represented)

-- The linked tables that some run comes to, under whatever comparators. Requests may be refused
-- on the way, and lapses may be noted.
def Reachable (linked : LinkedTable V) : Prop :=
  ∃ (config : TableConfig) (eqv : Comparator V) (requests : List (Request V))
    (result : Except RouteError (List (Answer V))) (notices : List Notice),
    Linked.run (Linked.serveAll requests) (withComparator config eqv) =
      some (.ok (result, ⟨linked, notices⟩))

theorem reachable_represents (linked : LinkedTable V) (reachable : linked.Reachable) :
    ∃ (table : Table V) (layout : Layout V), linked.Represents table layout := by
  obtain ⟨config, eqv, requests, result, notices, ran⟩ := reachable
  obtain ⟨next, left, ends, represents⟩ :=
    serve_all_refines requests _ _ _ (start_represents config eqv)
  rw [Linked.run_ends _ _ _ _ _ ends] at ran
  cases ran
  exact ⟨_, left, represents⟩

theorem run_represented (config : TableConfig) (eqv : Comparator V) (requests : List (Request V)) :
    ∃ (linked : LinkedTable V) (layout : Layout V), linked.Reachable ∧
      linked.Represents ((Table.withComparator config eqv).serveAll requests) layout := by
  obtain ⟨linked, layout, ends, represents⟩ :=
    serve_all_refines requests _ _ _ (start_represents config eqv)
  rw [Table.serve_each_state] at represents
  exact ⟨linked, layout, ⟨config, eqv, requests, _, _, Linked.run_ends _ _ _ _ _ ends⟩, represents⟩

end LinkedTable

end TopicRouting
