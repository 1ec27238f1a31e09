import TopicRouting.Proofs.Linked.Runs

set_option autoImplicit false

namespace TopicRouting

variable {V : Type}

def Linked.AllOrNothing {α : Type} (action : Action V α) (linked : LinkedTable V) : Prop :=
  ∃ (result : Except RouteError α) (next : LinkedTable V) (events : List Event),
    run action linked = some (.ok (result, ⟨next, events.map .event⟩)) ∧
      ∀ error, result = .error error → next = linked

namespace LinkedTable

theorem all_or_nothing {α : Type} (linked : LinkedTable V) (action : Action V α)
    (result : Except RouteError α) (next : LinkedTable V) (events : List Event)
    (ends : Linked.Ends action linked result next events)
    (kept : ∀ error, result = .error error → next = linked) : Linked.AllOrNothing action linked :=
  ⟨result, next, events, Linked.run_ends action linked next result events ends, kept⟩

-- All that can be refused is found out before the first change, so neither a route that is not
-- registered nor one that is not removed leaves a trace.
theorem refused_changes_nothing (linked : LinkedTable V) (reachable : linked.Reachable)
    (key : String) (value : V) :
    Linked.AllOrNothing (Linked.setRoute key value) linked ∧
      Linked.AllOrNothing (Linked.removeRoute key) linked := by
  obtain ⟨table, layout, represents⟩ := reachable_represents linked reachable
  constructor
  · rcases set_route_cases linked table layout represents key value with
      ⟨error, _, ends⟩ | ⟨_, next, _, ends, _⟩
    · exact all_or_nothing linked _ _ _ _ ends fun _ _ => rfl
    · exact all_or_nothing linked _ _ _ _ ends fun _ failed => nomatch failed
  · rcases remove_route_cases linked table layout represents key with
      ⟨error, _, ends⟩ | ⟨_, next, _, ends, _⟩
    · exact all_or_nothing linked _ _ _ _ ends fun _ _ => rfl
    · exact all_or_nothing linked _ _ _ _ ends fun _ failed => nomatch failed

theorem refused_changes_nothing_on_conflict :
    ∃ (linked : LinkedTable Nat) (notices : List Notice), linked.Reachable ∧
      linked.arena.live = 3 ∧ Linked.run (Linked.setRoute "a." 3) linked =
        some (.ok (.error (.conflictingRoute "a."), ⟨linked, notices⟩)) := by
  obtain ⟨linked, layout, reachable, represents⟩ := run_represented {} Comparator.equality
    [.setRoute "a.b" 1, .setRoute "a.c" 2]
  have nodes := (represents_nodes linked _ layout represents).trans rfl
  obtain ⟨result, next, events, ran, kept⟩ :=
    (refused_changes_nothing linked reachable "a." 3).1
  obtain ⟨last, left, ends, _⟩ := set_route_refines linked _ layout represents "a." 3
  have refused : result = .error (.conflictingRoute "a.") := by
    have same := ran.symm.trans (Linked.run_ends _ _ _ _ _ ends)
    simp only [Option.some.injEq, Except.ok.injEq, Prod.mk.injEq] at same
    exact same.1
  refine ⟨linked, events.map .event, reachable, nodes, ?_⟩
  rw [ran, refused, kept _ refused]

-- Every run comes to its end with the answers of the table, and its record has nothing but the
-- events of the table. So no number of a node is used after its cell was given up, no text is cut
-- where it cannot be, no count goes below zero, and every check holds.
theorem runs_without_fault (config : TableConfig) (eqv : Comparator V)
    (requests : List (Request V)) :
    ∃ next : LinkedTable V,
      Linked.run (Linked.serveAll requests) (withComparator config eqv) =
        some (.ok (.ok ((Table.withComparator config eqv).serveEach requests).result,
          ⟨next, ((Table.withComparator config eqv).serveEach requests).events.map .event⟩)) := by
  obtain ⟨next, _, ends, _⟩ := serve_all_refines requests _ _ _ (start_represents config eqv)
  exact ⟨next, Linked.run_ends _ _ _ _ _ ends⟩

end LinkedTable

end TopicRouting
