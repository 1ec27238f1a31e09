import TopicRouting.Proofs.Table.Removal

/-!
One pass takes all routes to a destination. Under a comparator that is an equivalence a node that a
pass has found leads to the destination for as long as there is a route at or below it, whatever the
pass has detached before; so no node is left that a second pass could find.
-/

set_option autoImplicit false

namespace TopicRouting.Table

universe u

variable {V : Type u}

-- A pass is about to detach some paths: the routes at and below them are those to the destination.
structure Pending (table : Table V) (value : V) (paths : List Path) : Prop where
  nonempty : ∀ path ∈ paths, path ≠ []
  leads : ∀ path ∈ paths, ∀ route ∈ table.routes, path <+: route.1 →
    table.eqv route.2 value = true
  covered : ∀ route ∈ table.routes, table.eqv route.2 value = true → ∃ path ∈ paths, path <+: route.1

section

variable (table : Table V) (lawful : table.Lawful) (value : V)
include lawful

theorem matching_pending : table.Pending value (table.matching value) := by
  have regular := lawful.sound.regular
  constructor
  · intro path member
    obtain ⟨held, top, _⟩ := (matching_iff table regular value path).mp member
    exact Forest.topmost_nonempty table.forest path held top
  · intro path member route listed within
    have still := matching_matches table regular value path member
    exact inside_matches table lawful value path still route
      (List.mem_filter.mpr ⟨listed, decide_eq_true within⟩)
  · rintro ⟨path, own⟩ listed same
    exact matching_of_route table lawful value path own listed same

theorem still_matches_routed (path : Path) (nonempty : path ≠ [])
    (leads : ∀ route ∈ table.routes, path <+: route.1 → table.eqv route.2 value = true)
    (route : Path × V) (listed : route ∈ table.routes) (within : path <+: route.1) :
    table.stillMatches value path = true := by
  obtain ⟨whole, own⟩ := route
  obtain ⟨rest, rfl⟩ := within
  -- All routes below lead to the destination, so they agree and the node has a value.
  obtain ⟨held, valued, same⟩ := (Forest.value_agreed table.eqv lawful.lawful table.forest
    lawful.sound.regular lawful.collapsed path nonempty value).mpr
      ⟨⟨rest, own, listed⟩, fun more other member =>
        lawful.lawful.symm (leads _ member (List.prefix_append path more))⟩
  obtain ⟨here, found, isHeld⟩ := Option.bind_eq_some_iff.mp valued
  exact (still_matches_iff table value path).mpr
    ⟨here, held, found, isHeld, lawful.lawful.symm same⟩

theorem pending_passed (path : Path) (rest : List Path)
    (pending : table.Pending value (path :: rest)) (lost : ¬ table.stillMatches value path = true) :
    table.Pending value rest := by
  refine ⟨fun other member => pending.nonempty other (List.mem_cons_of_mem _ member),
    fun other member => pending.leads other (List.mem_cons_of_mem _ member), ?_⟩
  intro route listed same
  obtain ⟨other, member, within⟩ := pending.covered route listed same
  rcases List.mem_cons.mp member with rfl | later
  · exact absurd (still_matches_routed table lawful value other
      (pending.nonempty other List.mem_cons_self) (pending.leads other List.mem_cons_self) route
      listed within) lost
  · exact ⟨other, later, within⟩

theorem pending_detached (path : Path) (rest : List Path)
    (pending : table.Pending value (path :: rest)) (still : table.stillMatches value path = true) :
    (table.detach path).state.Pending value rest := by
  obtain ⟨here, _, found, _⟩ := (still_matches_iff table value path).mp still
  have left := detach_left table lawful.sound path here found
  have remains : ∀ route, route ∈ (table.detach path).state.routes ↔
      route ∈ table.routes ∧ ¬ path <+: route.1 := by
    intro route
    rw [left.mem_iff, Forest.outside, List.mem_filter, decide_eq_true_iff]
    rfl
  refine ⟨fun other member => pending.nonempty other (List.mem_cons_of_mem _ member), ?_, ?_⟩
  · intro other member route listed within
    rw [detach_comparator]
    exact pending.leads other (List.mem_cons_of_mem _ member) route ((remains route).mp listed).1
      within
  · intro route listed same
    rw [detach_comparator] at same
    obtain ⟨before, outside⟩ := (remains route).mp listed
    obtain ⟨other, member, within⟩ := pending.covered route before same
    rcases List.mem_cons.mp member with rfl | later
    · exact absurd within outside
    · exact ⟨other, later, within⟩

end

theorem detach_matching_pending (value : V) (table : Table V) (lawful : table.Lawful)
    (paths : List Path) (pending : table.Pending value paths) :
    (detachMatching value table paths).state.Pending value [] := by
  induction paths generalizing table with
  | nil => exact pending
  | cons path rest ih =>
      rw [detachMatching]
      by_cases still : table.stillMatches value path = true
      · rw [if_pos still]
        exact ih _ (detach_lawful table path lawful)
          (pending_detached table lawful value path rest pending still)
      · rw [if_neg still]
        exact ih table lawful (pending_passed table lawful value path rest pending still)

theorem matching_none (table : Table V) (lawful : table.Lawful) (value : V)
    (pending : table.Pending value []) : table.matching value = [] := by
  rw [List.eq_nil_iff_forall_not_mem]
  intro path member
  obtain ⟨held, top, same⟩ := (matching_iff table lawful.sound.regular value path).mp member
  obtain ⟨whole, own, listed, close⟩ := route_of_value table lawful path held top.valued
  have leads := lawful.lawful.trans (lawful.lawful.symm close) same
  obtain ⟨_, none, _⟩ := pending.covered _ listed leads
  cases none

theorem matching_once (table : Table V) (lawful : table.Lawful) (value : V) :
    (detachMatching value table (table.matching value)).state.matching value = [] :=
  matching_none _ (sheds_matching value table lawful _).lawful value
    (detach_matching_pending value table lawful _ (matching_pending table lawful value))

-- The comparator goes one way only. After its first leaf has gone, the inner branch passes the
-- value of the second on to the outer one, which keeps it when that leaf goes as well.
example :
    let table := (withComparator {} (fun existing incoming => Nat.ble existing incoming)).serveAll
      [.setRoute "a.b.x" 2, .setRoute "a.b.y" 1, .setRoute "a.c" 3]
    (detachMatching 2 table (table.matching 2)).state.matching 2 = [[.branch "a"]] := by
  decide

end TopicRouting.Table
