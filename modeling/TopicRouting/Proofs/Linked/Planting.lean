import TopicRouting.Linked.Registration
import TopicRouting.Proofs.Linked.Climbing
import TopicRouting.Proofs.Linked.Tokens

set_option autoImplicit false

namespace TopicRouting

variable {V : Type}

namespace Arena

section

variable (arena : Arena V) (spine : Spine V) (below others : Grove V)
  (focused : arena.Focused spine below others)
include focused

theorem focused_grow (segment : Segment) (target : Target V) :
    ((arena.insert (.ofNode segment target (some spine.last) [])).rewrite spine spine.target
        (below.heads ++ [arena.next])).Focused spine
      (below.append (.node arena.next segment target .nil .nil)) others := by
  have fresh := next_fresh arena _ focused.tallies
  have apart := last_apart arena spine below others focused
  have kept : ∀ id ∈ spine.ids ++ (below.ids ++ others.ids),
      (arena.insert (.ofNode segment target (some spine.last) [])).cell? id = arena.cell? id :=
    fun id member => insert_other arena id _ fun same => fresh (same ▸ member)
  have new := insert_here arena _ focused.tallies (.ofNode segment target (some spine.last) [])
  have tallies := tallies_insert arena _ focused.tallies
    (.ofNode segment target (some spine.last) [])
  generalize isGrown : arena.insert (.ofNode segment target (some spine.last) []) = grown at kept new tallies ⊢
  have around : grown.HoldsAround spine below.heads :=
    around_congr arena grown spine _ (fun id member => kept id (by simp [member])) focused.around
  have last := around_last grown spine _ around
  have differs : arena.next ≠ spine.last := fun same =>
    fresh (List.mem_append_left _ (same ▸ spine.last_member))
  have still : ∀ id ∈ below.ids ++ others.ids,
      (grown.rewrite spine spine.target (below.heads ++ [arena.next])).cell? id = arena.cell? id := by
    intro id member
    rw [← kept id (List.mem_append_right _ member)]
    exact write_other grown spine.last id _ (apart id member)
  refine ⟨?_, ?_, ?_, ?_⟩
  · have written := around_write grown spine _ (below.heads ++ [arena.next]) spine.target around
      (focused_distinct arena spine below others focused)
    rw [Spine.retarget_self] at written
    simpa [Grove.append_heads, Grove.heads] using written
  · refine (holds_append ..).mpr ⟨?_, ?_, trivial, trivial⟩
    · exact holds_congr arena _ _ _ (fun id member => still id (by simp [member])) focused.held
    · exact (write_other grown spine.last arena.next _ differs).trans new
  · exact holds_congr arena _ _ _ (fun id member => still id (by simp [member])) focused.beside
  · refine tallies_permute _ _ _ (tallies_write grown _ tallies spine.last _ _ last) ?_
    simp only [Grove.append_ids, Grove.ids]
    grind

end

theorem stocked_root (arena : Arena V) (others : Grove V) (stocked : arena.Stocked others)
    (segment : Segment) (target : Target V) :
    (arena.insert (.ofNode segment target none [])).Focused (.root arena.next segment target) .nil
      others := by
  have fresh := next_fresh arena _ stocked.tallies
  refine ⟨insert_here arena _ stocked.tallies _, trivial, ?_, ?_⟩
  · refine holds_congr arena _ _ _ (fun id member => ?_) stocked.holds
    exact insert_other arena id _ fun same => fresh (same ▸ member)
  · exact tallies_insert arena _ stocked.tallies _

end Arena

namespace Linked

section

variable (table : LinkedTable V) (spine : Spine V) (below others : Grove V)
  (focused : table.arena.Focused spine below others)
include focused

theorem ends_set_value (value : V) :
    Ends (setValue spine.last value) table (.ok ())
      { table with arena := table.arena.rewrite spine (.route value) below.heads } [] := by
  have last := Arena.focused_last table.arena spine below others focused
  exact ends_update table spine.last _ last _

theorem relaxes_node (value : V) (more : List NodeId) (relaxed : Relaxed V)
    (relaxes : spine.target.relax table.eqv value spine.segment false = relaxed) :
    ∃ arena : Arena V, arena.Focused (spine.retarget relaxed.target) below others ∧
      Proceeds (relax value (spine.last :: more)) table
        (if relaxed.settled then pure () else relax value more) { table with arena }
        relaxed.events := by
  have last := Arena.focused_last table.arena spine below others focused
  have start : Proceeds (relax value (spine.last :: more)) table _ table [] :=
    proceeds_read (reads_cell table _ _ last)
  simp only [Cell.ofNode] at start
  subst relaxes
  cases valued : spine.target.value? with
  | none =>
      simp only [valued] at start
      simp only [Target.relax, valued, Bool.false_eq_true, if_false, spine.retarget_self]
      exact ⟨table.arena, focused, start⟩
  | some existing =>
      simp only [valued] at start
      by_cases agrees : table.eqv existing value = true
      · simp only [Target.relax, valued, agrees, Bool.false_eq_true, if_false, if_true,
          spine.retarget_self]
        refine ⟨table.arena, focused, proceeds_silent start ?_⟩
        refine proceeds_silent (proceeds_read (reads_table table)) ?_
        rw [if_pos agrees]
        exact fun _ => rfl
      · simp only [Target.relax, valued, agrees, Bool.false_eq_true, if_false]
        have written := Arena.focused_retarget table.arena spine below others focused .undecided
        refine ⟨_, written, proceeds_silent start ?_⟩
        refine proceeds_silent (proceeds_read (reads_table table)) ?_
        rw [if_neg agrees]
        refine proceeds_trans (proceeds_bind (ends_report table _)) ?_
        exact proceeds_silent (proceeds_bind (ends_update table spine.last _ last _)) proceeds_refl

end

theorem relaxes (table : LinkedTable V) (spine : Spine V) (below others : Grove V)
    (focused : table.arena.Focused spine below others) (value : V) (more : List NodeId)
    (cleared : Spine.Cleared V) (clears : spine.clear table.eqv value = cleared) :
    ∃ arena : Arena V, arena.Focused cleared.spine below others ∧
      Proceeds (relax value (spine.trail ++ more)) table
        (if cleared.settled then pure () else relax value more) { table with arena }
        cleared.events := by
  -- A spine is taken apart from its end, but the nodes above are cleared before the last one.
  induction spine generalizing below more cleared with
  | root id segment target =>
      subst clears
      exact relaxes_node table _ below others focused value more _ rfl
  | node above id segment target before after ih =>
      generalize isOuter : above.clear table.eqv value = outer
      rw [Spine.clear, isOuter] at clears
      obtain ⟨mid, risen, first⟩ := ih _ ((Arena.focused_node ..).mp focused) (id :: more) outer isOuter
      have refocused := (Arena.focused_node mid outer.spine ..).mpr risen
      rw [Spine.trail, List.append_assoc, List.singleton_append]
      by_cases settled : outer.settled = true
      · simp only [Target.relax, settled, if_true, List.append_nil] at clears first
        subst clears
        exact ⟨mid, refocused, first⟩
      · obtain ⟨last, cleared, second⟩ := relaxes_node { table with arena := mid } _ below others
          refocused value more _ rfl
        rw [if_neg settled] at first
        rw [Bool.not_eq_true] at settled
        rw [settled] at clears
        subst clears
        exact ⟨last, cleared, proceeds_trans first second⟩

theorem ends_relax (table : LinkedTable V) (spine : Spine V) (below others : Grove V)
    (focused : table.arena.Focused spine below others) (value : V)
    (cleared : Spine.Cleared V) (clears : spine.clear table.eqv value = cleared) :
    ∃ arena : Arena V, arena.Focused cleared.spine below others ∧
      Ends (relax value spine.trail) table (.ok ()) { table with arena } cleared.events := by
  obtain ⟨arena, after, proceeds⟩ := relaxes table spine below others focused value [] cleared clears
  have done : Ends (if cleared.settled then pure () else relax value []) { table with arena }
      (.ok ()) { table with arena } [] := by
    cases cleared.settled <;> exact ends_of_reads (reads_pure _ ())
  have ends := proceeds_ends proceeds done
  rw [List.append_nil, List.append_nil] at ends
  exact ⟨arena, after, ends⟩

theorem new_cells (value : V) (segment : Segment) (rest : Path)
    (topical : Path.Topical [segment]) :
    newCells value ((segment :: rest).map Segment.characters) =
      .ofNode segment (Forest.link value rest).target none []
        :: newCells value (rest.map Segment.characters) := by
  have same := Segment.of_token segment topical
  cases rest <;>
    simp [newCells, same, Forest.link, Cell.ofNode, Target.value?, Target.isRoute]

theorem ends_grow (table : LinkedTable V) (spine : Spine V) (below others : Grove V)
    (focused : table.arena.Focused spine below others) (segment : Segment) (target : Target V)
    (later : List (Cell V)) (next : LinkedTable V) (ending : Except RouteError Unit)
    (ends : Ends (addBelow table.arena.next later)
      { table with
        arena := (table.arena.insert (.ofNode segment target (some spine.last) [])).rewrite spine
          spine.target (below.heads ++ [table.arena.next]) } ending next []) :
    Ends (addBelow spine.last (.ofNode segment target none [] :: later)) table ending next [] := by
  have fresh := Arena.next_fresh table.arena _ focused.tallies
  have differs : spine.last ≠ table.arena.next := fun same =>
    fresh (List.mem_append_left _ (same ▸ spine.last_member))
  have last := Arena.focused_last table.arena spine below others focused
  have still := (Arena.insert_other table.arena spine.last
    (.ofNode segment target (some spine.last) []) differs).trans last
  have allocated := ends_allocate table (.ofNode segment target (some spine.last) [])
    (Arena.free_bound table.arena _ focused.tallies)
  have updated := ends_update
    { table with arena := table.arena.insert (.ofNode segment target (some spine.last) []) }
    spine.last _ still fun above => { above with children := above.children ++ [table.arena.next] }
  exact ends_then allocated (ends_then updated ends)

theorem adds_below (table : LinkedTable V) (spine : Spine V) (below others : Grove V)
    (focused : table.arena.Focused spine below others) (value : V) (path : Path)
    (topical : path.Topical) :
    ∃ (arena : Arena V) (chain : Grove V), chain.forest = (Forest.link value path).children ∧
      arena.Focused spine (below.append chain) others ∧
      Ends (addBelow spine.last (newCells value (path.map Segment.characters))) table (.ok ())
        { table with arena } [] := by
  induction path generalizing table spine below with
  | nil =>
      refine ⟨table.arena, .nil, rfl, ?_, ends_of_reads (reads_pure table ())⟩
      rwa [Grove.append_nil]
  | cons segment rest ih =>
      obtain ⟨single, later, _⟩ := Path.topical_cons segment rest topical
      have grown := Arena.focused_grow table.arena spine below others focused segment
        (Forest.link value rest).target
      rw [← Arena.focused_node] at grown
      obtain ⟨arena, chain, isChain, planted, ends⟩ := ih { table with arena := _ } _ _ grown later
      rw [Arena.focused_node] at planted
      refine ⟨arena, .node table.arena.next segment (Forest.link value rest).target chain .nil, ?_,
        planted, ?_⟩
      · rw [Forest.link, Forest.chain_link, ← isChain]
        rfl
      · rw [new_cells value segment rest single]
        exact ends_grow table spine below others focused segment _ _ _ _ ends

end Linked

end TopicRouting
