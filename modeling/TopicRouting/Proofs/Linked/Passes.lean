import TopicRouting.Proofs.Linked.Removing
import TopicRouting.Proofs.Table.Removal

/-!
Removing all routes to a destination. A pass works with the numbers of the nodes it has found, some
of which may be gone by the time they come up: a number is still in use exactly when there still is
a node at its path. Every pass that finds something takes a node out, so there are no more passes
than nodes.
-/

set_option autoImplicit false

namespace TopicRouting

open Layout

variable {V : Type}

theorem Layout.shrinks_more (new mid old : Layout V) (second : Shrinks new mid)
    (first : Shrinks mid old) : Shrinks new old := by
  refine ⟨List.Subset.trans second.places first.places, Nat.lt_trans second.fewer first.fewer,
    second.slots.trans first.slots, ?_⟩
  intro slot plant isNew
  obtain ⟨middle, isMiddle, same⟩ := second.roots slot plant isNew
  obtain ⟨held, isHeld, also⟩ := first.roots slot middle isMiddle
  exact ⟨held, isHeld, also.trans same⟩

namespace LinkedTable

section

variable (linked : LinkedTable V) (table : Table V) (layout : Layout V)
  (mirrors : linked.Mirrors table layout)
include mirrors

theorem mirrored_forest : (grove layout).forest = table.forest :=
  represents_forest _ { table with cache := table.cache.invalidate } layout mirrors

theorem mirrored_regular : (grove layout).forest.Regular := by
  rw [mirrored_forest linked table layout mirrors]
  exact mirrors.sound.regular

theorem place_same (a b : Path × NodeId) (first : a ∈ (grove layout).places)
    (second : b ∈ (grove layout).places) (same : a.1 = b.1 ∨ a.2 = b.2) : a = b := by
  rcases same with paths | ids
  · refine unique_of_nodup_map Prod.fst (grove layout).places ?_ a b first second paths
    rw [Grove.places_paths]
    exact Forest.nodes_distinct _ (mirrored_regular linked table layout mirrors)
  · refine unique_of_nodup_map Prod.snd (grove layout).places ?_ a b first second ids
    rw [Grove.places_ids]
    exact mirrors.stocked.tallies.distinct

theorem place_reached (path : Path) (id : NodeId) (placed : (path, id) ∈ (grove layout).places) :
    ∃ (slot : Nat) (spine : Spine V) (below : Grove V),
      layout[slot]? = some (some (spine.fill below)) ∧ spine.path = path ∧ spine.last = id ∧
        spine.Apart := by
  obtain ⟨slot, plant, held, inside⟩ := place_slot layout path id placed
  have child := held_child _ _ layout mirrors slot plant held
  have regular : plant.children.forest.Regular :=
    (Forest.regular_child _ mirrors.sound.regular _ _ child).2
  obtain ⟨spine, below, rfl, isPath, isLast, apart⟩ := plant.reach_place regular path id inside
  exact ⟨slot, spine, below, held, isPath, isLast, apart⟩

theorem place_of_node (path : Path) (here : Node V) (found : table.forest.node? path = some here) :
    ∃ id, (path, id) ∈ (grove layout).places := by
  rw [← mirrored_forest linked table layout mirrors,
    ← Forest.nodes_iff _ (mirrored_regular linked table layout mirrors)] at found
  have listed := List.mem_map_of_mem (f := Prod.fst) found
  rw [← Grove.places_paths] at listed
  obtain ⟨⟨_, id⟩, member, rfl⟩ := List.mem_map.mp listed
  exact ⟨id, member⟩

end

-- A node found before some nodes went: it is still there and matches, or it does not count.
theorem still_matches_cases (linked origin : LinkedTable V) (table past : Table V)
    (layout start : Layout V) (mirrors : linked.Mirrors table layout)
    (before : origin.Mirrors past start) (within : (grove layout).places ⊆ (grove start).places)
    (value : V) (path : Path) (id : NodeId) (placed : (path, id) ∈ (grove start).places) :
    (table.stillMatches value path = false ∧
      Linked.Reads (Linked.stillMatches value id) linked false) ∨
    (table.stillMatches value path = true ∧
      Linked.Reads (Linked.stillMatches value id) linked true ∧
      ∃ (slot : Nat) (spine : Spine V) (below : Grove V),
        layout[slot]? = some (some (spine.fill below)) ∧ spine.path = path ∧ spine.last = id ∧
          spine.Apart) := by
  have eqv : linked.eqv = table.eqv := mirrors.eqv
  have used : linked.arena.contains id = true ↔ id ∈ (grove layout).ids :=
    mirrors.stocked.tallies.used id
  by_cases member : id ∈ (grove layout).ids
  · have inside : (path, id) ∈ (grove layout).places := by
      have listed := member
      rw [← Grove.places_ids] at listed
      obtain ⟨place, found, same⟩ := List.mem_map.mp listed
      rwa [← place_same origin past start before place _ (within found) placed (Or.inr same)]
    obtain ⟨slot, spine, below, held, rfl, rfl, apart⟩ :=
      place_reached linked table layout mirrors path id inside
    have node := mirrored_node linked table layout mirrors slot spine below held apart
    have last := Arena.focused_last _ spine below _
      (represents_focused _ _ layout mirrors slot spine below held)
    have decides : Linked.Reads (Linked.stillMatches value spine.last) linked
        (table.stillMatches value spine.path) := by
      refine Linked.reads_bind _ (Linked.reads_table linked) ?_
      rw [used.mpr member, if_pos rfl, Table.stillMatches, node, Option.any_some,
        Target.agreesWith, ← eqv]
      refine Linked.reads_bind _ (Linked.reads_cell linked _ _ last) ?_
      exact Linked.reads_leads_to linked value _
    cases matches_ : table.stillMatches value spine.path with
    | false => exact Or.inl ⟨rfl, matches_ ▸ decides⟩
    | true => exact Or.inr ⟨rfl, matches_ ▸ decides, slot, spine, below, held, rfl, rfl, apart⟩
  · have missing : table.forest.node? path = none := by
      cases found : table.forest.node? path with
      | none => rfl
      | some here =>
          obtain ⟨other, inside⟩ := place_of_node linked table layout mirrors path here found
          cases place_same origin past start before _ _ (within inside) placed (Or.inl rfl)
          refine absurd ?_ member
          rw [← Grove.places_ids]
          exact List.mem_map_of_mem inside
    refine Or.inl ⟨by simp [Table.stillMatches, missing], ?_⟩
    refine Linked.reads_bind _ (Linked.reads_table linked) ?_
    rw [if_neg (mt used.mp member)]
    exact Linked.reads_pure linked false

theorem remove_matching_refines (origin : LinkedTable V) (past : Table V) (start : Layout V)
    (before : origin.Mirrors past start) (value : V) (found : List (Path × NodeId))
    (placed : found ⊆ (grove start).places) (linked : LinkedTable V) (table : Table V)
    (layout : Layout V) (mirrors : linked.Mirrors table layout)
    (within : (grove layout).places ⊆ (grove start).places) (routes : Nat)
    (removed : Outcome (Table V) Nat)
    (removes : Table.detachMatching value table (found.map Prod.fst) = removed) :
    ∃ (next : LinkedTable V) (left : Layout V),
      Linked.Ends (Linked.removeMatching value (found.map Prod.snd) routes) linked
        (.ok (routes + removed.result)) next removed.events ∧
      next.Mirrors removed.state left ∧
      (Shrinks left layout ∧ removed.state.cache.stale = true ∨
        left = layout ∧ removed.state = table ∧
          ∀ place ∈ found, table.stillMatches value place.1 = false) := by
  induction found generalizing linked table layout routes removed with
  | nil =>
      subst removes
      refine ⟨linked, layout, Linked.ends_of_reads (Linked.reads_pure linked _), mirrors, ?_⟩
      exact Or.inr ⟨rfl, rfl, fun _ member => nomatch member⟩
  | cons place found ih =>
      have first := placed List.mem_cons_self
      have others : found ⊆ (grove start).places := fun other member =>
        placed (List.mem_cons_of_mem _ member)
      rw [List.map_cons, Table.detachMatching] at removes
      rw [List.map_cons, Linked.removeMatching]
      -- The number was found before other nodes went, so it may be out of use or match no more.
      rcases still_matches_cases linked origin table past layout start mirrors before within value
          place.1 place.2 first with
        ⟨gone, reads⟩ | ⟨still, reads, slot, spine, below, held, isPath, isLast, apart⟩
      · rw [gone] at removes
        obtain ⟨next, left, ends, mirrored, progress⟩ :=
          ih others linked table layout mirrors within routes removed removes
        refine ⟨next, left, Linked.ends_read reads ends, mirrored, progress.imp_right ?_⟩
        rintro ⟨isLeft, same, none_⟩
        refine ⟨isLeft, same, fun other member => ?_⟩
        rcases List.mem_cons.mp member with rfl | later
        · exact gone
        · exact none_ other later
      · obtain ⟨mid, less, ends, mirrored, shrinks⟩ :=
          detach_refines linked table layout mirrors slot spine below held apart
        have stale := detach_stale table _ _
          (mirrored_node linked table layout mirrors slot spine below held apart)
        rw [isPath] at ends mirrored stale
        rw [isLast] at ends
        obtain ⟨next, left, endsLater, mirroredLater, progress⟩ :=
          ih others mid _ less mirrored (List.Subset.trans shrinks.places within)
            (routes + (table.detach place.1).result) _ rfl
        rw [still, if_pos rfl] at removes
        subst removes
        refine ⟨next, left, ?_, mirroredLater, Or.inl ?_⟩
        · rw [← Nat.add_assoc]
          exact Linked.ends_read reads (Linked.ends_bind ends endsLater)
        · rcases progress with ⟨further, staleLater⟩ | ⟨isLeft, same, _⟩
          · exact ⟨shrinks_more _ _ _ further shrinks, staleLater⟩
          · rw [isLeft]
            refine ⟨shrinks, ?_⟩
            simp only [same]
            exact stale

section

variable (linked : LinkedTable V) (table : Table V) (layout : Layout V)
  (mirrors : linked.Mirrors table layout) (value : V)
include mirrors

theorem reads_matching :
    Linked.Reads (Linked.topmostMatching value linked.directory.ids []) linked
      (((grove layout).matching table.eqv value).map Prod.snd) := by
  have eqv : linked.eqv = table.eqv := mirrors.eqv
  have finds := Linked.finds_matching linked value none (grove layout) mirrors.stocked.holds [] []
  rw [List.append_nil, List.nil_append, ← Directory.indexes_ids _ layout mirrors.indexes, eqv]
    at finds
  refine Linked.proceeds_reads _ finds ?_
  rw [Linked.topmost_matching_eq]
  exact Linked.reads_pure linked _

theorem matching_layout :
    ((grove layout).matching table.eqv value).map Prod.fst = table.matching value := by
  rw [Grove.matching_paths, mirrored_forest linked table layout mirrors]
  rfl

theorem removal_over (nothing : (grove layout).matching table.eqv value = []) (routes : Nat) :
    Linked.Ends (Linked.removalPasses value routes) linked (.ok routes) linked [] := by
  have found := reads_matching linked table layout mirrors value
  rw [nothing] at found
  rw [Linked.removal_passes_eq]
  refine Linked.ends_read (Linked.reads_table linked) (Linked.ends_read found ?_)
  exact Linked.ends_of_reads (Linked.reads_pure linked routes)

theorem pass_progresses (first : Path × NodeId) (found : List (Path × NodeId))
    (isFound : (grove layout).matching table.eqv value = first :: found) (routes : Nat) :
    let removed := Table.detachMatching value table ((first :: found).map Prod.fst)
    ∃ (mid : LinkedTable V) (less : Layout V),
      Linked.Ends (Linked.removeMatching value ((first :: found).map Prod.snd) routes) linked
        (.ok (routes + removed.result)) mid removed.events ∧
      mid.Mirrors removed.state less ∧ Shrinks less layout ∧ removed.state.cache.stale = true := by
  have within := (grove layout).matching_places table.eqv value
  have matches_ : table.stillMatches value first.1 = true := by
    refine table.matching_matches mirrors.sound.regular value first.1 ?_
    rw [← matching_layout linked table layout mirrors value, isFound]
    exact List.mem_cons_self
  rw [isFound] at within
  obtain ⟨mid, less, ends, mirrored, progress⟩ := remove_matching_refines linked table layout
    mirrors value (first :: found) within linked table layout mirrors (fun _ here => here) routes _ rfl
  refine ⟨mid, less, ends, mirrored, progress.resolve_right ?_⟩
  rintro ⟨_, _, gone⟩
  cases (gone first List.mem_cons_self).symm.trans matches_

end

theorem removal_passes_refines (value : V) (limit : Nat) (linked : LinkedTable V)
    (table : Table V) (layout : Layout V) (represents : linked.Represents table layout)
    (enough : (grove layout).ids.length ≤ limit) (routes : Nat)
    (removed : Outcome (Table V) Nat)
    (removes : Table.removalPasses value limit table = removed) :
    linked.Follows (Linked.removalPasses value routes) (.ok (routes + removed.result))
      removed.state removed.events := by
  -- The bound goes down by one where the number of nodes goes down by one at least, so it is not
  -- used up before nothing is found.
  induction limit generalizing linked table layout routes removed with
  | zero =>
      subst removes
      have mirrors := represents_mirrors linked table layout represents
      have within := (grove layout).matching_places table.eqv value
      have empty : (grove layout).places = [] := by
        rw [← Grove.places_ids, List.length_map] at enough
        exact List.eq_nil_of_length_eq_zero (Nat.le_zero.mp enough)
      rw [empty, List.subset_nil] at within
      exact ⟨linked, layout, removal_over linked table layout mirrors value within routes, represents⟩
  | succ limit ih =>
      have mirrors := represents_mirrors linked table layout represents
      have reads := reads_matching linked table layout mirrors value
      rw [Table.removalPasses, ← matching_layout linked table layout mirrors value] at removes
      cases isFound : (grove layout).matching table.eqv value with
      | nil =>
          rw [isFound] at removes
          subst removes
          exact ⟨linked, layout, removal_over linked table layout mirrors value isFound routes,
            represents⟩
      | cons first found =>
          rw [isFound] at removes reads
          obtain ⟨mid, less, ends, mirrored, shrinks, stale⟩ :=
            pass_progresses linked table layout mirrors value first found isFound routes
          have fewer := shrinks.fewer
          have representsMid := mirrors_stale mid _ less mirrored stale
          obtain ⟨next, left, endsLater, representsLater⟩ := ih _ _ less representsMid (by omega)
            (routes + (Table.detachMatching value table ((first :: found).map Prod.fst)).result) _ rfl
          subst removes
          rw [Nat.add_assoc] at endsLater
          refine ⟨next, left, ?_, representsLater⟩
          rw [Linked.removal_passes_eq]
          refine Linked.ends_read (Linked.reads_table linked) (Linked.ends_read reads ?_)
          refine Linked.ends_bind ends ?_
          exact Linked.ends_then (Linked.ends_change mid _) endsLater

theorem remove_value_refines (linked : LinkedTable V) (table : Table V) (layout : Layout V)
    (represents : linked.Represents table layout) (value : V) :
    linked.Follows (Linked.removeValue value) (.ok (table.removeValue value).result)
      (table.removeValue value).state (table.removeValue value).events := by
  have nodes : (grove layout).ids.length = table.nodeCount := by
    rw [Grove.ids_length, represents_forest linked table layout represents]
    rfl
  obtain ⟨next, left, ends, representsLater⟩ := removal_passes_refines value table.nodeCount linked
    table layout represents (Nat.le_of_eq nodes) 0 _ rfl
  rw [Nat.zero_add] at ends
  refine ⟨next, left, ?_, representsLater⟩
  exact Linked.ends_bind ends (Linked.ends_last _ (Linked.ends_report next _) (Linked.reads_pure next _))

end LinkedTable

end TopicRouting
