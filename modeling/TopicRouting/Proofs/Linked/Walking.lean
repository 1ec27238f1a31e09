import TopicRouting.Proofs.Forest.Topmost
import TopicRouting.Proofs.Linked.Store
import TopicRouting.Proofs.Linked.Tokens

set_option autoImplicit false

namespace TopicRouting

variable {V : Type}

def Forest.Topical : Forest V → Prop
  | .nil => True
  | .node segment _ children siblings =>
    Path.Topical [segment] ∧ children.Topical ∧ siblings.Topical

def Forest.Grounded : Forest V → Prop
  | .nil => True
  | .node _ _ children siblings => children.Topical ∧ siblings.Grounded

theorem Forest.topical_grounded (forest : Forest V) (topical : forest.Topical) :
    forest.Grounded := by
  induction forest with
  | nil => trivial
  | node segment target children siblings _ ih => exact ⟨topical.2.1, ih topical.2.2⟩

theorem Forest.topical_append (front back : Forest V) :
    (front.append back).Topical ↔ front.Topical ∧ back.Topical := by
  induction front with
  | nil => simp [append, Topical]
  | node segment target children siblings _ ih => simp [append, Topical, ih, and_assoc]

theorem Forest.topical_nodes (front : Path) (forest : Forest V)
    (spelled : ∀ path here, (path, here) ∈ forest.nodes → Path.Topical (front ++ path)) :
    forest.Topical := by
  induction forest generalizing front with
  | nil => trivial
  | node segment target children siblings below beside =>
      refine ⟨?_, below (front ++ [segment]) ?_, beside front ?_⟩
      · exact Path.topical_back front _ (spelled [segment] _ List.mem_cons_self)
      · intro path here member
        rw [List.append_assoc, List.singleton_append]
        refine spelled (segment :: path) here (List.mem_cons_of_mem _ (List.mem_append_left _ ?_))
        exact List.mem_map.mpr ⟨(path, here), member, rfl⟩
      · intro path here member
        exact spelled path here (List.mem_cons_of_mem _ (List.mem_append_right _ member))

structure Arena.Reaches (arena : Arena V) (spine : Spine V) (below : Grove V) : Prop where
  around : arena.HoldsAround spine below.heads
  held : arena.Holds (some spine.last) below
  apart : spine.Apart
  topical : below.forest.Topical

theorem Arena.reaches_child (arena : Arena V) (spine : Spine V) (id : NodeId) (segment : Segment)
    (target : Target V) (before children after : Grove V)
    (absent : before.forest.child? segment = none)
    (reaches : arena.Reaches spine (before.append (.node id segment target children after))) :
    arena.Reaches (.node spine id segment target before after) children := by
  obtain ⟨around, held, apart, topical⟩ := reaches
  obtain ⟨earlier, here, lower, later⟩ := (holds_append ..).mp held
  rw [Grove.append_heads] at around
  rw [Grove.append_forest, Forest.topical_append] at topical
  exact ⟨⟨here, earlier, later, around⟩, lower, ⟨absent, apart⟩, topical.2.2.1⟩

-- Where a walk along a path ends: the nodes below match nothing of what is left of it.
structure Arena.Arrives (arena : Arena V) (whole : Plant V) (path : Path) (spine : Spine V)
    (below : Grove V) (rest : Path) : Prop where
  reaches : arena.Reaches spine below
  whole : spine.fill below = whole
  path : spine.path ++ rest = path
  stuck : ∀ head more, rest = head :: more → below.forest.child? head = none
  topical : rest.Topical

namespace Linked

theorem reads_no_child (table : LinkedTable V) (parent : Option NodeId) (grove : Grove V)
    (holds : table.arena.Holds parent grove) (topical : grove.forest.Topical) (head : Segment)
    (rest : Path) (whole : Path.Topical (head :: rest))
    (absent : grove.forest.child? head = none) :
    Reads (findChild (Path.text (head :: rest)).toList grove.heads) table none := by
  induction grove with
  | nil => exact reads_pure table none
  | node id segment target children siblings _ ih =>
      obtain ⟨here, _, later⟩ := holds
      have different : segment ≠ head := by
        intro same
        simp [Grove.forest, Forest.child?, same] at absent
      simp only [Grove.forest, Forest.child?, if_neg different] at absent
      have misses := mt (Segment.matches_head_iff segment head rest topical.1 whole).mp different
      refine reads_bind _ (reads_cell table id _ here) ?_
      simp only [Cell.ofNode, misses]
      exact ih later topical.2.2 absent

theorem reads_child (table : LinkedTable V) (parent : Option NodeId) (id : NodeId)
    (head : Segment) (target : Target V) (before children after : Grove V)
    (holds : table.arena.Holds parent (before.append (.node id head target children after)))
    (topical : before.forest.Topical) (rest : Path) (whole : Path.Topical (head :: rest))
    (absent : before.forest.child? head = none) :
    Reads (findChild (Path.text (head :: rest)).toList
      (before.append (.node id head target children after)).heads) table (some id) := by
  induction before with
  | nil =>
      have hit := (Segment.matches_head_iff head head rest (Path.topical_cons _ _ whole).1 whole).mpr
        rfl
      refine reads_bind _ (reads_cell table id _ holds.1) ?_
      simp only [Cell.ofNode, hit]
      exact reads_pure table (some id)
  | node other segment held below siblings _ ih =>
      obtain ⟨here, _, later⟩ := holds
      have different : segment ≠ head := by
        intro same
        simp [Grove.forest, Forest.child?, same] at absent
      simp only [Grove.forest, Forest.child?, if_neg different] at absent
      have misses := mt (Segment.matches_head_iff segment head rest topical.1 whole).mp different
      refine reads_bind _ (reads_cell table other _ here) ?_
      simp only [Cell.ofNode, misses]
      exact ih later topical.2.2 absent

section

variable (table : LinkedTable V) (spine : Spine V) (below : Grove V)
  (reaches : table.arena.Reaches spine below)
include reaches

theorem reads_advance (rest : List Char) (next : Option NodeId)
    (finds : rest ≠ [] → Reads (findChild rest below.heads) table next)
    (ends : rest = [] → next = none) :
    Reads (advance spine.last (spine.segment.characters ++ rest)) table ⟨next, rest⟩ := by
  have last := Arena.around_last table.arena spine _ reaches.around
  refine reads_bind _ (reads_cell table _ _ last) ?_
  refine reads_bind _ (reads_cut table spine.segment.characters rest) ?_
  cases rest with
  | nil =>
      rw [ends rfl]
      exact reads_pure table _
  | cons c rest => exact reads_bind _ (finds (by simp)) (reads_pure table _)

theorem advance_cases (path : Path) (topical : path.Topical) :
    (Reads (advance spine.last (spine.segment.characters ++ path.text.toList)) table
        ⟨none, path.text.toList⟩ ∧
      ∀ head rest, path = head :: rest → below.forest.child? head = none) ∨
    ∃ head rest id here before children after, path = head :: rest ∧
      below.forest.child? head = some here ∧ children.forest = here.children ∧
      below = before.append (.node id head here.target children after) ∧
      table.arena.Reaches (.node spine id head here.target before after) children ∧
      Reads (advance spine.last (spine.segment.characters ++ path.text.toList)) table
        ⟨some id, path.text.toList⟩ := by
  cases path with
  | nil =>
      refine Or.inl ⟨?_, fun _ _ empty => nomatch empty⟩
      exact reads_advance table spine below reaches _ none (fun more => absurd rfl more)
        fun _ => rfl
  | cons head rest =>
      have filled : (Path.text (head :: rest)).toList ≠ [] := by
        simp [Path.text_characters,
          Segment.characters_nonempty head (Path.topical_cons _ _ topical).1]
      cases found : below.forest.child? head with
      | none =>
          refine Or.inl ⟨?_, ?_⟩
          · refine reads_advance table spine below reaches _ none (fun _ => ?_) fun _ => rfl
            exact reads_no_child table _ below reaches.held reaches.topical head rest topical found
          · intro other more same
            cases same
            exact found
      | some here =>
          obtain ⟨before, id, children, after, rfl, isBelow, absent⟩ :=
            below.split_child head here found
          have front := reaches.topical
          rw [Grove.append_forest, Forest.topical_append] at front
          refine Or.inr ⟨head, rest, id, here, before, children, after, rfl, found, isBelow, rfl, ?_, ?_⟩
          · exact Arena.reaches_child table.arena spine id head here.target before children after
              absent reaches
          · refine reads_advance table spine _ reaches _ (some id) (fun _ => ?_)
              fun empty => absurd empty filled
            exact reads_child table _ id head here.target before children after reaches.held front.1
              rest topical absent

end

theorem walk_arrives (table : LinkedTable V) (spine : Spine V) (below : Grove V)
    (reaches : table.arena.Reaches spine below) (path : Path) (topical : path.Topical)
    (visited : List NodeId) (trail : visited ++ [spine.last] = spine.trail) :
    ∃ last left rest, table.arena.Arrives (spine.fill below) (spine.path ++ path) last left rest ∧
      Reads (finishWalk visited ⟨some spine.last, spine.segment.characters ++ path.text.toList⟩)
        table (last.trail, rest.text.toList) := by
  rcases advance_cases table spine below reaches path topical with
    ⟨advances, stuck⟩ | ⟨head, rest, id, here, before, children, after, rfl, _, _, rfl, lower, advances⟩
  · refine ⟨spine, below, path, ⟨reaches, rfl, rfl, stuck, topical⟩, ?_⟩
    rw [finish_walk_eq]
    refine reads_bind _ advances ?_
    rw [finish_walk_eq, trail]
    exact reads_pure table _
  · obtain ⟨single, later, _⟩ := Path.topical_cons head rest topical
    -- The nodes visited are the trail of the spine, now one longer.
    obtain ⟨last, left, more, arrives, reads⟩ :=
      walk_arrives table _ children lower rest later spine.trail rfl
    have same : (Spine.node spine id head here.target before after).path ++ rest =
        spine.path ++ head :: rest := by
      simp [Spine.path, Spine.first, Spine.later]
    rw [same] at arrives
    refine ⟨last, left, more, arrives, ?_⟩
    rw [finish_walk_eq]
    refine reads_bind _ advances ?_
    rwa [trail, Path.text_characters]
termination_by path.length

theorem first_value_arrives (table : LinkedTable V) (spine : Spine V) (below : Grove V)
    (reaches : table.arena.Reaches spine below) (path : Path) (topical : path.Topical) :
    Reads (firstValue ⟨some spine.last, spine.segment.characters ++ path.text.toList⟩) table
      (spine.target.value?.or (below.forest.firstValue? path)) := by
  have last := Arena.around_last table.arena spine _ reaches.around
  rcases advance_cases table spine below reaches path topical with
    ⟨advances, stuck⟩ | ⟨head, rest, id, here, before, children, after, rfl, found, isBelow, rfl, lower,
      advances⟩
  · have nothing : below.forest.firstValue? path = none := by
      cases path with
      | nil => rfl
      | cons head rest => rw [Forest.first_value_cons, stuck head rest rfl, Option.bind_none]
    rw [first_value_eq]
    refine reads_bind _ advances (reads_bind _ (reads_cell table _ _ last) ?_)
    rw [Cell.ofNode, nothing]
    cases valued : spine.target.value? with
    | some value => exact reads_pure table _
    | none =>
        rw [first_value_eq]
        exact reads_pure table none
  · have later := (Path.topical_cons head rest topical).2.1
    rw [first_value_eq]
    refine reads_bind _ advances (reads_bind _ (reads_cell table _ _ last) ?_)
    rw [Cell.ofNode]
    cases valued : spine.target.value? with
    | some value => exact reads_pure table _
    | none =>
        have reads := first_value_arrives table _ children lower rest later
        rw [Forest.first_value_cons, found, Option.bind_some, ← isBelow]
        rwa [Path.text_characters]
termination_by path.length

end Linked

end TopicRouting
