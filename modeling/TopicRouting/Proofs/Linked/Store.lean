import TopicRouting.Proofs.Linked.Cells
import TopicRouting.Proofs.Linked.Grove

/-!
Groves stored in an arena. Every node of a stored grove is one cell that names its parent and its
children in order; a stored tree that is looked at along a spine can be changed at the end of the
spine with one write, and what is below the end can be cut off.
-/

set_option autoImplicit false

namespace TopicRouting

variable {V : Type}

def Cell.ofNode (segment : Segment) (target : Target V) (parent : Option NodeId)
    (children : List NodeId) : Cell V :=
  ⟨segment, target.value?, target.isRoute, parent, children⟩

namespace Arena

def Holds (arena : Arena V) (parent : Option NodeId) : Grove V → Prop
  | .nil => True
  | .node id segment target children siblings =>
    arena.cell? id = some (.ofNode segment target parent children.heads)
      ∧ arena.Holds (some id) children ∧ arena.Holds parent siblings

-- The nodes of a spine, the last of which has the children `below`, and those beside it.
def HoldsAround (arena : Arena V) : Spine V → (below : List NodeId) → Prop
  | .root id segment target, below =>
    arena.cell? id = some (.ofNode segment target none below)
  | .node above id segment target before after, below =>
    arena.cell? id = some (.ofNode segment target (some above.last) below)
      ∧ arena.Holds (some above.last) before ∧ arena.Holds (some above.last) after
      ∧ arena.HoldsAround above (before.heads ++ id :: after.heads)

def rewrite (arena : Arena V) (spine : Spine V) (target : Target V) (children : List NodeId) :
    Arena V :=
  arena.write spine.last (.ofNode spine.segment target spine.parent? children)

theorem holds_congr (arena other : Arena V) (parent : Option NodeId) (grove : Grove V)
    (same : ∀ id ∈ grove.ids, other.cell? id = arena.cell? id)
    (holds : arena.Holds parent grove) : other.Holds parent grove := by
  induction grove generalizing parent with
  | nil => trivial
  | node id segment target children siblings below beside =>
      obtain ⟨here, lower, later⟩ := holds
      refine ⟨(same id List.mem_cons_self).trans here, below _ ?_ lower, beside _ ?_ later⟩
      · exact fun other member => same other (by simp [Grove.ids, member])
      · exact fun other member => same other (by simp [Grove.ids, member])

theorem around_congr (arena other : Arena V) (spine : Spine V) (below : List NodeId)
    (same : ∀ id ∈ spine.ids, other.cell? id = arena.cell? id)
    (around : arena.HoldsAround spine below) : other.HoldsAround spine below := by
  induction spine generalizing below with
  | root id segment target => exact (same id List.mem_cons_self).trans around
  | node above id segment target before after ih =>
      obtain ⟨here, earlier, later, outer⟩ := around
      refine ⟨(same id List.mem_cons_self).trans here, holds_congr arena other _ _ ?_ earlier,
        holds_congr arena other _ _ ?_ later, ih _ ?_ outer⟩
      all_goals exact fun other member => same other (by simp [Spine.ids, member])

theorem holds_append (arena : Arena V) (parent : Option NodeId) (front back : Grove V) :
    arena.Holds parent (front.append back) ↔ arena.Holds parent front ∧ arena.Holds parent back := by
  induction front with
  | nil => simp [Grove.append, Holds]
  | node id segment target children siblings _ ih => simp [Grove.append, Holds, ih, and_assoc]

theorem holds_fill (arena : Arena V) (spine : Spine V) (below : Grove V) :
    arena.Holds none (spine.fill below).grove ↔
      arena.HoldsAround spine below.heads ∧ arena.Holds (some spine.last) below := by
  induction spine generalizing below with
  | root id segment target => simp [Spine.fill, Plant.grove, Holds, HoldsAround, Spine.last]
  | node above id segment target before after ih =>
      rw [Spine.fill, ih]
      simp only [holds_append, Grove.append_heads, Grove.heads, Holds, HoldsAround, Spine.last]
      grind

theorem around_write (arena : Arena V) (spine : Spine V) (below children : List NodeId)
    (target : Target V) (around : arena.HoldsAround spine below) (distinct : spine.ids.Nodup) :
    (arena.rewrite spine target children).HoldsAround (spine.retarget target) children := by
  cases spine with
  | root id segment old => exact write_here arena id _ _ around
  | node above id segment old before after =>
      obtain ⟨here, earlier, later, outer⟩ := around
      have apart := (List.nodup_cons.mp distinct).1
      have kept : ∀ other ∈ before.ids ++ after.ids ++ above.ids,
          (arena.write id (.ofNode segment target (some above.last) children)).cell? other =
            arena.cell? other := by
        intro other member
        exact write_other arena id other _ fun same => apart (same ▸ member)
      refine ⟨write_here arena id _ _ here, holds_congr arena _ _ _ ?_ earlier,
        holds_congr arena _ _ _ ?_ later, around_congr arena _ _ _ ?_ outer⟩
      all_goals exact fun other member => kept other (by simp [member])

theorem around_last (arena : Arena V) (spine : Spine V) (below : List NodeId)
    (around : arena.HoldsAround spine below) :
    arena.cell? spine.last = some (.ofNode spine.segment spine.target spine.parent? below) := by
  cases spine with
  | root id segment target => exact around
  | node above id segment target before after => exact around.1

def vacateAll (arena : Arena V) (ids : List NodeId) : Arena V := ids.foldl vacate arena

theorem vacate_all_other (arena : Arena V) (ids : List NodeId) (other : NodeId)
    (apart : other ∉ ids) : (arena.vacateAll ids).cell? other = arena.cell? other := by
  induction ids generalizing arena with
  | nil => rfl
  | cons id ids ih =>
      have parts := List.ne_and_not_mem_of_not_mem_cons apart
      exact (ih (arena.vacate id) parts.2).trans (vacate_other arena id other parts.1)

theorem tallies_vacate_all (arena : Arena V) (doomed ids : List NodeId)
    (tallies : arena.Tallies (doomed ++ ids)) : (arena.vacateAll doomed).Tallies ids := by
  induction doomed generalizing arena with
  | nil => exact tallies
  | cons id doomed ih => exact ih (arena.vacate id) (tallies_vacate arena id _ tallies)

structure Stocked (arena : Arena V) (roots : Grove V) : Prop where
  holds : arena.Holds none roots
  tallies : arena.Tallies roots.ids

structure Focused (arena : Arena V) (spine : Spine V) (below others : Grove V) : Prop where
  around : arena.HoldsAround spine below.heads
  held : arena.Holds (some spine.last) below
  beside : arena.Holds none others
  tallies : arena.Tallies (spine.ids ++ (below.ids ++ others.ids))

theorem focused_iff (arena : Arena V) (spine : Spine V) (below others : Grove V) :
    arena.Focused spine below others ↔ arena.Stocked ((spine.fill below).grove.append others) := by
  have same : ((spine.fill below).grove.append others).ids.Perm
      (spine.ids ++ (below.ids ++ others.ids)) := by
    rw [Grove.append_ids, ← List.append_assoc]
    exact (spine.fill_ids below).append_right _
  constructor
  · intro focused
    refine ⟨?_, tallies_permute arena _ _ focused.tallies same.symm⟩
    exact (holds_append ..).mpr ⟨(holds_fill ..).mpr ⟨focused.around, focused.held⟩, focused.beside⟩
  · intro stocked
    obtain ⟨tree, beside⟩ := (holds_append ..).mp stocked.holds
    obtain ⟨around, held⟩ := (holds_fill ..).mp tree
    exact ⟨around, held, beside, tallies_permute arena _ _ stocked.tallies same⟩

theorem focused_node (arena : Arena V) (above : Spine V) (id : NodeId) (segment : Segment)
    (target : Target V) (before after below others : Grove V) :
    arena.Focused (.node above id segment target before after) below others ↔
      arena.Focused above (before.append (.node id segment target below after)) others := by
  rw [focused_iff, focused_iff, Spine.fill]

section

variable (arena : Arena V) (spine : Spine V) (below others : Grove V)
  (focused : arena.Focused spine below others)
include focused

theorem focused_last : arena.cell? spine.last =
    some (.ofNode spine.segment spine.target spine.parent? below.heads) :=
  around_last arena spine _ focused.around

theorem focused_distinct : spine.ids.Nodup :=
  (List.nodup_append.mp focused.tallies.distinct).1

theorem last_apart (other : NodeId) (member : other ∈ below.ids ++ others.ids) :
    other ≠ spine.last := by
  intro same
  exact (List.nodup_append.mp focused.tallies.distinct).2.2 _ spine.last_member _ member same.symm

theorem focused_retarget (target : Target V) :
    (arena.rewrite spine target below.heads).Focused (spine.retarget target) below others := by
  have apart := last_apart arena spine below others focused
  have last := focused_last arena spine below others focused
  refine ⟨around_write arena spine _ _ target focused.around (focused_distinct _ _ _ _ focused),
    ?_, ?_, ?_⟩
  · rw [Spine.retarget_last]
    refine holds_congr arena _ _ _ ?_ focused.held
    exact fun other member => write_other arena _ other _ (apart other (by simp [member]))
  · refine holds_congr arena _ _ _ ?_ focused.beside
    exact fun other member => write_other arena _ other _ (apart other (by simp [member]))
  · rw [Spine.retarget_ids]
    exact tallies_write arena _ focused.tallies _ _ _ last

end

theorem ids_filter (front back : List NodeId) (id : NodeId)
    (distinct : (front ++ id :: back).Nodup) :
    (front ++ id :: back).filter (· ≠ id) = front ++ back := by
  obtain ⟨_, second, apart⟩ := List.nodup_append.mp distinct
  have parts := List.nodup_cons.mp second
  rw [List.filter_append, List.filter_cons_of_neg (by simp)]
  rw [List.filter_eq_self.mpr, List.filter_eq_self.mpr]
  · intro other member
    have different : other ≠ id := fun same => parts.1 (same ▸ member)
    simp [different]
  · intro other member
    have different : other ≠ id := apart other member id List.mem_cons_self
    simp [different]

theorem siblings_distinct (arena : Arena V) (above : Spine V) (id : NodeId) (segment : Segment)
    (target : Target V) (before after below others : Grove V)
    (focused : arena.Focused (.node above id segment target before after) below others) :
    (before.heads ++ id :: after.heads).Nodup ∧ id ≠ above.last := by
  have distinct := focused_distinct arena _ below others focused
  constructor
  · have whole : (before.ids ++ id :: after.ids).Nodup := by
      refine (List.perm_middle.nodup_iff).mpr ?_
      exact ((List.sublist_append_left ..).cons_cons id).nodup distinct
    exact (before.heads_sublist.append (after.heads_sublist.cons_cons id)).nodup whole
  · intro same
    refine (List.nodup_cons.mp distinct).1 ?_
    rw [same]
    exact List.mem_append_right _ above.last_member

theorem tallies_unlinked (arena : Arena V) (above : Spine V) (id : NodeId) (segment : Segment)
    (target : Target V) (before after below others : Grove V)
    (focused : arena.Focused (.node above id segment target before after) below others)
    (doomed : List NodeId) (whole : doomed.Perm (id :: below.ids)) :
    (arena.rewrite above above.target (before.append after).heads).Tallies
      (doomed ++ (above.ids ++ ((before.append after).ids ++ others.ids))) := by
  refine tallies_write arena _ ?_ _ _ _ (around_last arena above _ focused.around.2.2.2)
  refine tallies_permute arena _ _ focused.tallies (.trans ?_ (whole.symm.append_right _))
  simp only [Spine.ids, Grove.append_ids]
  grind

theorem focused_cut (arena : Arena V) (above : Spine V) (id : NodeId) (segment : Segment)
    (target : Target V) (before after below others : Grove V)
    (focused : arena.Focused (.node above id segment target before after) below others)
    (doomed : List NodeId) (whole : doomed.Perm (id :: below.ids)) :
    ((arena.rewrite above above.target (before.append after).heads).vacateAll doomed).Focused above
      (before.append after) others := by
  have tallies := tallies_unlinked arena above id segment target before after below others focused
    doomed whole
  obtain ⟨⟨_, earlier, later, outer⟩, _, beside, _⟩ := focused
  obtain ⟨_, kept, apart⟩ := List.nodup_append.mp tallies.distinct
  obtain ⟨distinct, _, aside⟩ := List.nodup_append.mp kept
  generalize isRelinked : arena.rewrite above above.target _ = relinked at tallies ⊢
  have survives : ∀ other ∈ above.ids ++ ((before.append after).ids ++ others.ids),
      (relinked.vacateAll doomed).cell? other = relinked.cell? other := by
    intro other member
    exact vacate_all_other relinked doomed other fun gone => apart other gone other member rfl
  have same : ∀ other ∈ (before.append after).ids ++ others.ids,
      (relinked.vacateAll doomed).cell? other = arena.cell? other := by
    intro other member
    rw [survives other (List.mem_append_right _ member), ← isRelinked]
    exact write_other arena _ other _ fun equal => aside _ above.last_member other member equal.symm
  refine ⟨?_, ?_, ?_, tallies_vacate_all relinked doomed _ tallies⟩
  · have around := around_write arena above _ (before.append after).heads above.target outer distinct
    rw [isRelinked, Spine.retarget_self] at around
    refine around_congr relinked _ above _ ?_ around
    exact fun other member => survives other (List.mem_append_left _ member)
  · refine holds_congr arena _ _ _ ?_ ((holds_append ..).mpr ⟨earlier, later⟩)
    exact fun other member => same other (List.mem_append_left _ member)
  · refine holds_congr arena _ _ _ ?_ beside
    exact fun other member => same other (List.mem_append_right _ member)

theorem focused_fell (arena : Arena V) (id : NodeId) (segment : Segment)
    (target : Target V) (below others : Grove V)
    (focused : arena.Focused (.root id segment target) below others)
    (doomed : List NodeId) (whole : doomed.Perm (id :: below.ids)) :
    (arena.vacateAll doomed).Stocked others := by
  have split : arena.Tallies (doomed ++ others.ids) :=
    tallies_permute arena _ _ focused.tallies (whole.symm.append_right others.ids)
  refine ⟨holds_congr arena _ _ _ ?_ focused.beside, tallies_vacate_all arena doomed _ split⟩
  intro other member
  refine vacate_all_other arena doomed other fun gone => ?_
  exact (List.nodup_append.mp split.distinct).2.2 other gone other member rfl

end Arena

end TopicRouting
