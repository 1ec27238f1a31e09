import TopicRouting.Linked.Change
import TopicRouting.Proofs.Forest.Collapse
import TopicRouting.Proofs.Linked.Spine
import TopicRouting.Proofs.Linked.Steps
import TopicRouting.Proofs.Linked.Store

set_option autoImplicit false

namespace TopicRouting

variable {V : Type}

namespace Linked

theorem reads_all_agree (table : LinkedTable V) (value : V) (parent : Option NodeId)
    (grove : Grove V) (holds : table.arena.Holds parent grove) :
    Reads (allAgree value grove.heads) table (grove.forest.agreesWith table.eqv value) := by
  induction grove with
  | nil => exact reads_pure table true
  | node id segment target children siblings _ ih =>
      obtain ⟨here, _, later⟩ := holds
      refine reads_bind _ (reads_cell table id _ here) ?_
      simp only [Cell.ofNode, Grove.forest, Forest.agreesWith, Target.agreesWith]
      cases valued : target.value? with
      | none => exact reads_pure table false
      | some existing =>
          refine reads_bind _ (reads_table table) ?_
          cases agrees : table.eqv existing value with
          | true => simpa [agrees] using ih later
          | false => simpa [agrees] using reads_pure table false

theorem reads_children_agree (table : LinkedTable V) (id : NodeId) (here : Cell V) (value : V)
    (children : Grove V) (found : table.arena.cell? id = some here)
    (linked : here.children = children.heads) (holds : table.arena.Holds (some id) children) :
    Reads (childrenAgree id value) table (children.forest.agreesWith table.eqv value) := by
  refine reads_bind _ (reads_cell table id here found) ?_
  rw [linked]
  exact reads_all_agree table value (some id) children holds

theorem reads_all_follow (table : LinkedTable V) (value : V) (parent : Option NodeId)
    (grove : Grove V) (holds : table.arena.Holds parent grove) :
    Reads (allFollow value grove.heads) table (grove.forest.follows table.eqv value) := by
  induction grove with
  | nil => exact reads_pure table true
  | node id segment target children siblings _ ih =>
      obtain ⟨here, _, later⟩ := holds
      refine reads_bind _ (reads_cell table id _ here) ?_
      simp only [Cell.ofNode, Grove.forest, Forest.follows]
      cases valued : target.value? with
      | none => exact reads_pure table false
      | some incoming =>
          refine reads_bind _ (reads_table table) ?_
          cases follows : table.eqv value incoming with
          | true => simpa [follows] using ih later
          | false => simpa [follows] using reads_pure table false

theorem reads_uniform_value (table : LinkedTable V) (id : NodeId) (here : Cell V)
    (children : Grove V) (found : table.arena.cell? id = some here)
    (linked : here.children = children.heads) (holds : table.arena.Holds (some id) children) :
    Reads (uniformValue id) table (children.forest.uniformValue? table.eqv) := by
  refine reads_bind _ (reads_cell table id here found) ?_
  rw [linked]
  cases children with
  | nil => exact reads_pure table none
  | node first segment target below siblings =>
      obtain ⟨isFirst, _, later⟩ := holds
      refine reads_bind _ (reads_cell table first _ isFirst) ?_
      simp only [Cell.ofNode, Grove.forest, Forest.uniformValue?]
      cases valued : target.value? with
      | none => exact reads_pure table none
      | some value =>
          refine reads_bind _ (reads_all_follow table value (some id) siblings later) ?_
          exact reads_pure table _

end Linked

structure Directory.Lists (directory : Directory) (segment : Segment) (slot : Nat)
    (root : NodeId) : Prop where
  indexed : directory.slot? segment.text = some slot
  held : directory.slots[slot]? = some (some root)

namespace Linked

theorem reads_slot (table : LinkedTable V) (segment : Segment) (slot : Nat) (root : NodeId)
    (lists : table.directory.Lists segment slot root) :
    Reads (slotContent slot) table (some root) := by
  refine reads_bind _ (reads_table table) ?_
  simp only [lists.held]
  exact reads_pure table _

theorem ends_release_root (table : LinkedTable V) (id : NodeId) (here : Cell V)
    (found : table.arena.cell? id = some here) (slot : Nat)
    (lists : table.directory.Lists here.segment slot id) :
    Ends (releaseRoot id) table (.ok ())
      { table with directory := table.directory.drop here.segment.text slot }
      [Journal.rootRemoved here.segment] := by
  have removed : Ends (removeRootEntry here.segment.text) table (.ok (some id))
      { table with directory := table.directory.drop here.segment.text slot } [] := by
    refine ends_read (reads_table table) ?_
    simp only [lists.indexed]
    refine ends_read (reads_slot table _ slot id lists) ?_
    exact ends_last _ (ends_change table _) (reads_pure _ _)
  refine ends_read (reads_cell table id here found) ?_
  refine ends_then removed ?_
  rw [beq_self_eq_true]
  exact ends_read (reads_check _ _ _) (ends_report _ _)

end Linked

namespace Plant

def remains : Option (Plant V) → Grove V
  | none => .nil
  | some left => left.grove

end Plant

structure Leaves (whole : Plant V) (others : Grove V) (change : Change V)
    (left : Option (Plant V)) (arena : Arena V) : Prop where
  stocked : arena.Stocked ((Plant.remains left).append others)
  tree : left.map Plant.tree = change.forest.firstTree?
  places : (Plant.remains left).places ⊆ whole.grove.places

def LinkedTable.settle (table : LinkedTable V) (segment : Segment) (slot : Nat)
    (left : Option (Plant V)) (arena : Arena V) : LinkedTable V :=
  match left with
  | none => { table with arena, directory := table.directory.drop segment.text slot }
  | some _ => { table with arena }

theorem settle_arena (table : LinkedTable V) (segment : Segment) (slot : Nat)
    (left : Option (Plant V)) (arena last : Arena V) :
    LinkedTable.settle { table with arena } segment slot left last =
      table.settle segment slot left last := by
  cases left <;> rfl

def Journal.settled (segment : Segment) (left : Option (Plant V)) : List Event :=
  match left with
  | none => [Journal.rootRemoved segment]
  | some _ => []

theorem leaves_whole (arena : Arena V) (spine : Spine V) (below others : Grove V)
    (focused : arena.Focused spine below others) (events : List Event) :
    Leaves (spine.fill below) others ⟨(spine.fill below).tree.toForest, false, events⟩
      (some (spine.fill below)) arena :=
  ⟨(Arena.focused_iff ..).mp focused, rfl, fun _ member => member⟩

namespace Linked

section

variable (table : LinkedTable V) (spine : Spine V) (below others : Grove V)
  (focused : table.arena.Focused spine below others)
include focused

theorem revise_still (kept : below = .nil → spine.target.isRoute = true)
    (plain : spine.target.value? = none → below.forest.uniformValue? table.eqv = none) :
    Ends (revise (some spine.last)) table (.ok ()) table [] := by
  have last := Arena.focused_last table.arena spine below others focused
  rw [revise_eq]
  refine ends_read (reads_cell table _ _ last) ?_
  cases below with
  | nil =>
      simp only [Cell.ofNode, Grove.heads, List.isEmpty_nil, kept rfl, if_true]
      exact ends_of_reads (reads_pure table ())
  | node id segment target children siblings =>
      cases valued : spine.target.value? with
      | some value =>
          simp only [Cell.ofNode, Grove.heads, List.isEmpty_cons, valued]
          exact ends_of_reads (reads_pure table ())
      | none =>
          have uniform := reads_uniform_value table _ _ _ last rfl focused.held
          rw [plain valued] at uniform
          simp only [Cell.ofNode, Grove.heads, List.isEmpty_cons, valued]
          exact ends_read uniform (ends_of_reads (reads_pure table ()))

theorem revise_collapsed (open_ : spine.target = .undecided) (value : V)
    (uniform : below.forest.uniformValue? table.eqv = some value) :
    Proceeds (revise (some spine.last)) table (revise spine.parent?)
      { table with arena := table.arena.rewrite spine (.collapsed value) below.heads }
      [Journal.collapsed spine.segment] := by
  have last := Arena.focused_last table.arena spine below others focused
  rw [revise_eq]
  refine proceeds_silent (proceeds_read (reads_cell table _ _ last)) ?_
  cases below with
  | nil => cases uniform
  | node id segment target children siblings =>
      have reads := reads_uniform_value table _ _ _ last rfl focused.held
      rw [uniform] at reads
      simp only [Cell.ofNode, Grove.heads, List.isEmpty_cons, open_, Target.value?]
      refine proceeds_silent (proceeds_read reads) ?_
      refine proceeds_trans (proceeds_bind (ends_report _ _)) ?_
      refine proceeds_silent (proceeds_bind (ends_update _ _ _ last _)) ?_
      rw [open_]
      exact proceeds_refl

end

theorem ends_unlink (table : LinkedTable V) (above : Spine V) (id : NodeId) (segment : Segment)
    (target : Target V) (before after below others : Grove V)
    (focused : table.arena.Focused (.node above id segment target before after) below others) :
    Ends (unlink id (some above.last)) table (.ok ())
      { table with
        arena := table.arena.rewrite above above.target (before.append after).heads } [] := by
  have last := Arena.around_last table.arena above _ focused.around.2.2.2
  have distinct := (Arena.siblings_distinct _ _ _ _ _ _ _ _ _ focused).1
  have updated := ends_update table above.last _ last fun cell =>
    { cell with children := cell.children.filter (· ≠ id) }
  simp only [Cell.ofNode, Arena.ids_filter _ _ id distinct, ← Grove.append_heads] at updated
  exact updated

theorem revise_pruned (table : LinkedTable V) (above : Spine V) (id : NodeId) (segment : Segment)
    (target : Target V) (before after others : Grove V)
    (focused : table.arena.Focused (.node above id segment target before after) .nil others)
    (structural : target.isRoute = false) :
    Proceeds (revise (some id)) table (revise (some above.last))
      { table with
        arena := (table.arena.rewrite above above.target (before.append after).heads).vacateAll
          [id] }
      [Journal.childlessRemoved segment] := by
  have last := focused.around.1
  have apart := (Arena.siblings_distinct _ _ _ _ _ _ _ _ _ focused).2
  rw [revise_eq]
  refine proceeds_silent (proceeds_read (reads_cell table id _ last)) ?_
  simp only [Cell.ofNode, Grove.heads, List.isEmpty_nil, structural, if_true]
  refine proceeds_trans (proceeds_bind (ends_report _ _)) ?_
  refine proceeds_silent (proceeds_bind (ends_unlink table _ _ _ _ _ _ _ _ focused)) ?_
  have counted := Arena.tallies_live _ _ focused.tallies id List.mem_cons_self
  have still := (Arena.write_other table.arena above.last id (.ofNode above.segment above.target
    above.parent? (before.append after).heads) apart).trans last
  exact proceeds_silent (proceeds_bind (ends_release _ id _ still counted)) proceeds_refl

theorem revise_felled (table : LinkedTable V) (id : NodeId) (segment : Segment)
    (target : Target V) (others : Grove V)
    (focused : table.arena.Focused (.root id segment target) .nil others)
    (structural : target.isRoute = false) (slot : Nat)
    (lists : table.directory.Lists segment slot id) :
    Ends (revise (some id)) table (.ok ())
      { table with
        arena := table.arena.vacateAll [id]
        directory := table.directory.drop segment.text slot }
      [Journal.childlessRemoved segment, Journal.rootRemoved segment] := by
  have last := focused.around
  rw [revise_eq]
  refine ends_read (reads_cell table id _ last) ?_
  simp only [Cell.ofNode, Grove.heads, List.isEmpty_nil, structural, if_true]
  refine ends_bind (ends_report _ _) ?_
  refine ends_bind (ends_release_root table id _ last slot lists) ?_
  have counted := Arena.tallies_live _ _ focused.tallies id List.mem_cons_self
  refine ends_then (ends_release _ id _ last counted) ?_
  rw [revise_eq]
  exact ends_of_reads (reads_pure _ ())

def Revises (table : LinkedTable V) (spine : Spine V) (below others : Grove V) (slot : Nat) : Prop :=
  let change := spine.resume table.eqv ⟨below.forest, true, []⟩
  ∃ left arena, Leaves (spine.fill below) others change left arena ∧
    Ends (revise (some spine.last)) table (.ok ()) (table.settle spine.first slot left arena)
      (change.events ++ Journal.settled spine.first left)

section

variable (eqv : Comparator V) (spine : Spine V) (below : Grove V)

theorem kept_routed (kept : ¬ (below = .nil ∧ spine.target.isRoute = false)) (empty : below = .nil) :
    spine.target.isRoute = true := by
  cases isRoute : spine.target.isRoute with
  | true => rfl
  | false => exact False.elim (kept ⟨empty, isRoute⟩)

theorem plain_undecided
    (plain : ¬ (spine.target = .undecided ∧ ∃ value, below.forest.uniformValue? eqv = some value))
    (open_ : spine.target.value? = none) : below.forest.uniformValue? eqv = none := by
  cases uniform : below.forest.uniformValue? eqv with
  | none => rfl
  | some value => exact False.elim (plain ⟨Forest.undecided_of_none _ open_, value, uniform⟩)

end

theorem revises_still (table : LinkedTable V) (spine : Spine V) (below others : Grove V)
    (slot : Nat) (focused : table.arena.Focused spine below others)
    (kept : ¬ (below = .nil ∧ spine.target.isRoute = false))
    (plain : ¬ (spine.target = .undecided ∧
      ∃ value, below.forest.uniformValue? table.eqv = some value)) :
    Revises table spine below others slot := by
  have routed := kept_routed spine below kept
  have none := plain_undecided table.eqv spine below plain
  have calm := Spine.resume_still table.eqv spine below
    (fun empty => routed (Grove.forest_empty below empty)) none
  rw [Revises, calm]
  refine ⟨some (spine.fill below), table.arena, leaves_whole table.arena spine below others focused [], ?_⟩
  exact revise_still table spine below others focused routed none

theorem revises_risen (table : LinkedTable V) (above : Spine V) (id : NodeId) (segment : Segment)
    (target : Target V) (before after below risen others : Grove V) (slot : Nat) (arena : Arena V)
    (events : List Event)
    (revised : Forest.revise table.eqv segment target below.forest after.forest =
      ⟨risen.forest, true, events⟩)
    (within : risen.places ⊆ (Grove.node id segment target below after).places)
    (climbs : Proceeds (revise (some id)) table (revise (some above.last)) { table with arena }
      events)
    (outer : Revises { table with arena } above (before.append risen) others slot) :
    Revises table (.node above id segment target before after) below others slot := by
  obtain ⟨left, last, leaves, ends⟩ := outer
  rw [settle_arena] at ends
  have whole := proceeds_ends climbs ends
  rw [← List.append_assoc] at whole
  rw [Revises, Spine.resume_risen table.eqv above id segment target before after below risen events
    revised]
  refine ⟨left, last, ⟨leaves.stocked, leaves.tree, ?_⟩, whole⟩
  refine fun place member => above.fill_places _ _ ?_ (leaves.places member)
  rw [Grove.append_places, Grove.append_places]
  exact List.append_subset.mpr
    ⟨List.subset_append_left .., List.Subset.trans within (List.subset_append_right ..)⟩

theorem revise_refines (table : LinkedTable V) (spine : Spine V) (below others : Grove V)
    (focused : table.arena.Focused spine below others) (slot : Nat)
    (lists : table.directory.Lists spine.first slot spine.base) :
    Revises table spine below others slot := by
  -- Along the spine from its end: what is left of a node is among what the one above has below it.
  induction spine generalizing table below with
  | root id segment target =>
      by_cases structural : below = .nil ∧ target.isRoute = false
      · obtain ⟨rfl, structural⟩ := structural
        have ends := revise_felled table id segment target others focused structural slot lists
        have change : Spine.resume table.eqv (.root id segment target) ⟨.nil, true, []⟩ =
            ⟨.nil, true, [Journal.childlessRemoved segment]⟩ :=
          Forest.revise_childless table.eqv segment target .nil structural
        rw [Revises, Grove.forest, change]
        refine ⟨none, table.arena.vacateAll [id], ⟨?_, rfl, List.nil_subset _⟩, ends⟩
        exact Arena.focused_fell table.arena id segment target .nil others focused [id] (.refl _)
      by_cases collapses : target = .undecided ∧
          ∃ value, below.forest.uniformValue? table.eqv = some value
      · obtain ⟨rfl, value, uniform⟩ := collapses
        have climbs := revise_collapsed table _ below others focused rfl value uniform
        rw [Spine.parent?, revise_eq none] at climbs
        have change : Spine.resume table.eqv (.root id segment .undecided)
            ⟨below.forest, true, []⟩ =
              ⟨.node segment (.collapsed value) below.forest .nil, true,
                [Journal.collapsed segment]⟩ := by
          simp [Spine.resume, Forest.resume,
            Forest.revise_uniform table.eqv segment below.forest .nil value uniform]
        rw [Revises, change]
        refine ⟨some ⟨id, segment, .collapsed value, below⟩, _, ⟨?_, rfl, fun _ member => member⟩,
          proceeds_ends climbs (ends_of_reads (reads_pure _ ()))⟩
        exact (Arena.focused_iff ..).mp
          (Arena.focused_retarget table.arena _ below others focused (.collapsed value))
      exact revises_still table _ below others slot focused structural collapses
  | node above id segment target before after ih =>
      by_cases structural : below = .nil ∧ target.isRoute = false
      · obtain ⟨rfl, structural⟩ := structural
        have cut := Arena.focused_cut table.arena above id segment target before after .nil others
          focused [id] (.refl _)
        refine revises_risen table above id segment target before after .nil after others slot _ _
          (Forest.revise_childless table.eqv segment target after.forest structural) ?_
          (revise_pruned table above id segment target before after others focused structural)
          (ih _ (before.append after) cut lists)
        simp [Grove.places]
      by_cases collapses : target = .undecided ∧
          ∃ value, below.forest.uniformValue? table.eqv = some value
      · obtain ⟨rfl, value, uniform⟩ := collapses
        have written := Arena.focused_retarget table.arena _ below others focused (.collapsed value)
        refine revises_risen table above id segment .undecided before after below
          (.node id segment (.collapsed value) below after) others slot _ _
          (Forest.revise_uniform table.eqv segment below.forest after.forest value uniform)
          (fun _ member => member)
          (revise_collapsed table _ below others focused rfl value uniform) ?_
        exact ih _ _ ((Arena.focused_node ..).mp written) lists
      exact revises_still table _ below others slot focused structural collapses

end Linked

end TopicRouting
