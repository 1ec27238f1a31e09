import TopicRouting.Linked.Report
import TopicRouting.Proofs.Linked.Felling
import TopicRouting.Proofs.Linked.Layout

set_option autoImplicit false

namespace TopicRouting

variable {V : Type}

namespace Grove

def postorder : Grove V → List NodeId
  | .nil => []
  | .node id _ _ children siblings => children.postorder ++ id :: siblings.postorder

theorem backwards_reverse (grove : Grove V) : grove.backwards.reverse = grove.postorder := by
  induction grove with
  | nil => rfl
  | node id segment target children siblings below beside =>
      simp [backwards, postorder, below, beside]

def rootwise : Grove V → List NodeId
  | .nil => []
  | .node id _ _ children siblings => id :: (children.backwards ++ siblings.rootwise)

theorem rootwise_length (grove : Grove V) : grove.rootwise.length = grove.ids.length := by
  induction grove with
  | nil => rfl
  | node id segment target children siblings _ ih =>
      simp [rootwise, ids, ih, children.backwards_perm.length_eq]

def reconcile (eqv : Comparator V) : Grove V → Grove V
  | .nil => .nil
  | .node id segment target children siblings =>
    .node id segment
      (Forest.reconciledTarget eqv target (children.reconcile eqv).forest)
      (children.reconcile eqv) (siblings.reconcile eqv)

theorem reconcile_forest (eqv : Comparator V) (grove : Grove V) :
    (grove.reconcile eqv).forest = grove.forest.reconcile eqv := by
  induction grove with
  | nil => rfl
  | node id segment target children siblings below beside =>
      simp [reconcile, forest, Forest.reconcile, below, beside]

theorem reconcile_heads (eqv : Comparator V) (grove : Grove V) :
    (grove.reconcile eqv).heads = grove.heads := by
  induction grove with
  | nil => rfl
  | node id segment target children siblings _ ih => simp [reconcile, heads, ih]

theorem reconcile_ids (eqv : Comparator V) (grove : Grove V) :
    (grove.reconcile eqv).ids = grove.ids := by
  induction grove with
  | nil => rfl
  | node id segment target children siblings below beside => simp [reconcile, ids, below, beside]

def withdrawals (eqv : Comparator V) : Grove V → List Event
  | .nil => []
  | .node id segment target children siblings =>
    siblings.withdrawals eqv
      ++ (node id segment target children .nil).forest.withdrawals eqv

theorem append_withdrawals (eqv : Comparator V) (front back : Grove V) :
    (front.append back).withdrawals eqv = back.withdrawals eqv ++ front.withdrawals eqv := by
  induction front with
  | nil => simp [append, withdrawals]
  | node id segment target children siblings _ ih => simp [append, withdrawals, ih]

theorem append_reconcile (eqv : Comparator V) (front back : Grove V) :
    (front.append back).reconcile eqv = (front.reconcile eqv).append (back.reconcile eqv) := by
  induction front with
  | nil => rfl
  | node id segment target children siblings _ ih => simp [append, reconcile, ih]

end Grove

def Plant.reconcile (eqv : Comparator V) (plant : Plant V) : Plant V :=
  ⟨plant.id, plant.segment,
    Forest.reconciledTarget eqv plant.target (plant.children.reconcile eqv).forest,
    plant.children.reconcile eqv⟩

namespace Layout

theorem grove_reconcile (eqv : Comparator V) (layout : Layout V) :
    grove (layout.map (Option.map (Plant.reconcile eqv))) = (grove layout).reconcile eqv := by
  induction layout with
  | nil => rfl
  | cons held layout ih =>
      rw [List.map_cons, grove, grove, Grove.append_reconcile, ih]
      cases held <;> rfl

theorem grove_withdrawals (eqv : Comparator V) (layout : Layout V) :
    (grove layout).withdrawals eqv =
      ((plants layout).map Plant.tree).reverse.flatMap fun tree => tree.toForest.withdrawals eqv := by
  induction layout with
  | nil => rfl
  | cons held layout ih =>
      rw [grove, Grove.append_withdrawals, ih]
      cases held with
      | none => simp [plants, Plant.remains, Grove.withdrawals]
      | some plant =>
          simp [plants, Plant.remains, Plant.grove, Grove.withdrawals, Grove.forest, Plant.tree,
            Tree.toForest]

end Layout

theorem Cell.of_uniform (segment : Segment) (uniform : Option V) (parent : Option NodeId)
    (children : List NodeId) :
    Cell.ofNode segment (.ofUniform uniform) parent children =
      ⟨segment, uniform, false, parent, children⟩ := by
  cases uniform <;> rfl

namespace Arena

structure Replaces (arena after : Arena V) (id : NodeId) (new : Cell V) : Prop where
  here : after.cell? id = some new
  others : ∀ other, other ≠ id → after.cell? other = arena.cell? other
  tallies : ∀ ids, arena.Tallies ids → after.Tallies ids

theorem replaces_same (arena : Arena V) (id : NodeId) (here : Cell V)
    (found : arena.cell? id = some here) : arena.Replaces arena id here :=
  ⟨found, fun _ _ => rfl, fun _ tallies => tallies⟩

theorem replaces_write (arena : Arena V) (id : NodeId) (here new : Cell V)
    (found : arena.cell? id = some here) : arena.Replaces (arena.write id new) id new :=
  ⟨write_here arena id here new found, fun other => write_other arena id other new,
    fun ids tallies => tallies_write arena ids tallies id here new found⟩

structure Reconciles (arena after : Arena V) (eqv : Comparator V) (parent : Option NodeId)
    (grove : Grove V) : Prop where
  holds : after.Holds parent (grove.reconcile eqv)
  others : ∀ id, id ∉ grove.ids → after.cell? id = arena.cell? id
  tallies : ∀ ids, arena.Tallies ids → after.Tallies ids

theorem reconciled_still (arena after : Arena V) (eqv : Comparator V) (parent : Option NodeId)
    (grove : Grove V) (holds : arena.Holds parent (grove.reconcile eqv))
    (same : ∀ id ∈ grove.ids, after.cell? id = arena.cell? id) :
    after.Holds parent (grove.reconcile eqv) := by
  refine holds_congr arena after parent _ ?_ holds
  rwa [Grove.reconcile_ids]

end Arena

namespace Linked

theorem reads_collect_forest (table : LinkedTable V) (grove : Grove V)
    (holds : table.arena.Holds none grove) (order : List NodeId) :
    Reads (collectForest grove.heads order) table (order ++ grove.rootwise) := by
  induction grove generalizing order with
  | nil =>
      rw [Grove.rootwise, List.append_nil]
      exact reads_pure table order
  | node id segment target children siblings _ ih =>
      obtain ⟨here, lower, later⟩ := holds
      have collected := reads_collect_subtree table none id segment target children here lower
      refine reads_bind _ collected ?_
      simpa [Grove.rootwise, List.append_assoc] using ih later (order ++ id :: children.backwards)

theorem ends_decide (table : LinkedTable V) (parent : Option NodeId) (id : NodeId)
    (segment : Segment) (target : Target V) (children : Grove V)
    (here : table.arena.cell? id = some (.ofNode segment target parent children.heads))
    (lower : table.arena.Holds (some id) children) :
    Ends (decide id (.ofNode segment target parent children.heads)) table (.ok ())
      { table with
        arena := table.arena.write id (.ofNode segment
          (.ofUniform (children.forest.uniformValue? table.eqv)) parent children.heads) }
      (if target.isRoute then [Journal.routeWithdrawn segment] else []) := by
  have uniform := reads_uniform_value table id _ children here rfl lower
  have written : Ends
      (do let value ← uniformValue id
          update id fun cell => { cell with value, routed := false })
      table (.ok ())
      { table with
        arena := table.arena.write id (.ofNode segment
          (.ofUniform (children.forest.uniformValue? table.eqv)) parent children.heads) } [] := by
    have updated := ends_update table id _ here fun cell =>
      { cell with value := children.forest.uniformValue? table.eqv, routed := false }
    rw [Cell.of_uniform]
    exact ends_read uniform updated
  rw [decide]
  cases target with
  | route value => exact ends_bind (ends_report table (Journal.routeWithdrawn segment)) written
  | undecided => exact written
  | collapsed value => exact written

theorem reads_route_holds (table : LinkedTable V) (parent : Option NodeId) (id : NodeId)
    (segment : Segment) (target : Target V) (children : Grove V)
    (here : table.arena.cell? id = some (.ofNode segment target parent children.heads))
    (lower : table.arena.Holds (some id) children) :
    Reads (routeHolds id (.ofNode segment target parent children.heads)) table
      (target.route?.any fun value => children.forest.agreesWith table.eqv value) := by
  cases target with
  | undecided => exact reads_pure table false
  | collapsed value => exact reads_pure table false
  | route value => exact reads_children_agree table id _ value children here rfl lower

theorem reoptimizes_node (table : LinkedTable V) (parent : Option NodeId) (id : NodeId)
    (segment : Segment) (target settled : Target V) (children : Grove V)
    (here : table.arena.cell? id = some (.ofNode segment target parent children.heads))
    (lower : table.arena.Holds (some id) children)
    (settles : Forest.reconciledTarget table.eqv target children.forest = settled)
    (others : List NodeId) :
    ∃ arena : Arena V,
      table.arena.Replaces arena id (.ofNode segment settled parent children.heads) ∧
      Proceeds (reoptimize (id :: others)) table (reoptimize others) { table with arena }
        (if target.isRoute && !settled.isRoute then [Journal.routeWithdrawn segment] else []) := by
  have step := proceeds_read (f := fun here => if here.children.isEmpty then reoptimize others
    else do
      if ← routeHolds id here then reoptimize others
      else
        decide id here
        reoptimize others) (reads_cell table id _ here)
  by_cases childless : children = .nil
  · subst childless settles
    refine ⟨table.arena, Arena.replaces_same table.arena id _ here, ?_⟩
    rw [Grove.forest, Forest.reconciledTarget, Bool.and_not_self]
    exact proceeds_silent step proceeds_refl
  have filled : children.heads.isEmpty = false := by
    cases children with
    | nil => exact absurd rfl childless
    | node => rfl
  have decided : settled =
      if target.route?.any fun value => children.forest.agreesWith table.eqv value then target
      else .ofUniform (children.forest.uniformValue? table.eqv) := by
    rw [← settles]
    cases children with
    | nil => exact absurd rfl childless
    | node => cases target <;> rfl
  have holds := reads_route_holds table parent id segment target children here lower
  simp only [Cell.ofNode, filled] at step
  by_cases agrees :
      (target.route?.any fun value => children.forest.agreesWith table.eqv value) = true
  · rw [if_pos agrees] at decided
    subst decided
    refine ⟨table.arena, Arena.replaces_same table.arena id _ here, ?_⟩
    refine proceeds_silent step (proceeds_silent (proceeds_read holds) ?_)
    rw [if_pos agrees, Bool.and_not_self]
    exact proceeds_refl
  · have plain : settled.isRoute = false := by
      rw [decided, if_neg agrees]
      cases children.forest.uniformValue? table.eqv <;> rfl
    rw [if_neg agrees] at decided
    refine ⟨_, Arena.replaces_write table.arena id _ _ here, ?_⟩
    refine proceeds_silent step (proceeds_silent (proceeds_read holds) ?_)
    rw [if_neg agrees, plain, Bool.not_false, Bool.and_true, decided]
    exact proceeds_bind (ends_decide table parent id segment target children here lower)

theorem reoptimizes (table : LinkedTable V) (parent : Option NodeId) (grove : Grove V)
    (holds : table.arena.Holds parent grove) (distinct : grove.ids.Nodup) (others : List NodeId) :
    ∃ arena, table.arena.Reconciles arena table.eqv parent grove ∧
      Proceeds (reoptimize (grove.postorder ++ others)) table (reoptimize others)
        { table with arena } (grove.forest.withdrawals table.eqv) := by
  induction grove generalizing table parent others with
  | nil => exact ⟨table.arena, ⟨trivial, fun _ _ => rfl, fun _ tallies => tallies⟩, proceeds_refl⟩
  | node id segment target children siblings below beside =>
      obtain ⟨here, lower, later⟩ := holds
      obtain ⟨fresh, split⟩ := List.nodup_cons.mp distinct
      obtain ⟨distinctBelow, distinctBeside, apart⟩ := List.nodup_append.mp split
      have aside : ∀ other ∈ siblings.ids, other ∉ children.ids :=
        fun other member within => apart other within other member rfl
      obtain ⟨lowered, reconciled, first⟩ := below table (some id) lower distinctBelow
        (id :: (siblings.postorder ++ others))
      have still := (reconciled.others id fun member => fresh (List.mem_append_left _ member)).trans here
      rw [← Grove.reconcile_heads table.eqv children] at still
      obtain ⟨settled, replaced, second⟩ := reoptimizes_node { table with arena := lowered } parent id
        segment target _ _ still reconciled.holds rfl (siblings.postorder ++ others)
      have kept : ∀ other ∈ siblings.ids, settled.cell? other = table.arena.cell? other := by
        intro other member
        have different : other ≠ id := fun same => fresh (same ▸ List.mem_append_right _ member)
        rw [replaced.others other different]
        exact reconciled.others other (aside other member)
      obtain ⟨last, finished, third⟩ := beside { table with arena := settled } parent
        (Arena.holds_congr _ _ _ _ kept later) distinctBeside others
      refine ⟨last, ⟨⟨?_, ?_, finished.holds⟩, ?_, ?_⟩, ?_⟩
      · rw [finished.others id fun member => fresh (List.mem_append_right _ member)]
        exact replaced.here
      · refine Arena.reconciled_still lowered last _ _ _ reconciled.holds fun other member => ?_
        have different : other ≠ id := fun same => fresh (same ▸ List.mem_append_left _ member)
        rw [finished.others other fun within => aside other within member]
        exact replaced.others other different
      · intro other outside
        simp only [Grove.ids, List.mem_cons, List.mem_append, not_or] at outside
        rw [finished.others other outside.2.2, replaced.others other outside.1]
        exact reconciled.others other outside.2.1
      · exact fun ids tallies =>
          finished.tallies ids (replaced.tallies ids (reconciled.tallies ids tallies))
      · rw [Grove.reconcile_forest] at second
        rw [Grove.postorder, List.append_assoc, List.cons_append]
        exact proceeds_trans (proceeds_trans first second) third

theorem reoptimizes_roots (table : LinkedTable V) (parent : Option NodeId) (grove : Grove V)
    (holds : table.arena.Holds parent grove) (distinct : grove.ids.Nodup) (others : List NodeId) :
    ∃ arena, table.arena.Reconciles arena table.eqv parent grove ∧
      Proceeds (reoptimize (grove.rootwise.reverse ++ others)) table (reoptimize others)
        { table with arena } (grove.withdrawals table.eqv) := by
  induction grove generalizing table others with
  | nil => exact ⟨table.arena, ⟨trivial, fun _ _ => rfl, fun _ tallies => tallies⟩, proceeds_refl⟩
  | node id segment target children siblings _ beside =>
      obtain ⟨here, lower, later⟩ := holds
      generalize isRoot : Grove.node id segment target children .nil = root
      have ids : root.ids = id :: children.ids := by simp [← isRoot, Grove.ids]
      have split : (root.ids ++ siblings.ids).Nodup := by
        rw [ids]
        exact distinct
      obtain ⟨distinctRoot, distinctBeside, apart⟩ := List.nodup_append.mp split
      have order : (Grove.node id segment target children siblings).rootwise.reverse ++ others =
          siblings.rootwise.reverse ++ (root.postorder ++ others) := by
        simp [Grove.rootwise, Grove.postorder, ← isRoot, Grove.backwards_reverse]
      obtain ⟨mid, reconciled, first⟩ := beside table later distinctBeside (root.postorder ++ others)
      have whole : table.arena.Holds parent root := by
        rw [← isRoot]
        exact ⟨here, lower, trivial⟩
      have still : mid.Holds parent root := by
        refine Arena.holds_congr _ _ _ _ (fun other member => ?_) whole
        exact reconciled.others other fun within => apart other member other within rfl
      obtain ⟨last, finished, second⟩ := reoptimizes { table with arena := mid } parent root still
        distinctRoot others
      have rest : last.Holds parent (siblings.reconcile table.eqv) := by
        refine Arena.reconciled_still mid last _ _ _ reconciled.holds fun other member => ?_
        exact finished.others other fun within => apart other within other member rfl
      have settled := finished.holds
      rw [← isRoot] at settled
      refine ⟨last, ⟨⟨settled.1, settled.2.1, rest⟩, ?_, ?_⟩, ?_⟩
      · intro other outside
        have neither : other ∉ root.ids ∧ other ∉ siblings.ids := by
          rw [ids]
          simpa [Grove.ids, and_assoc] using outside
        exact (finished.others other neither.1).trans (reconciled.others other neither.2)
      · exact fun ids tallies => finished.tallies ids (reconciled.tallies ids tallies)
      · rw [order, Grove.withdrawals, isRoot]
        exact proceeds_trans first second

end Linked

end TopicRouting
