import TopicRouting.Proofs.Linked.Grove

set_option autoImplicit false

namespace TopicRouting

variable {V : Type}

namespace Forest

theorem register_missing (eqv : Comparator V) (value : V) (forest : Forest V) (segment : Segment)
    (rest : Path) (settled : Bool) (absent : forest.child? segment = none) :
    forest.register eqv value segment rest settled =
      ⟨forest.append (chain value segment rest), true, []⟩ := by
  induction forest with
  | nil => rfl
  | node first target children siblings _ ih =>
      by_cases same : first = segment
      · simp [child?, same] at absent
      · simp only [child?, if_neg same] at absent
        simp [register, append, same, ih absent]

theorem revise_childless (eqv : Comparator V) (segment : Segment) (target : Target V)
    (siblings : Forest V) (structural : target.isRoute = false) :
    revise eqv segment target .nil siblings =
      ⟨siblings, true, [Journal.childlessRemoved segment]⟩ := by
  simp [revise, structural]

theorem revise_uniform (eqv : Comparator V) (segment : Segment) (children siblings : Forest V)
    (value : V) (uniform : children.uniformValue? eqv = some value) :
    revise eqv segment .undecided children siblings =
      ⟨.node segment (.collapsed value) children siblings, true, [Journal.collapsed segment]⟩ := by
  cases children with
  | nil => cases uniform
  | node first target below beside => simp [revise, uniform]

theorem revise_unchanged (eqv : Comparator V) (segment : Segment) (target : Target V)
    (children siblings : Forest V) (kept : children = .nil → target.isRoute = true)
    (plain : target.value? = none → children.uniformValue? eqv = none) :
    revise eqv segment target children siblings =
      ⟨.node segment target children siblings, false, []⟩ := by
  cases children with
  | nil => simp [revise, kept]
  | node first held below beside =>
      cases target with
      | undecided => simp [revise, plain rfl]
      | collapsed value => rfl
      | route value => rfl

end Forest

namespace Spine

-- The change of the whole tree that comes from a change below the spine.
def resume (eqv : Comparator V) : Spine V → Change V → Change V
  | .root _ segment target, change => Forest.resume eqv segment target change .nil
  | .node above _ segment target before after, change =>
    let up := Forest.resume eqv segment target change after.forest
    above.resume eqv { up with forest := before.forest.append up.forest }

structure Cleared (V : Type) where
  spine : Spine V
  settled : Bool
  events : List Event

def clear (eqv : Comparator V) (value : V) : Spine V → Cleared V
  | .root id segment target =>
    let relaxed := target.relax eqv value segment false
    ⟨.root id segment relaxed.target, relaxed.settled, relaxed.events⟩
  | .node above id segment target before after =>
    let outer := above.clear eqv value
    let relaxed := target.relax eqv value segment outer.settled
    ⟨.node outer.spine id segment relaxed.target before after, relaxed.settled,
      outer.events ++ relaxed.events⟩

section

variable (eqv : Comparator V) (value : V) (spine : Spine V)

theorem clear_last : (spine.clear eqv value).spine.last = spine.last := by
  cases spine <;> rfl

theorem clear_first : (spine.clear eqv value).spine.first = spine.first := by
  induction spine with
  | root id segment target => rfl
  | node above id segment target before after ih => exact ih

theorem clear_base : (spine.clear eqv value).spine.base = spine.base := by
  induction spine with
  | root id segment target => rfl
  | node above id segment target before after ih => exact ih

end

theorem resume_calm (eqv : Comparator V) (spine : Spine V) (below : Grove V)
    (events : List Event) :
    spine.resume eqv ⟨below.forest, false, events⟩ =
      ⟨(spine.fill below).tree.toForest, false, events⟩ := by
  induction spine generalizing below with
  | root id segment target => rfl
  | node above id segment target before after ih =>
      rw [fill, ← ih, Grove.append_forest]
      rfl

theorem resume_still (eqv : Comparator V) (spine : Spine V) (below : Grove V)
    (kept : below.forest = .nil → spine.target.isRoute = true)
    (plain : spine.target.value? = none → below.forest.uniformValue? eqv = none) :
    spine.resume eqv ⟨below.forest, true, []⟩ = ⟨(spine.fill below).tree.toForest, false, []⟩ := by
  have still := fun siblings =>
    Forest.revise_unchanged eqv spine.segment spine.target below.forest siblings kept plain
  rw [← resume_calm eqv spine below []]
  cases spine <;> simp only [segment, target] at still <;> simp [resume, Forest.resume, still]

theorem resume_events (eqv : Comparator V) (spine : Spine V) (change : Change V)
    (front : List Event) :
    spine.resume eqv { change with events := front ++ change.events } =
      let up := spine.resume eqv change
      { up with events := front ++ up.events } := by
  induction spine generalizing change with
  | root id segment target =>
      cases rising : change.rising <;> simp [resume, Forest.resume, rising]
  | node above id segment target before after ih =>
      simp only [resume]
      rw [← ih]
      cases rising : change.rising <;> simp [Forest.resume, rising]

theorem resume_risen (eqv : Comparator V) (above : Spine V) (id : NodeId) (segment : Segment)
    (target : Target V) (before after below risen : Grove V) (events : List Event)
    (revised : Forest.revise eqv segment target below.forest after.forest =
      ⟨risen.forest, true, events⟩) :
    (node above id segment target before after).resume eqv ⟨below.forest, true, []⟩ =
      let up := above.resume eqv ⟨(before.append risen).forest, true, []⟩
      { up with events := events ++ up.events } := by
  have moved := resume_events eqv above ⟨(before.append risen).forest, true, []⟩ events
  rw [List.append_nil] at moved
  rw [← moved, Grove.append_forest]
  simp [resume, Forest.resume, revised]

theorem detach_fill (eqv : Comparator V) (spine : Spine V) (apart : spine.Apart)
    (below : Grove V) (segment : Segment) (rest : Path) :
    (spine.fill below).tree.toForest.detach eqv spine.first (spine.later ++ segment :: rest) =
      spine.resume eqv (below.forest.detach eqv segment rest) := by
  induction spine generalizing below segment rest with
  | root id here target => simp [fill, Plant.tree, Tree.toForest, first, later, Forest.detach, resume]
  | node above id here target before after ih =>
      rw [fill, first, later, List.append_assoc, List.singleton_append, ih apart.2,
        Grove.append_forest, Forest.append_detach eqv _ _ _ _ apart.1]
      simp [Grove.forest, Forest.detach, resume]

theorem register_fill (eqv : Comparator V) (value : V) (spine : Spine V) (apart : spine.Apart)
    (below : Grove V) (segment : Segment) (rest : Path) :
    (spine.fill below).tree.toForest.register eqv value spine.first
        (spine.later ++ segment :: rest) false =
      let cleared := spine.clear eqv value
      let change := cleared.spine.resume eqv
        (below.forest.register eqv value segment rest cleared.settled)
      { change with events := cleared.events ++ change.events } := by
  induction spine generalizing below segment rest with
  | root id here target =>
      simp [fill, Plant.tree, Tree.toForest, first, later, Forest.register, resume, clear]
  | node above id here target before after ih =>
      rw [fill, first, later, List.append_assoc, List.singleton_append, ih apart.2,
        Grove.append_forest]
      simp only [Forest.append_register eqv _ _ _ _ _ _ apart.1, Grove.forest, Forest.register,
        if_true, resume, clear]
      generalize target.relax eqv value here (above.clear eqv value).settled = relaxed
      generalize Forest.resume eqv here relaxed.target _ after.forest = up
      rw [resume_events eqv (above.clear eqv value).spine ⟨before.forest.append up.forest, _, _⟩]
      simp

theorem fill_node (spine : Spine V) (apart : spine.Apart) (below : Grove V) :
    (spine.fill below).tree.toForest.node? spine.path = some ⟨spine.target, below.forest⟩ := by
  induction spine generalizing below with
  | root id segment target => simp [fill, Plant.tree, Tree.toForest, path, first, later, Forest.node?,
      Forest.child?, Spine.target]
  | node above id segment target before after ih =>
      have parts : (node above id segment target before after).path = above.path ++ [segment] := by
        simp [path, first, later]
      rw [parts, Forest.node_append _ _ _ (by simp [path]), fill, ih apart.2, Option.bind_some,
        Node.below?, Forest.node?, Grove.append_forest, Forest.append_child, apart.1]
      simp [Grove.forest, Forest.child?, Spine.target]

end Spine

end TopicRouting
