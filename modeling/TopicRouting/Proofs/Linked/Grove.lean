import TopicRouting.Linked.Arena
import TopicRouting.Proofs.Forest.Changes
import TopicRouting.Table.Roots

/-!
Forests whose nodes have numbers, and spines. A spine is the way from a root down to one node with
everything beside it, the node at its end first; together with what is below that node it is a
whole tree again. A change of a forest below a spine goes on upwards along the spine.
-/

set_option autoImplicit false

namespace TopicRouting

namespace Forest

universe u

variable {V : Type u}

def append : Forest V → Forest V → Forest V
  | .nil, back => back
  | .node segment target children siblings, back =>
    .node segment target children (siblings.append back)

theorem append_child (front back : Forest V) (segment : Segment) :
    (front.append back).child? segment = (front.child? segment).or (back.child? segment) := by
  induction front with
  | nil => rfl
  | node first target children siblings _ ih =>
      by_cases same : first = segment <;> simp [append, child?, same, ih]

theorem append_register (eqv : Comparator V) (value : V) (front back : Forest V)
    (segment : Segment) (rest : Path) (settled : Bool) (absent : front.child? segment = none) :
    (front.append back).register eqv value segment rest settled =
      let change := back.register eqv value segment rest settled
      { change with forest := front.append change.forest } := by
  induction front with
  | nil => rfl
  | node first target children siblings _ ih =>
      by_cases same : first = segment
      · simp [child?, same] at absent
      · simp only [child?, if_neg same] at absent
        simp [append, register, same, ih absent]

theorem append_detach (eqv : Comparator V) (front back : Forest V) (segment : Segment)
    (rest : Path) (absent : front.child? segment = none) :
    (front.append back).detach eqv segment rest =
      let change := back.detach eqv segment rest
      { change with forest := front.append change.forest } := by
  induction front with
  | nil => rfl
  | node first target children siblings _ ih =>
      by_cases same : first = segment
      · simp [child?, same] at absent
      · simp only [child?, if_neg same] at absent
        simp [append, detach, same, ih absent]

end Forest

inductive Grove (V : Type) where
  | nil
  | node (id : NodeId) (segment : Segment) (target : Target V) (children siblings : Grove V)

variable {V : Type}

namespace Grove

def forest : Grove V → Forest V
  | .nil => .nil
  | .node _ segment target children siblings =>
    .node segment target children.forest siblings.forest

def heads : Grove V → List NodeId
  | .nil => []
  | .node id _ _ _ siblings => id :: siblings.heads

def ids : Grove V → List NodeId
  | .nil => []
  | .node id _ _ children siblings => id :: (children.ids ++ siblings.ids)

def places : Grove V → List (Path × NodeId)
  | .nil => []
  | .node id segment _ children siblings =>
    ([segment], id)
      :: (children.places.map (fun (path, below) => (segment :: path, below)) ++ siblings.places)

def append : Grove V → Grove V → Grove V
  | .nil, back => back
  | .node id segment target children siblings, back =>
    .node id segment target children (siblings.append back)

theorem append_forest (front back : Grove V) :
    (front.append back).forest = front.forest.append back.forest := by
  induction front with
  | nil => rfl
  | node id segment target children siblings _ ih => simp [append, forest, Forest.append, ih]

theorem append_heads (front back : Grove V) :
    (front.append back).heads = front.heads ++ back.heads := by
  induction front with
  | nil => rfl
  | node id segment target children siblings _ ih => simp [append, heads, ih]

theorem append_ids (front back : Grove V) : (front.append back).ids = front.ids ++ back.ids := by
  induction front with
  | nil => rfl
  | node id segment target children siblings _ ih => simp [append, ids, ih]

theorem append_places (front back : Grove V) :
    (front.append back).places = front.places ++ back.places := by
  induction front with
  | nil => rfl
  | node id segment target children siblings _ ih => simp [append, places, ih]

theorem append_nil (grove : Grove V) : grove.append .nil = grove := by
  induction grove with
  | nil => rfl
  | node id segment target children siblings _ ih => simp [append, ih]

theorem places_ids (grove : Grove V) : grove.places.map Prod.snd = grove.ids := by
  induction grove with
  | nil => rfl
  | node id segment target children siblings below beside =>
      simp [places, ids, ← below, ← beside, Function.comp_def]

theorem ids_length (grove : Grove V) : grove.ids.length = grove.forest.size := by
  induction grove with
  | nil => rfl
  | node id segment target children siblings below beside =>
      simp only [ids, forest, Forest.size, List.length_cons, List.length_append, below, beside]
      omega

theorem heads_sublist (grove : Grove V) : grove.heads.Sublist grove.ids := by
  induction grove with
  | nil => exact List.Sublist.refl _
  | node id segment target children siblings _ ih =>
      exact (ih.trans (List.sublist_append_right ..)).cons_cons id

theorem forest_empty (grove : Grove V) (empty : grove.forest = .nil) : grove = .nil := by
  cases grove with
  | nil => rfl
  | node id segment target children siblings => cases empty

theorem split_child (grove : Grove V) (segment : Segment) (here : Node V)
    (found : grove.forest.child? segment = some here) :
    ∃ (before : Grove V) (id : NodeId) (children after : Grove V),
      grove = before.append (.node id segment here.target children after) ∧
        children.forest = here.children ∧ before.forest.child? segment = none := by
  induction grove with
  | nil => cases found
  | node id first target children siblings _ ih =>
      by_cases same : first = segment
      · simp only [forest, Forest.child?, if_pos same, Option.some.injEq] at found
        subst found same
        exact ⟨.nil, id, children, siblings, rfl, rfl, rfl⟩
      · simp only [forest, Forest.child?, if_neg same] at found
        obtain ⟨before, other, below, after, isSiblings, isBelow, absent⟩ := ih found
        refine ⟨.node id first target children before, other, below, after, ?_, isBelow, ?_⟩
        · rw [isSiblings, append]
        · simpa [forest, Forest.child?, same] using absent

end Grove

structure Plant (V : Type) where
  id : NodeId
  segment : Segment
  target : Target V
  children : Grove V

namespace Plant

def tree (plant : Plant V) : Tree V := ⟨plant.segment, plant.target, plant.children.forest⟩

def grove (plant : Plant V) : Grove V :=
  .node plant.id plant.segment plant.target plant.children .nil

theorem grove_forest (plant : Plant V) : plant.grove.forest = plant.tree.toForest := rfl

end Plant

inductive Spine (V : Type) where
  | root (id : NodeId) (segment : Segment) (target : Target V)
  | node (above : Spine V) (id : NodeId) (segment : Segment) (target : Target V)
    (before after : Grove V)

namespace Spine

def last : Spine V → NodeId
  | .root id _ _ | .node _ id _ _ _ _ => id

def segment : Spine V → Segment
  | .root _ segment _ | .node _ _ segment _ _ _ => segment

def target : Spine V → Target V
  | .root _ _ target | .node _ _ _ target _ _ => target

def parent? : Spine V → Option NodeId
  | .root .. => none
  | .node above .. => some above.last

def retarget (spine : Spine V) (target : Target V) : Spine V :=
  match spine with
  | .root id segment _ => .root id segment target
  | .node above id segment _ before after => .node above id segment target before after

def first : Spine V → Segment
  | .root _ segment _ => segment
  | .node above .. => above.first

def base : Spine V → NodeId
  | .root id _ _ => id
  | .node above .. => above.base

def later : Spine V → Path
  | .root .. => []
  | .node above _ segment _ _ _ => above.later ++ [segment]

def path (spine : Spine V) : Path := spine.first :: spine.later

def trail : Spine V → List NodeId
  | .root id _ _ => [id]
  | .node above id _ _ _ _ => above.trail ++ [id]

def ids : Spine V → List NodeId
  | .root id _ _ => [id]
  | .node above id _ _ before after => id :: (before.ids ++ after.ids ++ above.ids)

def fill : Spine V → Grove V → Plant V
  | .root id segment target, below => ⟨id, segment, target, below⟩
  | .node above id segment target before after, below =>
    above.fill (before.append (.node id segment target below after))

def Apart : Spine V → Prop
  | .root .. => True
  | .node above _ segment _ before _ => before.forest.child? segment = none ∧ above.Apart

theorem fill_segment (spine : Spine V) (below : Grove V) :
    (spine.fill below).segment = spine.first := by
  induction spine generalizing below with
  | root id segment target => rfl
  | node above id segment target before after ih => exact ih _

theorem fill_base (spine : Spine V) (below : Grove V) : (spine.fill below).id = spine.base := by
  induction spine generalizing below with
  | root id segment target => rfl
  | node above id segment target before after ih => exact ih _

theorem fill_ids (spine : Spine V) (below : Grove V) :
    (spine.fill below).grove.ids.Perm (spine.ids ++ below.ids) := by
  induction spine generalizing below with
  | root id segment target => simp [fill, Plant.grove, Grove.ids, ids]
  | node above id segment target before after ih =>
      refine (ih _).trans ?_
      simp only [Grove.append_ids, Grove.ids, ids]
      grind

theorem fill_places (spine : Spine V) (below other : Grove V) (within : below.places ⊆ other.places) :
    (spine.fill below).grove.places ⊆ (spine.fill other).grove.places := by
  induction spine generalizing below other with
  | root id segment target =>
      simp only [fill, Plant.grove, Grove.places]
      grind
  | node above id segment target before after ih =>
      apply ih
      simp only [Grove.append_places, Grove.places]
      grind

theorem last_member (spine : Spine V) : spine.last ∈ spine.ids := by
  cases spine <;> exact List.mem_cons_self

theorem trail_last (spine : Spine V) : spine.trail.getLast? = some spine.last := by
  cases spine <;> simp [trail, last]

theorem retarget_self (spine : Spine V) : spine.retarget spine.target = spine := by
  cases spine <;> rfl

theorem retarget_last (spine : Spine V) (target : Target V) :
    (spine.retarget target).last = spine.last := by
  cases spine <;> rfl

theorem retarget_ids (spine : Spine V) (target : Target V) :
    (spine.retarget target).ids = spine.ids := by
  cases spine <;> rfl

end Spine

end TopicRouting
