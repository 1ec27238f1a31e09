import TopicRouting.Proofs.Forest.Nodes
import TopicRouting.Proofs.Linked.Layout

set_option autoImplicit false

namespace TopicRouting

variable {V : Type}

namespace Forest

theorem append_segments (front back : Forest V) :
    (front.append back).segments = front.segments ++ back.segments := by
  induction front with
  | nil => rfl
  | node segment target children siblings _ ih => simp [append, segments_node, ih]

end Forest

namespace Grove

theorem append_assoc (a b c : Grove V) : (a.append b).append c = a.append (b.append c) := by
  induction a with
  | nil => rfl
  | node id segment target children siblings _ ih => simp [append, ih]

theorem places_paths (grove : Grove V) :
    grove.places.map Prod.fst = grove.forest.nodes.map Prod.fst := by
  induction grove with
  | nil => rfl
  | node id segment target children siblings below beside =>
      have lower := congrArg (List.map fun path => segment :: path) below
      simpa [places, forest, Forest.nodes, beside, Function.comp_def] using lower

def tops : Grove V → List (Segment × NodeId)
  | .nil => []
  | .node id segment _ _ siblings => (segment, id) :: siblings.tops

theorem tops_segments (grove : Grove V) : grove.tops.map Prod.fst = grove.forest.segments := by
  induction grove with
  | nil => rfl
  | node id segment target children siblings _ ih => simp [tops, forest, Forest.segments_node, ih]

theorem tops_heads (grove : Grove V) : grove.tops.map Prod.snd = grove.heads := by
  induction grove with
  | nil => rfl
  | node id segment target children siblings _ ih => simp [tops, heads, ih]

theorem tops_places (grove : Grove V) (segment : Segment) (id : NodeId)
    (member : (segment, id) ∈ grove.tops) : ([segment], id) ∈ grove.places := by
  induction grove with
  | nil => cases member
  | node first found target children siblings _ ih =>
      rcases List.mem_cons.mp member with same | later
      · cases same
        exact List.mem_cons_self
      · exact List.mem_cons_of_mem _ (List.mem_append_right _ (ih later))

end Grove

theorem Spine.fill_place (spine : Spine V) (below : Grove V) (path : Path) (id : NodeId)
    (member : (path, id) ∈ below.places) :
    (spine.path ++ path, id) ∈ (spine.fill below).grove.places := by
  induction spine generalizing below path with
  | root top segment target =>
      refine List.mem_cons_of_mem _ (List.mem_append_left _ ?_)
      exact List.mem_map.mpr ⟨(path, id), member, rfl⟩
  | node above last segment target before after ih =>
      have placed : (segment :: path, id) ∈
          (before.append (.node last segment target below after)).places := by
        rw [Grove.append_places]
        refine List.mem_append_right _ (List.mem_cons_of_mem _ (List.mem_append_left _ ?_))
        exact List.mem_map.mpr ⟨(path, id), member, rfl⟩
      simpa [Spine.path, Spine.first, Spine.later, Spine.fill] using ih _ _ placed

theorem Spine.reach_place (spine : Spine V) (apart : spine.Apart) (before grove : Grove V)
    (regular : (before.append grove).forest.Regular) (path : Path) (id : NodeId)
    (member : (path, id) ∈ grove.places) :
    ∃ (lower : Spine V) (below : Grove V), lower.fill below = spine.fill (before.append grove) ∧
      lower.path = spine.path ++ path ∧ lower.last = id ∧ lower.Apart := by
  induction grove generalizing spine before path with
  | nil => cases member
  | node here segment target children siblings below beside =>
      have absent : before.forest.child? segment = none := by
        rw [Forest.child_none_iff]
        have distinct := regular.distinct
        rw [Grove.append_forest, Forest.append_segments] at distinct
        exact fun within => (List.nodup_append.mp distinct).2.2 _ within _ List.mem_cons_self rfl
      have child : (before.append (.node here segment target children siblings)).forest.child?
          segment = some ⟨target, children.forest⟩ := by
        rw [Grove.append_forest, Forest.append_child, absent]
        simp [Grove.forest, Forest.child?]
      have down : (Spine.node spine here segment target before siblings).path =
          spine.path ++ [segment] := by
        simp [Spine.path, Spine.first, Spine.later]
      rcases List.mem_cons.mp member with top | later
      · cases top
        exact ⟨.node spine id segment target before siblings, children, rfl, down, rfl, absent, apart⟩
      rcases List.mem_append.mp later with lower | beyond
      · obtain ⟨⟨rest, found⟩, inside, same⟩ := List.mem_map.mp lower
        cases same
        have regularBelow := (Forest.regular_child _ regular segment _ child).2
        obtain ⟨last, left, whole, isPath, isLast, apartLast⟩ :=
          below (.node spine here segment target before siblings) ⟨absent, apart⟩ .nil regularBelow
            rest inside
        rw [down, List.append_assoc, List.singleton_append] at isPath
        exact ⟨last, left, whole, isPath, isLast, apartLast⟩
      · have moved : before.append (.node here segment target children siblings) =
            (before.append (.node here segment target children .nil)).append siblings := by
          rw [Grove.append_assoc]
          rfl
        rw [moved] at regular ⊢
        exact beside spine apart _ regular path beyond

theorem Plant.reach_place (plant : Plant V) (regular : plant.children.forest.Regular) (path : Path)
    (id : NodeId) (member : (path, id) ∈ plant.grove.places) :
    ∃ (spine : Spine V) (below : Grove V), spine.fill below = plant ∧ spine.path = path ∧
      spine.last = id ∧ spine.Apart := by
  rcases List.mem_cons.mp member with top | later
  · cases top
    exact ⟨.root plant.id plant.segment plant.target, plant.children, rfl, rfl, rfl, trivial⟩
  · rw [Grove.places, List.append_nil] at later
    obtain ⟨⟨rest, found⟩, inside, same⟩ := List.mem_map.mp later
    cases same
    exact Spine.reach_place (.root plant.id plant.segment plant.target) trivial .nil plant.children
      regular rest id inside

theorem Layout.place_slot (layout : Layout V) (path : Path) (id : NodeId)
    (member : (path, id) ∈ (grove layout).places) :
    ∃ (slot : Nat) (plant : Plant V), layout[slot]? = some (some plant) ∧
      (path, id) ∈ plant.grove.places := by
  induction layout with
  | nil => cases member
  | cons held layout ih =>
      rw [grove, Grove.append_places] at member
      rcases List.mem_append.mp member with here | later
      · cases held with
        | none => cases here
        | some plant => exact ⟨0, plant, rfl, here⟩
      · obtain ⟨slot, plant, isHeld, inside⟩ := ih later
        exact ⟨slot + 1, plant, isHeld, inside⟩

theorem Layout.slot_place (layout : Layout V) (slot : Nat) (plant : Plant V)
    (held : layout[slot]? = some (some plant)) (path : Path) (id : NodeId)
    (member : (path, id) ∈ plant.grove.places) : (path, id) ∈ (grove layout).places := by
  obtain ⟨bound, isHeld⟩ := List.getElem?_eq_some_iff.mp held
  have whole := grove_set_places layout slot bound (some plant)
  rw [← isHeld, List.set_getElem_self, isHeld] at whole
  exact whole.mem_iff.mpr (List.mem_append_left _ member)

end TopicRouting
