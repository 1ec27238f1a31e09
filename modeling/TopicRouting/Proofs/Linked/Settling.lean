import TopicRouting.Proofs.Linked.Felling
import TopicRouting.Proofs.Linked.Finding

/-!
Changes of one tree seen from the whole table. The tree in a slot is looked at along a spine, and
what the change leaves of it goes back into the slot. While nodes change the cache may be valid
longer than that of the table; it is told to be stale at the end.
-/

set_option autoImplicit false

namespace TopicRouting

open Layout

variable {V : Type}

theorem Grove.places_nonempty (grove : Grove V) (id : NodeId) : ([], id) ∉ grove.places := by
  induction grove with
  | nil => simp [places]
  | node other segment target children siblings _ ih => simp [places, ih]

theorem leaves_root (whole left : Plant V) (others : Grove V) (change : Change V)
    (arena : Arena V) (leaves : Leaves whole others change (some left) arena) :
    left.id = whole.id ∧ left.segment = whole.segment := by
  have top : ([left.segment], left.id) ∈ whole.grove.places := leaves.places List.mem_cons_self
  rw [Plant.grove, Grove.places] at top
  rcases List.mem_cons.mp top with same | lower
  · simp only [Prod.mk.injEq, List.cons.injEq, and_true] at same
    exact ⟨same.2, same.1⟩
  · rw [Grove.places, List.append_nil] at lower
    obtain ⟨⟨path, id⟩, member, same⟩ := List.mem_map.mp lower
    simp only [Prod.mk.injEq, List.cons.injEq] at same
    exact absurd (same.1.2 ▸ member) (whole.children.places_nonempty id)

theorem Table.detach_root (table : Table V) (segment : Segment) (rest : Path) (here : Node V)
    (node : table.forest.node? (segment :: rest) = some here) (tree : Tree V)
    (root : table.roots.find? segment = some tree) (left : Option (Plant V))
    (remains : left.map Plant.tree =
      (tree.toForest.detach table.eqv segment rest).forest.firstTree?) :
    table.detach (segment :: rest) =
      ⟨(if here.target.isRoute then 1 else 0) + here.children.routeCount,
        { table with
          roots := table.roots.modify segment fun _ => left.map Plant.tree
          cache := table.cache.invalidate },
        (tree.toForest.detach table.eqv segment rest).events ++ Journal.settled segment left⟩ := by
  cases left with
  | none =>
      rw [Option.map_none] at remains
      simp [detach, node, Roots.detach, root, ← remains, Journal.settled]
  | some plant =>
      rw [Option.map_some] at remains
      simp [detach, node, Roots.detach, root, ← remains, Journal.settled]

theorem Layout.set_places (layout : Layout V) (slot : Nat) (plant : Plant V)
    (held : layout[slot]? = some (some plant)) (left : Option (Plant V))
    (within : (Plant.remains left).places ⊆ plant.grove.places) :
    (grove (layout.set slot left)).places ⊆ (grove layout).places := by
  obtain ⟨bound, isHeld⟩ := List.getElem?_eq_some_iff.mp held
  have before := grove_set_places layout slot bound (some plant)
  rw [← isHeld, List.set_getElem_self, isHeld] at before
  intro place member
  rw [(grove_set_places layout slot bound left).mem_iff] at member
  rw [before.mem_iff]
  exact (List.mem_append.mp member).elim (fun here => List.mem_append_left _ (within here))
    (List.mem_append_right _)

namespace LinkedTable

-- Which linked nodes stand for the roots of a table, whether its cache is stale or not.
def Mirrors (linked : LinkedTable V) (table : Table V) (layout : Layout V) : Prop :=
  Represents { linked with cache := linked.cache.invalidate }
    { table with cache := table.cache.invalidate } layout

theorem represents_mirrors (linked : LinkedTable V) (table : Table V) (layout : Layout V)
    (represents : linked.Represents table layout) : linked.Mirrors table layout where
  config := represents.config
  eqv := represents.eqv
  strategy := represents.strategy
  cache := congrArg QuickCache.invalidate represents.cache
  trees := represents.trees
  indexes := represents.indexes
  stocked := represents.stocked
  sound := ⟨represents.sound.regular, represents.sound.spelled, fun fresh => nomatch fresh⟩
  fits := ⟨represents.fits.capacity, represents.fits.slots⟩

section

variable (linked : LinkedTable V) (table : Table V) (layout : Layout V)
  (represents : linked.Represents table layout)
include represents

theorem represents_focused (slot : Nat) (spine : Spine V) (below : Grove V)
    (held : layout[slot]? = some (some (spine.fill below))) :
    linked.arena.Focused spine below (grove (layout.set slot none)) := by
  obtain ⟨bound, isHeld⟩ := List.getElem?_eq_some_iff.mp held
  have same : layout.set slot (some (spine.fill below)) = layout := by
    rw [← isHeld, List.set_getElem_self]
  have whole := represents.stocked
  rw [← same, stocked_set layout slot bound] at whole
  exact (Arena.focused_iff ..).mpr whole

theorem represents_lists (slot : Nat) (spine : Spine V) (below : Grove V)
    (held : layout[slot]? = some (some (spine.fill below))) :
    linked.directory.Lists spine.first slot spine.base := by
  have lists := Directory.indexes_lists _ layout represents.indexes slot _ held
  rwa [Spine.fill_segment, Spine.fill_base] at lists

theorem held_once (slot other : Nat) (plant another : Plant V)
    (held : layout[slot]? = some (some plant)) (heldOther : layout[other]? = some (some another))
    (same : plant.segment = another.segment) : slot = other := by
  have first := (Directory.indexes_lists _ layout represents.indexes slot plant held).indexed
  have second := (Directory.indexes_lists _ layout represents.indexes other another heldOther).indexed
  rw [same, second, Option.some.injEq] at first
  exact first.symm

theorem modified_trees (slot : Nat) (plant : Plant V) (held : layout[slot]? = some (some plant))
    (left : Option (Plant V)) :
    (layout.set slot left).map (Option.map Plant.tree) =
      (table.roots.modify plant.segment fun _ => left.map Plant.tree).padded := by
  rw [Roots.padded_modify, ← represents.trees, List.map_map]
  apply List.ext_getElem?
  intro other
  rw [List.getElem?_map, List.getElem?_map, List.getElem?_set]
  by_cases here : slot = other
  · subst here
    obtain ⟨bound, isHeld⟩ := List.getElem?_eq_some_iff.mp held
    simp [bound, isHeld, Plant.tree]
  · rw [if_neg here]
    cases isHeld : layout[other]? with
    | none => rfl
    | some content =>
        cases content with
        | none => rfl
        | some another =>
            have different : another.segment ≠ plant.segment := fun same =>
              here (held_once linked table layout represents slot other plant another held isHeld
                same.symm)
            simp [Plant.tree, different]

end

theorem settle_mirrors (linked : LinkedTable V) (table : Table V) (layout : Layout V)
    (mirrors : linked.Mirrors table layout) (slot : Nat) (plant : Plant V)
    (held : layout[slot]? = some (some plant)) (left : Option (Plant V)) (arena : Arena V)
    (root : ∀ remains, left = some remains →
      remains.id = plant.id ∧ remains.segment = plant.segment)
    (stocked : arena.Stocked ((Plant.remains left).append (grove (layout.set slot none))))
    (roots : Roots V) (modified : roots = table.roots.modify plant.segment fun _ => left.map Plant.tree)
    (sound : Table.Sound { table with roots, cache := table.cache.invalidate })
    (fits : Table.Fits { table with roots, cache := table.cache.invalidate }) :
    (linked.settle plant.segment slot left arena).Mirrors
      { table with roots, cache := table.cache.invalidate } (layout.set slot left) := by
  obtain ⟨bound, _⟩ := List.getElem?_eq_some_iff.mp held
  have trees := modified_trees _ _ layout mirrors slot plant held left
  have whole := (stocked_set layout slot bound left arena).mpr stocked
  cases left with
  | none =>
      exact ⟨mirrors.config, mirrors.eqv, mirrors.strategy, mirrors.cache, modified ▸ trees,
        Directory.indexes_drop _ layout mirrors.indexes slot plant held, whole, sound, fits⟩
  | some remains =>
      obtain ⟨id, segment⟩ := root remains rfl
      exact ⟨mirrors.config, mirrors.eqv, mirrors.strategy, mirrors.cache, modified ▸ trees,
        Directory.indexes_keep _ layout mirrors.indexes slot plant remains held segment id, whole,
        sound, fits⟩

-- Once both caches are stale, nothing tells the tables apart.
theorem mirrors_stale (linked : LinkedTable V) (table : Table V) (layout : Layout V)
    (mirrors : linked.Mirrors table layout) (stale : table.cache.stale = true) :
    Represents { linked with cache := linked.cache.invalidate } table layout := by
  have same : { table with cache := table.cache.invalidate } = table := by
    obtain ⟨config, eqv, strategy, roots, entries, fresh⟩ := table
    cases stale
    rfl
  rw [← same]
  exact mirrors

end LinkedTable

end TopicRouting
