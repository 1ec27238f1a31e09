import TopicRouting.Proofs.Forest.Size
import TopicRouting.Proofs.Table.Directory
import TopicRouting.Table.Registration

set_option autoImplicit false

namespace TopicRouting

universe u

variable {V : Type u}

theorem Forest.single_tree (forest : Forest V) (segment : Segment)
    (single : forest.segments = [segment]) :
    ∃ tree : Tree V, forest = tree.toForest ∧ tree.segment = segment := by
  cases forest with
  | nil => cases single
  | node first target children siblings =>
      rw [segments_node, List.cons.injEq] at single
      cases siblings with
      | nil => exact ⟨⟨first, target, children⟩, rfl, single.1⟩
      | node => exact nomatch single.2

namespace Roots

theorem register_tree (tree : Tree V) (eqv : Comparator V) (value : V) (rest : Path) :
    ∃ changed : Tree V,
      (tree.toForest.register eqv value tree.segment rest false).forest = changed.toForest ∧
        changed.segment = tree.segment := by
  apply Forest.single_tree
  rw [Forest.register_segments]
  simp [Tree.toForest, Forest.segments, Forest.tops]

theorem size_count (roots : Roots V) : roots.forest.size = roots.count + roots.dynamicCount := by
  rw [forest, count, dynamicCount]
  induction roots.trees with
  | nil => rfl
  | cons tree trees ih =>
      simp only [List.foldr_cons, Forest.size, List.length_cons, ih]
      omega

theorem modify_grows (roots : Roots V) (segment : Segment) (changed : Tree V)
    (larger : ∀ tree ∈ roots.trees, tree.segment = segment →
      tree.children.size ≤ changed.children.size) :
    (roots.modify segment fun _ => some changed).count = roots.count ∧
      roots.dynamicCount ≤ (roots.modify segment fun _ => some changed).dynamicCount := by
  rw [dynamicCount, dynamicCount, count, count, modify_trees]
  generalize roots.trees = trees at larger
  induction trees with
  | nil => exact ⟨rfl, Nat.le_refl _⟩
  | cons tree trees ih =>
      obtain ⟨counted, sum⟩ := ih fun other member => larger other (List.mem_cons_of_mem _ member)
      by_cases same : tree.segment = segment
      · have first := larger tree List.mem_cons_self same
        simp only [List.filterMap_cons, if_pos same, List.length_cons, List.foldr_cons, counted,
          true_and]
        omega
      · simp only [List.filterMap_cons, if_neg same, List.length_cons, List.foldr_cons, counted,
          true_and]
        omega

theorem add_grows (roots : Roots V) (tree : Tree V) :
    (roots.add tree).count = roots.count + 1 ∧
      roots.dynamicCount ≤ (roots.add tree).dynamicCount := by
  have placed : (roots.add tree).trees.Perm (tree :: roots.trees) := place_trees tree roots.slots
  have total := placed.foldr_eq' (f := fun tree total => tree.children.size + total)
    (fun _ _ _ _ _ => Nat.add_left_comm ..) 0
  refine ⟨placed.length_eq, ?_⟩
  rw [dynamicCount, dynamicCount, total, List.foldr_cons]
  exact Nat.le_add_left ..

theorem register_grows (roots : Roots V) (distinct : roots.forest.segments.Nodup)
    (eqv : Comparator V) (value : V) (segment : Segment) (rest : Path) :
    roots.count ≤ (roots.register eqv value segment rest).state.count ∧
      roots.dynamicCount ≤ (roots.register eqv value segment rest).state.dynamicCount := by
  cases found : roots.find? segment with
  | none =>
      obtain ⟨counted, dynamic⟩ := roots.add_grows (.chain value segment rest)
      simp only [register, found, counted]
      exact ⟨Nat.le_add_right .., dynamic⟩
  | some held =>
      cases found_segment roots segment held found
      obtain ⟨changed, isChanged, _⟩ := register_tree held eqv value rest
      have larger := Forest.register_size eqv value held.toForest held.segment rest false
      rw [isChanged] at larger
      simp only [Tree.toForest, Forest.size] at larger
      obtain ⟨counted, dynamic⟩ := roots.modify_grows held.segment changed fun tree member same => by
        rw [forest_segments] at distinct
        have isHeld := unique_of_nodup_map Tree.segment roots.trees distinct tree held member
          (List.mem_of_find?_eq_some found) same
        rw [isHeld]
        omega
      have first : changed.toForest.firstTree? = some changed := rfl
      simp only [register, found, isChanged, first, counted]
      exact ⟨Nat.le_refl _, dynamic⟩

end Roots

theorem Table.node_count (table : Table V) :
    table.nodeCount = table.roots.count + table.roots.dynamicCount := table.roots.size_count

theorem Table.nodeless_rootless (table : Table V) : (table.nodeCount == 0) = table.isEmpty := by
  have counted := table.node_count
  rw [isEmpty, Bool.eq_iff_iff, beq_iff_eq, beq_iff_eq]
  constructor
  · intro nodeless
    omega
  · intro rootless
    have vacant : table.roots.trees = [] := List.length_eq_zero_iff.mp rootless
    simp [nodeCount, forest, Roots.forest, vacant, Forest.size]

end TopicRouting
