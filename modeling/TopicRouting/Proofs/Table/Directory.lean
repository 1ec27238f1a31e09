import TopicRouting.Proofs.Forest.Topmost
import TopicRouting.Proofs.Forest.CollapseKept
import TopicRouting.Table.Roots

set_option autoImplicit false

namespace TopicRouting

universe u

variable {V : Type u}

namespace Forest

-- The same siblings, though perhaps in another order.
structure Rearranged (new old : Forest V) : Prop where
  distinct : new.segments.Nodup
  same : ∀ segment, new.child? segment = old.child? segment

theorem rearranged_refl (forest : Forest V) (distinct : forest.segments.Nodup) :
    forest.Rearranged forest := ⟨distinct, fun _ => rfl⟩

theorem rearranged_node (new old : Forest V) (rearranged : new.Rearranged old) (path : Path) :
    new.node? path = old.node? path := by
  cases path with
  | nil => rfl
  | cons segment rest => rw [node_cons, node_cons, rearranged.same]

theorem rearranged_every (P : Node V → Prop) (new old : Forest V)
    (rearranged : new.Rearranged old) (every : old.Every P) : new.Every P := by
  apply every_of_child P new rearranged.distinct
  intro segment here found
  rw [rearranged.same] at found
  exact every_child P old every segment here found

theorem rearranged_regular (new old : Forest V) (rearranged : new.Rearranged old)
    (regular : old.Regular) : new.Regular :=
  ⟨rearranged.distinct, rearranged_every _ new old rearranged regular.every⟩

theorem rearranged_nodes (new old : Forest V) (rearranged : new.Rearranged old)
    (regular : old.Regular) : new.nodes.Perm old.nodes := by
  have same := rearranged_regular new old rearranged regular
  apply (List.perm_ext_iff_of_nodup (nodes_once new same) (nodes_once old regular)).mpr
  intro listed
  rw [nodes_iff new same, nodes_iff old regular, rearranged_node new old rearranged]

theorem rearranged_routes (new old : Forest V) (rearranged : new.Rearranged old)
    (regular : old.Regular) : new.routes.Perm old.routes := by
  rw [routes_of_nodes, routes_of_nodes]
  exact (rearranged_nodes new old rearranged regular).filterMap _

theorem rearranged_size (new old : Forest V) (rearranged : new.Rearranged old)
    (regular : old.Regular) : new.size = old.size := by
  rw [← nodes_size, ← nodes_size, (rearranged_nodes new old rearranged regular).length_eq]

theorem register_local (eqv : Comparator V) (value : V) (a b : Forest V) (segment : Segment)
    (rest : Path) (settled : Bool) (same : a.child? segment = b.child? segment) :
    (a.register eqv value segment rest settled).forest.child? segment =
      (b.register eqv value segment rest settled).forest.child? segment := by
  cases found : a.child? segment with
  | none =>
      rw [(register_absent eqv value a segment rest settled found).1,
        (register_absent eqv value b segment rest settled (same ▸ found)).1]
  | some here =>
      cases rest with
      | nil =>
          rw [(register_last eqv value a segment settled here found).1,
            (register_last eqv value b segment settled here (same ▸ found)).1]
      | cons next rest =>
          obtain ⟨target, kept, changed, _⟩ :=
            register_below eqv value a segment next rest settled here found _ _ rfl rfl
          obtain ⟨other, keptOther, changedOther, _⟩ :=
            register_below eqv value b segment next rest settled here (same ▸ found) _ _ rfl rfl
          rw [changed, changedOther, Option.some.inj (kept.symm.trans keptOther)]

theorem detach_local (eqv : Comparator V) (a b : Forest V) (segment : Segment) (rest : Path)
    (distinct : a.segments.Nodup) (distinctOther : b.segments.Nodup)
    (same : a.child? segment = b.child? segment) :
    (a.detach eqv segment rest).forest.child? segment =
      (b.detach eqv segment rest).forest.child? segment := by
  cases found : a.child? segment with
  | none =>
      rw [(detach_absent eqv a segment rest found).1,
        (detach_absent eqv b segment rest (same ▸ found)).1, same]
  | some here =>
      cases rest with
      | nil =>
          rw [(detach_last eqv a segment here distinct found).1,
            (detach_last eqv b segment here distinctOther (same ▸ found)).1]
      | cons next rest =>
          rw [(detach_below eqv a segment next rest here distinct found _ rfl).1,
            (detach_below eqv b segment next rest here distinctOther (same ▸ found) _ rfl).1]

end Forest

def Tree.node (tree : Tree V) : Node V := ⟨tree.target, tree.children⟩

namespace Roots

theorem forest_tops (roots : Roots V) :
    roots.forest.tops = roots.trees.map fun tree => (tree.segment, tree.node) := by
  rw [forest]
  induction roots.trees with
  | nil => rfl
  | cons tree trees ih => simp [Forest.tops, Tree.node, ih]

theorem forest_segments (roots : Roots V) :
    roots.forest.segments = roots.trees.map Tree.segment := by
  rw [Forest.segments, forest_tops, List.map_map]
  rfl

theorem forest_child (roots : Roots V) (segment : Segment) :
    roots.forest.child? segment = (roots.find? segment).map Tree.node := by
  rw [forest, find?]
  induction roots.trees with
  | nil => rfl
  | cons tree trees ih =>
      by_cases same : tree.segment = segment <;>
        simp [Forest.child?, Tree.node, same, ih]

theorem forest_root (roots : Roots V) (segment : Segment) :
    roots.forest.node? [segment] = (roots.find? segment).map Tree.node := by
  rw [Forest.node_cons, forest_child]
  cases roots.find? segment <;> rfl

theorem forest_rootless (roots : Roots V) (segment : Segment) (rest : Path)
    (absent : roots.find? segment = none) : roots.forest.node? (segment :: rest) = none := by
  rw [Forest.node_cons, forest_child, absent]
  rfl

theorem modify_trees (roots : Roots V) (segment : Segment) (changed : Option (Tree V)) :
    (roots.modify segment fun _ => changed).trees =
      roots.trees.filterMap fun tree => if tree.segment = segment then changed else some tree := by
  rw [trees, trees, modify, List.filterMap_map, List.filterMap_filterMap]
  rfl

theorem modify_find_other (roots : Roots V) (segment other : Segment)
    (changed : Option (Tree V)) (placed : ∀ tree, changed = some tree → tree.segment = segment)
    (different : other ≠ segment) :
    (roots.modify segment fun _ => changed).find? other = roots.find? other := by
  rw [find?, find?, modify_trees]
  induction roots.trees with
  | nil => rfl
  | cons tree trees ih =>
      by_cases same : tree.segment = segment
      · have apart : ¬ tree.segment = other := fun equal => different (equal.symm.trans same)
        cases changed with
        | none => simpa [List.filterMap_cons, same, Ne.symm different] using ih
        | some left =>
            have isLeft : ¬ left.segment = other := by
              rw [placed left rfl]
              exact Ne.symm different
            simpa [List.filterMap_cons, same, isLeft, Ne.symm different] using ih
      · by_cases hit : tree.segment = other
        · simp [hit, different]
        · simpa [List.filterMap_cons, same, hit] using ih

theorem modify_find_here (roots : Roots V) (segment : Segment) (held : Tree V)
    (found : roots.find? segment = some held) (changed : Option (Tree V))
    (placed : ∀ tree, changed = some tree → tree.segment = segment) :
    (roots.modify segment fun _ => changed).find? segment = changed := by
  rw [find?] at found
  rw [find?, modify_trees]
  cases changed with
  | none =>
      rw [List.find?_eq_none]
      intro tree member
      obtain ⟨source, _, isTree⟩ := List.mem_filterMap.mp member
      by_cases same : source.segment = segment
      · simp [same] at isTree
      · rw [if_neg same] at isTree
        cases isTree
        simpa using same
  | some left =>
      have isLeft := placed left rfl
      generalize roots.trees = trees at found ⊢
      induction trees with
      | nil => cases found
      | cons tree trees ih =>
          by_cases same : tree.segment = segment
          · simp [same, isLeft]
          · simp only [List.find?_cons, same, decide_false] at found
            simpa [List.filterMap_cons, same] using ih found

theorem modify_segments (roots : Roots V) (segment : Segment) (changed : Option (Tree V))
    (placed : ∀ tree, changed = some tree → tree.segment = segment) :
    (roots.modify segment fun _ => changed).forest.segments.Sublist roots.forest.segments := by
  rw [forest_segments, forest_segments, modify_trees]
  induction roots.trees with
  | nil => exact List.Sublist.refl _
  | cons tree trees ih =>
      by_cases same : tree.segment = segment
      · cases changed with
        | none => simpa [List.filterMap_cons, same] using ih.cons segment
        | some left => simpa [List.filterMap_cons, same, placed left rfl] using ih
      · simpa [List.filterMap_cons, same] using ih

theorem first_tree (forest : Forest V) (segment : Segment)
    (single : forest.segments.Sublist [segment]) :
    forest.firstTree?.map Tree.node = forest.child? segment ∧
      ∀ tree, forest.firstTree? = some tree → tree.segment = segment := by
  cases forest with
  | nil => simp [Forest.firstTree?, Forest.child?]
  | node first target children siblings =>
      rw [Forest.segments_node] at single
      have same : first = segment := by simpa using single.subset (List.mem_cons_self ..)
      subst same
      simp [Forest.firstTree?, Forest.child?, Tree.node]

theorem modify_rearranged (roots : Roots V) (segment : Segment) (held : Tree V)
    (distinct : roots.forest.segments.Nodup) (found : roots.find? segment = some held)
    (single changed : Forest V) (root : single.segments.Sublist [segment])
    (same : single.child? segment = changed.child? segment)
    (others : ∀ other, other ≠ segment → changed.child? other = roots.forest.child? other) :
    (roots.modify segment fun _ => single.firstTree?).forest.Rearranged changed := by
  obtain ⟨node, placed⟩ := first_tree single segment root
  refine ⟨(modify_segments roots segment _ placed).nodup distinct, ?_⟩
  intro other
  rw [forest_child]
  by_cases here : other = segment
  · subst here
    rw [modify_find_here roots other held found _ placed, node, same]
  · rw [modify_find_other roots segment other _ placed here, others other here, forest_child]

theorem place_trees (tree : Tree V) (slots : List (Option (Tree V))) :
    ((place tree slots).filterMap id).Perm (tree :: slots.filterMap id) := by
  induction slots with
  | nil => simp [place]
  | cons slot slots ih =>
      cases slot with
      | none => simp [place]
      | some held =>
          simp only [place, List.filterMap_cons, id_eq]
          exact (ih.cons held).trans (List.Perm.swap tree held _)

theorem add_rearranged (roots : Roots V) (tree : Tree V)
    (distinct : roots.forest.segments.Nodup) (absent : roots.find? tree.segment = none)
    (changed : Forest V) (here : changed.child? tree.segment = some tree.node)
    (others : ∀ other, other ≠ tree.segment → changed.child? other = roots.forest.child? other) :
    (roots.add tree).forest.Rearranged changed := by
  have missing : tree.segment ∉ roots.forest.segments := by
    rw [← Forest.child_none_iff, forest_child, absent]
    rfl
  have placed : (roots.add tree).trees.Perm (tree :: roots.trees) := place_trees tree roots.slots
  have fresh : (roots.add tree).forest.segments.Nodup := by
    rw [forest_segments, (placed.map Tree.segment).nodup_iff, List.map_cons, List.nodup_cons,
      ← forest_segments]
    exact ⟨missing, distinct⟩
  refine ⟨fresh, ?_⟩
  intro other
  apply Option.ext
  intro found
  have member : (other, found) ∈ (roots.add tree).forest.tops ↔
      (other, found) = (tree.segment, tree.node) ∨ (other, found) ∈ roots.forest.tops := by
    rw [forest_tops, forest_tops, (placed.map _).mem_iff, List.map_cons, List.mem_cons]
  rw [← Forest.tops_iff other _ found fresh, member]
  by_cases same : other = tree.segment
  · subst same
    have nothing : (tree.segment, found) ∉ roots.forest.tops := fun held =>
      missing (List.mem_map.mpr ⟨_, held, rfl⟩)
    simp [nothing, here, eq_comm]
  · rw [others other same, Forest.tops_iff other _ found distinct]
    simp [same]

theorem toForest_child (tree : Tree V) : tree.toForest.child? tree.segment = some tree.node := by
  simp [Tree.toForest, Forest.child?, Tree.node]

theorem found_segment (roots : Roots V) (segment : Segment) (tree : Tree V)
    (found : roots.find? segment = some tree) : tree.segment = segment := by
  simpa using List.find?_some found

theorem chain_node (value : V) (segment : Segment) (rest : Path) :
    (Tree.chain value segment rest).segment = segment ∧
      (Tree.chain value segment rest).node = Forest.link value rest := by
  cases rest <;> exact ⟨rfl, rfl⟩

theorem register_rearranged (roots : Roots V) (eqv : Comparator V) (value : V)
    (segment : Segment) (rest : Path) (distinct : roots.forest.segments.Nodup) :
    (roots.register eqv value segment rest).state.forest.Rearranged
      (roots.forest.register eqv value segment rest false).forest := by
  have others := fun other => Forest.register_other eqv value roots.forest segment other rest false
  cases found : roots.find? segment with
  | some tree =>
      have same := found_segment roots segment tree found
      have atRoot := toForest_child tree
      rw [same] at atRoot
      simp only [register, found]
      apply modify_rearranged roots segment tree distinct found _ _ ?_ ?_ others
      · rw [Forest.register_segments]
        simp [Tree.toForest, Forest.segments, Forest.tops, same]
      · apply Forest.register_local
        rw [atRoot, forest_child, found]
        rfl
  | none =>
      obtain ⟨isSegment, isLink⟩ := chain_node value segment rest
      have absent : roots.forest.child? segment = none := by
        rw [forest_child, found]
        rfl
      simp only [register, found]
      apply add_rearranged roots _ distinct
      · rw [isSegment, found]
      · rw [isSegment, isLink,
          (Forest.register_absent eqv value roots.forest segment rest false absent).1]
      · rw [isSegment]
        exact others

theorem detach_rearranged (roots : Roots V) (eqv : Comparator V) (segment : Segment)
    (rest : Path) (distinct : roots.forest.segments.Nodup) :
    (roots.detach eqv segment rest).state.forest.Rearranged
      (roots.forest.detach eqv segment rest).forest := by
  cases found : roots.find? segment with
  | none =>
      have absent : roots.forest.child? segment = none := by
        rw [forest_child, found]
        rfl
      simp only [detach, found, (Forest.detach_absent eqv roots.forest segment rest absent).1]
      exact Forest.rearranged_refl _ distinct
  | some tree =>
      have same := found_segment roots segment tree found
      have atRoot := toForest_child tree
      rw [same] at atRoot
      have single : tree.toForest.segments = [segment] := by
        simp [Tree.toForest, Forest.segments, Forest.tops, same]
      have whole := modify_rearranged roots segment tree distinct found
        (tree.toForest.detach eqv segment rest).forest _
        (single ▸ Forest.detach_segments eqv tree.toForest segment rest)
        (Forest.detach_local eqv tree.toForest roots.forest segment rest (by simp [single]) distinct
          (by rw [atRoot, forest_child, found]; rfl))
        (fun other => Forest.detach_other eqv roots.forest segment other rest)
      simp only [detach, found]
      cases left : (tree.toForest.detach eqv segment rest).forest.firstTree? with
      | none => simpa only [left] using whole
      | some tree => simpa only [left] using whole

theorem reconcile_forest (roots : Roots V) (eqv : Comparator V) :
    (roots.reconcile eqv).state.forest = roots.forest.reconcile eqv := by
  rw [reconcile, forest, forest, trees, trees, map]
  induction roots.slots with
  | nil => rfl
  | cons slot slots ih => cases slot <;> simp_all [Forest.reconcile]

end Roots

end TopicRouting
