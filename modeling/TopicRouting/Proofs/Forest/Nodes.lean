import TopicRouting.Table.Forest

set_option autoImplicit false

namespace TopicRouting

universe u v

variable {V : Type u}

theorem unique_of_nodup_map {α : Type u} {β : Type v} (f : α → β) (list : List α)
    (distinct : (list.map f).Nodup) (a b : α) (first : a ∈ list) (second : b ∈ list)
    (same : f a = f b) : a = b := by
  induction list with
  | nil => cases first
  | cons head list ih => grind

theorem nodup_map_of_unique {α : Type u} {β : Type v} (f : α → β) (list : List α)
    (once : list.Nodup) (unique : ∀ a ∈ list, ∀ b ∈ list, f a = f b → a = b) :
    (list.map f).Nodup := by
  rw [List.Nodup, List.pairwise_map]
  exact once.imp_of_mem fun first second apart same => apart (unique _ first _ second same)

def Node.below? (here : Node V) : Path → Option (Node V)
  | [] => some here
  | segment :: rest => here.children.node? (segment :: rest)

namespace Forest

def tops : Forest V → List (Segment × Node V)
  | .nil => []
  | .node segment target children siblings => (segment, ⟨target, children⟩) :: siblings.tops

def segments (forest : Forest V) : List Segment := forest.tops.map Prod.fst

theorem segments_node (segment : Segment) (target : Target V) (children siblings : Forest V) :
    (node segment target children siblings).segments = segment :: siblings.segments := rfl

def nodes : Forest V → List (Path × Node V)
  | .nil => []
  | .node segment target children siblings =>
    ([segment], ⟨target, children⟩)
      :: (children.nodes.map (fun (path, here) => (segment :: path, here)) ++ siblings.nodes)

def Every (P : Node V → Prop) : Forest V → Prop
  | .nil => True
  | .node _ target children siblings =>
    P ⟨target, children⟩ ∧ children.Every P ∧ siblings.Every P

theorem tops_of_child (segment : Segment) (forest : Forest V) (here : Node V)
    (found : forest.child? segment = some here) : (segment, here) ∈ forest.tops := by
  induction forest with
  | nil => cases found
  | node first target children siblings _ ih =>
      by_cases same : first = segment
      · simp only [child?, if_pos same, Option.some.injEq] at found
        simp [tops, same, found]
      · simp only [child?, if_neg same] at found
        exact List.mem_cons_of_mem _ (ih found)

theorem child_none_iff (segment : Segment) (forest : Forest V) :
    forest.child? segment = none ↔ segment ∉ forest.segments := by
  induction forest with
  | nil => simp [child?, segments, tops]
  | node first target children siblings _ ih =>
      simp only [segments, tops, List.map_cons, List.mem_cons] at ih ⊢
      by_cases same : first = segment
      · simp [child?, same]
      · simp [child?, same, Ne.symm same, ih]

theorem child_of_tops (segment : Segment) (forest : Forest V) (here : Node V)
    (distinct : forest.segments.Nodup) (member : (segment, here) ∈ forest.tops) :
    forest.child? segment = some here := by
  induction forest with
  | nil => cases member
  | node first target children siblings _ ih =>
      have parts := List.nodup_cons.mp distinct
      rcases List.mem_cons.mp member with atHead | later
      · cases atHead
        simp [child?]
      · have different : first ≠ segment := by
          intro same
          exact parts.1 (List.mem_map.mpr ⟨(segment, here), later, same.symm⟩)
        simpa [child?, different] using ih parts.2 later

theorem tops_iff (segment : Segment) (forest : Forest V) (here : Node V)
    (distinct : forest.segments.Nodup) :
    (segment, here) ∈ forest.tops ↔ forest.child? segment = some here :=
  ⟨child_of_tops segment forest here distinct, tops_of_child segment forest here⟩

theorem child_of_nonempty (forest : Forest V) (nonempty : forest ≠ .nil) :
    ∃ segment here, forest.child? segment = some here := by
  cases forest with
  | nil => exact False.elim (nonempty rfl)
  | node segment target children siblings => exact ⟨segment, ⟨target, children⟩, by simp [child?]⟩

@[simp] theorem node_nil (forest : Forest V) : forest.node? [] = none := rfl

theorem node_nonempty (forest : Forest V) (path : Path) (here : Node V)
    (found : forest.node? path = some here) : path ≠ [] := by
  rintro rfl
  cases found

theorem node_cons (segment : Segment) (rest : Path) (forest : Forest V) :
    forest.node? (segment :: rest) =
      (forest.child? segment).bind fun here => here.below? rest := by
  cases rest with
  | nil => cases found : forest.child? segment <;> simp [node?, found, Node.below?]
  | cons next rest => cases found : forest.child? segment <;> simp [node?, found, Node.below?]

@[simp] theorem nil_node (path : Path) : (nil : Forest V).node? path = none := by
  cases path with
  | nil => rfl
  | cons segment rest => rw [node_cons, child?, Option.bind_none]

theorem node_append (a b : Path) (forest : Forest V) (nonempty : a ≠ []) :
    forest.node? (a ++ b) = (forest.node? a).bind fun here => here.below? b := by
  induction a generalizing forest with
  | nil => exact False.elim (nonempty rfl)
  | cons segment rest ih =>
      rw [List.cons_append, node_cons, node_cons, Option.bind_assoc]
      congr 1
      funext here
      cases rest with
      | nil => rfl
      | cons next rest => exact ih here.children (by simp)

theorem node_front (a b : Path) (forest : Forest V) (here : Node V) (nonempty : a ≠ [])
    (found : forest.node? (a ++ b) = some here) :
    ∃ above, forest.node? a = some above ∧ above.below? b = some here := by
  rw [node_append a b forest nonempty] at found
  exact Option.bind_eq_some_iff.mp found

theorem every_child (P : Node V → Prop) (forest : Forest V) (every : forest.Every P)
    (segment : Segment) (here : Node V) (found : forest.child? segment = some here) :
    P here ∧ here.children.Every P := by
  induction forest with
  | nil => cases found
  | node first target children siblings _ ih =>
      obtain ⟨holds, below, beside⟩ := every
      by_cases same : first = segment
      · simp only [child?, if_pos same, Option.some.injEq] at found
        subst found
        exact ⟨holds, below⟩
      · simp only [child?, if_neg same] at found
        exact ih beside found

theorem every_of_child (P : Node V → Prop) (forest : Forest V)
    (distinct : forest.segments.Nodup)
    (each : ∀ segment here, forest.child? segment = some here →
      P here ∧ here.children.Every P) : forest.Every P := by
  have tops : ∀ segment here, (segment, here) ∈ forest.tops → P here ∧ here.children.Every P :=
    fun segment here member => each segment here (child_of_tops segment forest here distinct member)
  clear each distinct
  induction forest with
  | nil => trivial
  | node first target children siblings _ ih =>
      have here := tops first ⟨target, children⟩ (by simp [Forest.tops])
      exact ⟨here.1, here.2, ih fun segment node member =>
        tops segment node (List.mem_cons_of_mem _ member)⟩

theorem every_update (P : Node V → Prop) (old new : Forest V) (segment : Segment)
    (distinct : new.segments.Nodup) (every : old.Every P)
    (others : ∀ other, other ≠ segment → new.child? other = old.child? other)
    (changed : ∀ here, new.child? segment = some here → P here ∧ here.children.Every P) :
    new.Every P := by
  apply every_of_child P new distinct
  intro other here found
  by_cases same : other = segment
  · exact changed here (same ▸ found)
  · rw [others other same] at found
    exact every_child P old every other here found

theorem every_node (P : Node V → Prop) (forest : Forest V) (every : forest.Every P)
    (path : Path) (here : Node V) (found : forest.node? path = some here) :
    P here ∧ here.children.Every P := by
  induction path generalizing forest with
  | nil => cases found
  | cons segment rest ih =>
      rw [node_cons] at found
      obtain ⟨child, foundChild, foundBelow⟩ := Option.bind_eq_some_iff.mp found
      have atChild := every_child P forest every segment child foundChild
      cases rest with
      | nil =>
          cases foundBelow
          exact atChild
      | cons next rest => exact ih child.children atChild.2 foundBelow

end Forest

structure Node.Regular (here : Node V) : Prop where
  distinct : here.children.segments.Nodup
  ends : here.children = .nil → here.target.isRoute = true

namespace Forest

structure Regular (forest : Forest V) : Prop where
  distinct : forest.segments.Nodup
  every : forest.Every Node.Regular

theorem regular_nil : Regular (.nil : Forest V) := ⟨List.nodup_nil, trivial⟩

theorem regular_child (forest : Forest V) (regular : forest.Regular) (segment : Segment)
    (here : Node V) (found : forest.child? segment = some here) :
    here.Regular ∧ here.children.Regular := by
  obtain ⟨node, below⟩ := every_child _ forest regular.every segment here found
  exact ⟨node, node.distinct, below⟩

theorem regular_node (forest : Forest V) (regular : forest.Regular) (path : Path)
    (here : Node V) (found : forest.node? path = some here) :
    here.Regular ∧ here.children.Regular := by
  obtain ⟨node, below⟩ := every_node _ forest regular.every path here found
  exact ⟨node, node.distinct, below⟩

theorem regular_siblings (segment : Segment) (target : Target V) (children siblings : Forest V)
    (regular : Regular (.node segment target children siblings)) :
    siblings.Regular ∧ siblings.child? segment = none ∧ children.Regular := by
  have parts := List.nodup_cons.mp regular.distinct
  exact ⟨⟨parts.2, regular.every.2.2⟩, (child_none_iff _ _).mpr parts.1,
    regular.every.1.distinct, regular.every.2.1⟩

theorem node_at_head (segment : Segment) (target : Target V) (children siblings : Forest V)
    (rest : Path) :
    (node segment target children siblings).node? (segment :: rest) =
      (Node.mk target children).below? rest := by
  rw [node_cons, child?, if_pos rfl, Option.bind_some]

theorem node_beside (segment first : Segment) (target : Target V) (children siblings : Forest V)
    (rest : Path) (different : segment ≠ first) :
    (node segment target children siblings).node? (first :: rest) =
      siblings.node? (first :: rest) := by
  rw [node_cons, node_cons, child?, if_neg different]

theorem nodes_nonempty (forest : Forest V) (here : Node V) : ([], here) ∉ forest.nodes := by
  induction forest with
  | nil => simp [nodes]
  | node segment target children siblings _ ih => simp [nodes, ih]

theorem nodes_iff (forest : Forest V) (regular : forest.Regular) (path : Path) (here : Node V) :
    (path, here) ∈ forest.nodes ↔ forest.node? path = some here := by
  induction forest generalizing path with
  | nil => simp [nodes]
  | node segment target children siblings ihChildren ihSiblings =>
      obtain ⟨beside, absent, below⟩ := regular_siblings _ _ _ _ regular
      cases path with
      | nil => simpa using nodes_nonempty _ here
      | cons first rest =>
          by_cases same : segment = first
          · subst same
            have nothing : (segment :: rest, here) ∉ siblings.nodes := by
              rw [ihSiblings beside, node_cons, absent]
              simp
            rw [node_at_head]
            cases rest with
            | nil => simp [nodes, nothing, nodes_nonempty, Node.below?, eq_comm]
            | cons next rest =>
                rw [Node.below?, ← ihChildren below]
                simp [nodes, nothing]
          · rw [node_beside _ _ _ _ _ _ same, ← ihSiblings beside]
            simp [nodes, same, Ne.symm same]

theorem nodes_size (forest : Forest V) : forest.nodes.length = forest.size := by
  induction forest with
  | nil => rfl
  | node segment target children siblings below beside =>
      rw [nodes, size, List.length_cons, List.length_append, List.length_map, below, beside]
      omega

theorem nodes_head (forest : Forest V) (segment : Segment) (rest : Path) (here : Node V)
    (member : (segment :: rest, here) ∈ forest.nodes) : segment ∈ forest.segments := by
  induction forest with
  | nil => cases member
  | node first target children siblings _ ih =>
      rw [segments_node, List.mem_cons]
      rcases List.mem_cons.mp member with top | later
      · simp only [Prod.mk.injEq, List.cons.injEq] at top
        exact Or.inl top.1.1
      rcases List.mem_append.mp later with lower | beside
      · obtain ⟨_, _, same⟩ := List.mem_map.mp lower
        simp only [Prod.mk.injEq, List.cons.injEq] at same
        exact Or.inl same.1.1.symm
      · exact Or.inr (ih beside)

theorem nodes_distinct (forest : Forest V) (regular : forest.Regular) :
    (forest.nodes.map Prod.fst).Nodup := by
  induction forest with
  | nil => exact List.nodup_nil
  | node segment target children siblings below beside =>
      obtain ⟨later, absent, lower⟩ := regular_siblings _ _ _ _ regular
      rw [child_none_iff] at absent
      have first : ∀ path here, (path, here) ∈ siblings.nodes → path.head? ≠ some segment := by
        intro path here member same
        cases path with
        | nil => cases same
        | cons head rest =>
            cases same
            exact absent (nodes_head siblings segment rest here member)
      simp only [nodes, List.map_cons, List.map_append, List.map_map, List.nodup_cons,
        List.nodup_append, List.mem_append]
      refine ⟨?_, ?_, beside later, ?_⟩
      · rintro (inner | outer)
        · obtain ⟨⟨path, here⟩, member, same⟩ := List.mem_map.mp inner
          cases same
          exact nodes_nonempty children here member
        · obtain ⟨⟨path, here⟩, member, same⟩ := List.mem_map.mp outer
          cases same
          exact first _ here member rfl
      · have lifted := List.Pairwise.map (R := (· ≠ ·)) (S := (· ≠ ·)) (fun path => segment :: path)
          (fun a b different same => different (List.cons.inj same).2) (below lower)
        simpa [List.Nodup, Function.comp_def] using lifted
      · intro path inner other outer same
        obtain ⟨⟨rest, here⟩, _, isPath⟩ := List.mem_map.mp inner
        obtain ⟨⟨found, there⟩, member, isOther⟩ := List.mem_map.mp outer
        cases isPath
        cases isOther
        cases same
        exact first _ there member rfl

theorem nodes_once (forest : Forest V) (regular : forest.Regular) : forest.nodes.Nodup :=
  List.Pairwise.of_map Prod.fst (fun _ _ apart same => apart (congrArg Prod.fst same))
    (nodes_distinct forest regular)

theorem routes_of_nodes (forest : Forest V) :
    forest.routes = forest.nodes.filterMap fun (path, here) =>
      here.target.route?.map fun value => (path, value) := by
  induction forest with
  | nil => rfl
  | node segment target children siblings ihChildren ihSiblings =>
      rw [routes, nodes, List.filterMap_cons, List.filterMap_append, List.filterMap_map,
        ← ihSiblings, ihChildren, List.map_filterMap]
      cases target <;> simp [Target.route?, Function.comp_def]

theorem routes_iff (forest : Forest V) (regular : forest.Regular) (path : Path) (value : V) :
    (path, value) ∈ forest.routes ↔
      ∃ here, forest.node? path = some here ∧ here.target = .route value := by
  rw [routes_of_nodes, List.mem_filterMap]
  constructor
  · rintro ⟨⟨found, here⟩, member, same⟩
    obtain ⟨routed, isRoute, rfl, rfl⟩ : ∃ routed, here.target.route? = some routed ∧
        found = path ∧ routed = value := by simpa using same
    refine ⟨here, (nodes_iff forest regular _ here).mp member, ?_⟩
    cases target : here.target <;> simp_all [Target.route?]
  · rintro ⟨here, found, routed⟩
    exact ⟨(path, here), (nodes_iff forest regular path here).mpr found,
      by simp [routed, Target.route?]⟩

theorem routes_count (forest : Forest V) : forest.routes.length = forest.routeCount := by
  induction forest with
  | nil => rfl
  | node segment target children siblings below beside =>
      rw [routes, routeCount, List.length_append, List.length_append, List.length_map, below, beside]
      cases target <;> rfl

theorem routes_distinct (forest : Forest V) (regular : forest.Regular) :
    (forest.routes.map Prod.fst).Nodup := by
  have within : (forest.routes.map Prod.fst).Sublist (forest.nodes.map Prod.fst) := by
    rw [routes_of_nodes]
    induction forest.nodes with
    | nil => exact List.Sublist.refl _
    | cons first later ih =>
        cases target : first.2.target with
        | route value => simpa [target, Target.route?] using ih
        | undecided => simpa [target, Target.route?] using ih.cons first.1
        | collapsed value => simpa [target, Target.route?] using ih.cons first.1
  exact within.nodup (nodes_distinct forest regular)

theorem routes_once (forest : Forest V) (regular : forest.Regular) : forest.routes.Nodup :=
  List.Pairwise.of_map Prod.fst (fun _ _ apart same => apart (congrArg Prod.fst same))
    (routes_distinct forest regular)

end Forest

end TopicRouting
