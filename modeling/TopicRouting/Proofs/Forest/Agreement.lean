import TopicRouting.Proofs.Forest.Collapse

/-!
Values and routes. In a collapsed forest a node has a value exactly when the routes at and below
it agree, and then the value agrees with all of them; so what a path resolves to is determined by
the registered routes alone.
-/

set_option autoImplicit false

namespace TopicRouting

universe u

variable {V : Type u}

theorem Node.childwise (P : Node V → Prop)
    (step : ∀ here : Node V,
      (∀ segment child, here.children.child? segment = some child → P child) → P here)
    (here : Node V) : P here := by
  have all : ∀ (forest : Forest V) segment child, forest.child? segment = some child → P child := by
    intro forest
    induction forest with
    | nil => intro segment child found; cases found
    | node first target children siblings ihChildren ihSiblings =>
        intro segment child found
        by_cases same : first = segment
        · simp only [Forest.child?, if_pos same, Option.some.injEq] at found
          exact found ▸ step ⟨target, children⟩ ihChildren
        · simp only [Forest.child?, if_neg same] at found
          exact ihSiblings segment child found
  exact step here (all here.children)

theorem Node.every_of_below (P : Node V → Prop) (here : Node V) (below : here.children.Regular)
    (each : ∀ path lower, here.below? path = some lower → P lower) :
    P here ∧ here.children.Every P := by
  induction here using childwise with
  | step here ih =>
      refine ⟨each [] here rfl, Forest.every_of_child P _ below.distinct ?_⟩
      intro segment child found
      refine ih segment child found (Forest.regular_child _ below segment child found).2 ?_
      intro path lower isLower
      apply each (segment :: path) lower
      rw [below?, Forest.node_cons, found]
      exact isLower

theorem Forest.every_of_nodes (P : Node V → Prop) (forest : Forest V) (regular : forest.Regular)
    (each : ∀ path here, forest.node? path = some here → P here) : forest.Every P := by
  apply every_of_child P forest regular.distinct
  intro segment child found
  apply child.every_of_below P (regular_child forest regular segment child found).2
  intro path lower isLower
  apply each (segment :: path) lower
  rw [node_cons, found]
  exact isLower

def Node.Leads (here : Node V) (value : V) : Prop :=
  ∃ path below, here.below? path = some below ∧ below.target = .route value

namespace Node

theorem leads_child (here child : Node V) (segment : Segment) (value : V)
    (found : here.children.child? segment = some child) (leads : child.Leads value) :
    here.Leads value := by
  obtain ⟨path, below, isBelow, routed⟩ := leads
  refine ⟨segment :: path, below, ?_, routed⟩
  rw [below?, Forest.node_cons, found]
  exact isBelow

theorem leads_somewhere (here : Node V) (regular : here.Regular)
    (below : here.children.Regular) : ∃ value, here.Leads value := by
  induction here using childwise with
  | step here ih =>
      by_cases childless : here.children = .nil
      · have routed := regular.ends childless
        cases target : here.target with
        | undecided => rw [target] at routed; cases routed
        | collapsed value => rw [target] at routed; cases routed
        | route value => exact ⟨value, [], here, rfl, target⟩
      · obtain ⟨segment, child, found⟩ := Forest.child_of_nonempty here.children childless
        obtain ⟨childRegular, childBelow⟩ := Forest.regular_child _ below segment child found
        obtain ⟨value, leads⟩ := ih segment child found childRegular childBelow
        exact ⟨value, leads_child here child segment value found leads⟩

theorem settled_below (eqv : Comparator V) (lawful : eqv.IsEquivalence) (here : Node V)
    (node : here.Settled eqv) (collapsed : here.children.Collapsed eqv) (value : V)
    (valued : here.target.value? = some value) (path : Path) (below : Node V)
    (found : here.below? path = some below) :
    ∃ lower, below.target.value? = some lower ∧ eqv value lower = true := by
  induction path generalizing here value with
  | nil =>
      cases found
      exact ⟨value, valued, lawful.refl value⟩
  | cons segment rest ih =>
      rw [below?, Forest.node_cons] at found
      obtain ⟨child, isChild, later⟩ := Option.bind_eq_some_iff.mp found
      obtain ⟨middle, valuedChild, close⟩ := (Forest.follows_tops eqv value _).mp
        (node.sound value valued) segment child (Forest.tops_of_child _ _ _ isChild)
      obtain ⟨childNode, childCollapsed⟩ :=
        Forest.every_child _ _ collapsed segment child isChild
      obtain ⟨lower, valuedBelow, closer⟩ :=
        ih child childNode childCollapsed middle valuedChild later
      exact ⟨lower, valuedBelow, lawful.trans close closer⟩

theorem agreed_iff (eqv : Comparator V) (lawful : eqv.IsEquivalence) (here : Node V)
    (regular : here.Regular) (below : here.children.Regular) (node : here.Settled eqv)
    (collapsed : here.children.Collapsed eqv) (value : V) :
    (∃ held, here.target.value? = some held ∧ eqv value held = true) ↔
      ∀ routed, here.Leads routed → eqv value routed = true := by
  constructor
  · rintro ⟨held, valued, same⟩ routed ⟨path, lower, found, isRoute⟩
    obtain ⟨other, isOther, close⟩ :=
      settled_below eqv lawful here node collapsed held valued path lower found
    rw [isRoute] at isOther
    cases isOther
    exact lawful.trans same close
  · intro all
    induction here using childwise with
    | step here ih =>
        have children : here.children.follows eqv value = true := by
          rw [Forest.follows_iff eqv value _ below.distinct]
          intro segment child found
          obtain ⟨childRegular, childBelow⟩ := Forest.regular_child _ below segment child found
          obtain ⟨childNode, childCollapsed⟩ := Forest.every_child _ _ collapsed segment child found
          exact ih segment child found childRegular childBelow childNode childCollapsed
            fun routed leads => all routed (leads_child here child segment routed found leads)
        by_cases inner : here.children = .nil
        · cases target : here.target with
          | undecided =>
              have routed := regular.ends inner
              rw [target] at routed
              cases routed
          | collapsed held =>
              have routed := regular.ends inner
              rw [target] at routed
              cases routed
          | route held => exact ⟨held, rfl, all held ⟨[], here, rfl, target⟩⟩
        · exact (here.settled_follows eqv lawful node inner value).mpr children

end Node

namespace Forest

def valueAt? (path : Path) (forest : Forest V) : Option V :=
  (forest.node? path).bind fun here => here.target.value?

theorem leads_iff (forest : Forest V) (regular : forest.Regular) (path : Path) (here : Node V)
    (found : forest.node? path = some here) (value : V) :
    here.Leads value ↔ ∃ rest, (path ++ rest, value) ∈ forest.routes := by
  have nonempty := node_nonempty forest path here found
  have below : ∀ rest, forest.node? (path ++ rest) = here.below? rest := by
    intro rest
    rw [node_append path rest forest nonempty, found, Option.bind_some]
  constructor
  · rintro ⟨rest, lower, isBelow, routed⟩
    exact ⟨rest, (routes_iff forest regular _ value).mpr ⟨lower, (below rest).trans isBelow, routed⟩⟩
  · rintro ⟨rest, member⟩
    obtain ⟨lower, isLower, routed⟩ := (routes_iff forest regular _ value).mp member
    exact ⟨rest, lower, (below rest).symm.trans isLower, routed⟩

theorem node_of_route (forest : Forest V) (regular : forest.Regular) (path : Path)
    (nonempty : path ≠ []) :
    (∃ here, forest.node? path = some here) ↔
      ∃ rest value, (path ++ rest, value) ∈ forest.routes := by
  constructor
  · rintro ⟨here, found⟩
    obtain ⟨node, below⟩ := regular_node forest regular path here found
    obtain ⟨value, leads⟩ := here.leads_somewhere node below
    obtain ⟨rest, member⟩ := (leads_iff forest regular path here found value).mp leads
    exact ⟨rest, value, member⟩
  · rintro ⟨rest, value, member⟩
    obtain ⟨lower, isLower, _⟩ := (routes_iff forest regular _ value).mp member
    obtain ⟨here, found, _⟩ := node_front path rest forest lower nonempty isLower
    exact ⟨here, found⟩

theorem value_agreed (eqv : Comparator V) (lawful : eqv.IsEquivalence) (forest : Forest V)
    (regular : forest.Regular) (collapsed : forest.Collapsed eqv) (path : Path)
    (nonempty : path ≠ []) (value : V) :
    (∃ held, forest.valueAt? path = some held ∧ eqv value held = true) ↔
      (∃ rest routed, (path ++ rest, routed) ∈ forest.routes) ∧
        ∀ rest routed, (path ++ rest, routed) ∈ forest.routes → eqv value routed = true := by
  rw [← node_of_route forest regular path nonempty]
  cases found : forest.node? path with
  | none => simp [valueAt?, found]
  | some here =>
      obtain ⟨node, below⟩ := regular_node forest regular path here found
      obtain ⟨settled, collapsedBelow⟩ := every_node _ forest collapsed path here found
      have agreed := here.agreed_iff eqv lawful node below settled collapsedBelow value
      simp only [leads_iff forest regular path here found] at agreed
      simp only [valueAt?, found, Option.bind_some, agreed, Option.some.injEq, exists_eq', true_and,
        forall_exists_index]
      exact ⟨fun all rest routed member => all routed rest member,
        fun all routed rest member => all rest routed member⟩

end Forest

end TopicRouting
