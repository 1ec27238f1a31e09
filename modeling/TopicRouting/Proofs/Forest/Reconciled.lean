import TopicRouting.Proofs.Forest.Registered

/-!
The forest after reconciliation. A node gets a value equivalent to a given one exactly when the
routes at and below it that have nothing below themselves all lead to such a value; so it is these
that decide which routes stay. Where the forest agreed with the comparator before, reconciliation
changes nothing.
-/

set_option autoImplicit false

namespace TopicRouting

universe u

variable {V : Type u}

-- A route at or below the node that has nothing below itself has the value.
def Node.Ends (here : Node V) (value : V) : Prop :=
  ∃ path last, here.below? path = some last ∧ last.children = .nil ∧ last.target = .route value

namespace Node

theorem ends_childless (here : Node V) (childless : here.children = .nil) (value : V) :
    here.Ends value ↔ here.target = .route value := by
  constructor
  · rintro ⟨path, last, found, _, routed⟩
    cases path with
    | nil =>
        cases found
        exact routed
    | cons segment rest =>
        rw [below?, childless, Forest.nil_node] at found
        cases found
  · intro routed
    exact ⟨[], here, rfl, childless, routed⟩

theorem ends_child (here : Node V) (inner : here.children ≠ .nil) (value : V) :
    here.Ends value ↔
      ∃ segment child, here.children.child? segment = some child ∧ child.Ends value := by
  constructor
  · rintro ⟨path, last, found, childless, routed⟩
    cases path with
    | nil =>
        cases found
        exact False.elim (inner childless)
    | cons segment rest =>
        rw [below?, Forest.node_cons] at found
        obtain ⟨child, isChild, lower⟩ := Option.bind_eq_some_iff.mp found
        exact ⟨segment, child, isChild, rest, last, lower, childless, routed⟩
  · rintro ⟨segment, child, isChild, rest, last, lower, childless, routed⟩
    refine ⟨segment :: rest, last, ?_, childless, routed⟩
    rw [below?, Forest.node_cons, isChild]
    exact lower

end Node

namespace Forest

theorem reconcile_nonempty (eqv : Comparator V) (forest : Forest V) (nonempty : forest ≠ .nil) :
    forest.reconcile eqv ≠ .nil :=
  fun empty => nonempty (reconcile_empty eqv forest empty)

theorem reconciled_children (eqv : Comparator V) (lawful : eqv.IsEquivalence) (here : Node V)
    (regular : here.Regular) (below : here.children.Regular) (inner : here.children ≠ .nil)
    (value : V) :
    (here.children.reconcile eqv).follows eqv value = true ↔
      ∀ own, here.Ends own → eqv value own = true := by
  induction here using Node.childwise with
  | step here ih =>
      have each : ∀ segment child, here.children.child? segment = some child →
          ((∃ held, (reconciled eqv child).target.value? = some held ∧ eqv value held = true) ↔
            ∀ own, child.Ends own → eqv value own = true) := by
        intro segment child found
        obtain ⟨childRegular, childBelow⟩ := regular_child _ below segment child found
        by_cases childless : child.children = .nil
        · obtain ⟨target, children⟩ := child
          cases childless
          cases target with
          | undecided => cases childRegular.ends rfl
          | collapsed own => cases childRegular.ends rfl
          | route own =>
              simp [Node.ends_childless, reconciled, reconcile, reconciledTarget, Target.value?]
        · rw [Node.settled_follows eqv lawful (reconciled eqv child)
            (reconciled_settled eqv lawful child.target _) (reconcile_nonempty eqv _ childless) value]
          exact ih segment child found childRegular childBelow childless
      rw [follows_iff eqv value _ (by rw [reconcile_segments]; exact below.distinct)]
      constructor
      · intro follows own ends
        obtain ⟨segment, child, found, lower⟩ := (here.ends_child inner own).mp ends
        have valued := follows segment (reconciled eqv child) (by rw [reconcile_child, found]; rfl)
        exact (each segment child found).mp valued own lower
      · intro all segment settled found
        rw [reconcile_child] at found
        obtain ⟨child, isChild, rfl⟩ := Option.map_eq_some_iff.mp found
        exact (each segment child isChild).mpr fun own lower =>
          all own ((here.ends_child inner own).mpr ⟨segment, child, isChild, lower⟩)

theorem reconciled_target_route (eqv : Comparator V) (target : Target V) (children : Forest V)
    (inner : children ≠ .nil) (value : V) :
    reconciledTarget eqv target children = .route value ↔
      target = .route value ∧ children.agreesWith eqv value = true := by
  have uniform : ∀ shared : Option V, Target.ofUniform shared ≠ .route value := by
    intro shared
    cases shared <;> exact fun same => nomatch same
  cases children with
  | nil => exact False.elim (inner rfl)
  | node segment held below siblings =>
      cases target with
      | undecided => simp [reconciledTarget, uniform]
      | collapsed own => simp [reconciledTarget, uniform]
      | route own =>
          by_cases agrees : (node segment held below siblings).agreesWith eqv own = true
          · rw [reconciledTarget, if_pos agrees]
            grind
          · rw [reconciledTarget, if_neg agrees]
            grind

theorem reconciled_route (eqv : Comparator V) (lawful : eqv.IsEquivalence) (here : Node V)
    (regular : here.Regular) (below : here.children.Regular) (value : V) :
    (reconciled eqv here).target = .route value ↔
      here.target = .route value ∧ ∀ own, here.Ends own → eqv value own = true := by
  by_cases inner : here.children = .nil
  · obtain ⟨target, children⟩ := here
    cases inner
    simp only [Node.ends_childless, reconciled, reconcile, reconciledTarget]
    constructor
    · rintro rfl
      exact ⟨rfl, fun own same => by cases same; exact lawful.refl value⟩
    · exact fun both => both.1
  · rw [reconciled, reconciled_target_route eqv _ _ (reconcile_nonempty eqv _ inner),
      agrees_follows eqv lawful, reconciled_children eqv lawful here regular below inner]

theorem reconcile_paths (eqv : Comparator V) (forest : Forest V) :
    (forest.reconcile eqv).nodes.map Prod.fst = forest.nodes.map Prod.fst := by
  induction forest with
  | nil => rfl
  | node segment target children siblings below beside =>
      have lifted := congrArg (List.map fun path => segment :: path) below
      simp only [List.map_map] at lifted
      simp only [reconcile, nodes, List.map_cons, List.map_append, List.map_map, beside]
      exact congrArg (fun front => [segment] :: (front ++ siblings.nodes.map Prod.fst)) lifted

theorem ends_iff (forest : Forest V) (regular : forest.Regular) (path : Path) (here : Node V)
    (found : forest.node? path = some here) (value : V) :
    here.Ends value ↔
      ∃ rest, (path ++ rest, value) ∈ forest.routes ∧
        ∀ more own, (path ++ rest ++ more, own) ∈ forest.routes → more = [] := by
  have nonempty := node_nonempty forest path here found
  have below : ∀ rest, forest.node? (path ++ rest) = here.below? rest := by
    intro rest
    rw [node_append path rest forest nonempty, found, Option.bind_some]
  have lower : ∀ rest more last, here.below? rest = some last →
      forest.node? (path ++ rest ++ more) = last.below? more := by
    intro rest more last isLast
    rw [node_append _ more forest (by simp [nonempty]), below, isLast, Option.bind_some]
  constructor
  · rintro ⟨rest, last, isLast, childless, routed⟩
    refine ⟨rest, (routes_iff forest regular _ value).mpr ⟨last, (below rest).trans isLast, routed⟩, ?_⟩
    intro more own member
    obtain ⟨further, isFurther, _⟩ := (routes_iff forest regular _ own).mp member
    rw [lower rest more last isLast] at isFurther
    cases more with
    | nil => rfl
    | cons segment more =>
        rw [Node.below?, childless, nil_node] at isFurther
        cases isFurther
  · rintro ⟨rest, member, none⟩
    obtain ⟨last, isLast, routed⟩ := (routes_iff forest regular _ value).mp member
    have regularLast := (regular_node forest regular _ last isLast).2
    rw [below] at isLast
    refine ⟨rest, last, isLast, ?_, routed⟩
    apply Classical.byContradiction
    intro inner
    obtain ⟨segment, child, isChild⟩ := child_of_nonempty _ inner
    obtain ⟨childRegular, childBelow⟩ := regular_child _ regularLast segment child isChild
    obtain ⟨own, more, further, isFurther, isRoute⟩ := child.leads_somewhere childRegular childBelow
    have extended : forest.node? (path ++ rest ++ segment :: more) = some further := by
      rw [lower rest _ last isLast, Node.below?, node_cons, isChild]
      exact isFurther
    cases none _ own ((routes_iff forest regular _ own).mpr ⟨further, extended, isRoute⟩)

theorem follows_equality [DecidableEq V] (value : V) (forest : Forest V) :
    forest.follows .equality value = true ↔
      ∀ segment here, (segment, here) ∈ forest.tops → here.target.value? = some value := by
  rw [follows_tops]
  constructor
  · intro each segment here member
    obtain ⟨held, valued, same⟩ := each segment here member
    rw [valued, of_decide_eq_true same]
  · intro each segment here member
    exact ⟨value, each segment here member, decide_eq_true rfl⟩

theorem uniform_equality [DecidableEq V] (value : V) (forest : Forest V) (nonempty : forest ≠ .nil)
    (follows : forest.follows .equality value = true) :
    forest.uniformValue? .equality = some value := by
  cases forest with
  | nil => exact False.elim (nonempty rfl)
  | node segment target children siblings =>
      have atHead := (follows_equality value _).mp follows segment _ (List.mem_cons_self ..)
      obtain ⟨_, others⟩ := Bool.and_eq_true_iff.mp follows
      rw [uniformValue?, show target.value? = some value from atHead, Option.filter_some, if_pos others]

theorem settled_target [DecidableEq V] (here : Node V) (settled : here.Settled .equality) :
    reconciledTarget .equality here.target here.children = here.target := by
  obtain ⟨target, children⟩ := here
  cases children with
  | nil => rfl
  | node segment held below siblings =>
      have inner : node segment held below siblings ≠ .nil := by simp
      cases target with
      | undecided =>
          have differ : (node segment held below siblings).uniformValue? .equality = none :=
            settled.complete rfl
          rw [reconciledTarget, differ]
          · rfl
          · intro value same
            cases same
      | collapsed value =>
          have shared := uniform_equality value _ inner (settled.sound value rfl)
          rw [reconciledTarget, shared]
          · rfl
          · intro value same
            cases same
      | route value =>
          have agrees := (agrees_follows .equality Comparator.equality_isEquivalence value _).mpr
            (settled.sound value rfl)
          rw [reconciledTarget, if_pos agrees]

theorem reconcile_settled [DecidableEq V] (forest : Forest V)
    (collapsed : forest.Collapsed .equality) : forest.reconcile .equality = forest := by
  induction forest with
  | nil => rfl
  | node segment target children siblings below beside =>
      obtain ⟨settled, lower, later⟩ := collapsed
      rw [reconcile, below lower, beside later, settled_target ⟨target, children⟩ settled]

end Forest

end TopicRouting
