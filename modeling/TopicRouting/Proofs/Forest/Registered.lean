import TopicRouting.Proofs.Forest.Agreement
import TopicRouting.Proofs.Forest.CollapseKept

set_option autoImplicit false

namespace TopicRouting

universe u

variable {V : Type u}

theorem Target.route_iff (target : Target V) (value : V) :
    target.route? = some value ↔ target = .route value := by
  cases target <;> simp [route?]

namespace Forest

def routeAt? (path : Path) (forest : Forest V) : Option V :=
  (forest.node? path).bind fun here => here.target.route?

theorem route_at_iff (forest : Forest V) (regular : forest.Regular) (path : Path) (value : V) :
    forest.routeAt? path = some value ↔ (path, value) ∈ forest.routes := by
  rw [routes_iff forest regular, routeAt?, Option.bind_eq_some_iff]
  simp only [Target.route_iff]

theorem route_at_cons (segment : Segment) (rest : Path) (forest : Forest V) :
    forest.routeAt? (segment :: rest) =
      (forest.child? segment).bind fun here =>
        (here.below? rest).bind fun below => below.target.route? := by
  rw [routeAt?, node_cons, Option.bind_assoc]

theorem revised_route (eqv : Comparator V) (target settled : Target V) (below : Change V)
    (kept : revised eqv target below = some settled) : settled.route? = target.route? := by
  cases valued : target.value? with
  | some value => rw [revised_valued eqv target below value valued settled kept]
  | none =>
      have undecided := undecided_of_none target valued
      subst undecided
      by_cases rising : below.rising = true
      · rw [revised_undecided eqv below rising settled kept]
        cases below.forest.uniformValue? eqv <;> rfl
      · rw [revised_calm eqv .undecided below rising] at kept
        cases kept
        rfl

theorem relax_route (eqv : Comparator V) (lawful : eqv.IsEquivalence) (value : V)
    (segment : Segment) (settled : Bool) (target : Target V)
    (context : settled = true → ∃ held, target.value? = some held ∧ eqv value held = true) :
    (target.relax eqv value segment settled).target.route? =
      target.route?.filter fun held => eqv held value := by
  cases stops : (target.relax eqv value segment settled).settled with
  | true =>
      obtain ⟨same, held, valued, agrees⟩ :=
        relax_agrees eqv lawful value segment settled target context stops
      rw [same]
      cases target with
      | undecided => rfl
      | collapsed value => rfl
      | route own =>
          cases valued
          rw [Target.route?, Option.filter_some, if_pos agrees]
  | false =>
      obtain ⟨cleared, before⟩ := relax_unsettled eqv value segment settled target stops
      rw [cleared]
      cases target with
      | undecided => rfl
      | collapsed value => rfl
      | route own =>
          rcases before with absent | ⟨held, valued, different⟩
          · cases absent
          · cases valued
            simp [Target.route?, Option.filter_some, different]

theorem link_route (value : V) (rest path : Path) :
    (((link value rest).below? path).bind fun below => below.target.route?) =
      if path = rest then some value else none := by
  induction rest generalizing path with
  | nil => cases path <;> simp [link, Node.below?, Target.route?]
  | cons next rest ih =>
      cases path with
      | nil => simp [link, Node.below?, Target.route?]
      | cons segment path =>
          rw [Node.below?, link, chain_link]
          by_cases same : next = segment
          · subst same
            rw [node_at_head]
            simpa using ih path
          · rw [node_beside _ _ _ _ _ _ same]
            simp [Ne.symm same]

def surviving (eqv : Comparator V) (value : V) (whole path : Path) (held : Option V) : Option V :=
  if path = whole then some value
  else if path <+: whole then held.filter fun own => eqv own value
  else held

theorem surviving_none (eqv : Comparator V) (value : V) (whole path : Path) :
    surviving eqv value whole path none = if path = whole then some value else none := by
  by_cases same : path = whole <;> simp [surviving, same]

theorem surviving_cons (eqv : Comparator V) (value : V) (segment : Segment) (whole path : Path)
    (held : Option V) :
    surviving eqv value (segment :: whole) (segment :: path) held =
      surviving eqv value whole path held := by
  simp [surviving, List.cons_prefix_cons]

theorem surviving_apart (eqv : Comparator V) (value : V) (segment other : Segment)
    (whole path : Path) (held : Option V) (different : other ≠ segment) :
    surviving eqv value (segment :: whole) (other :: path) held = held := by
  simp [surviving, List.cons_prefix_cons, different]

theorem register_route (eqv : Comparator V) (lawful : eqv.IsEquivalence) (value : V)
    (forest : Forest V) (segment : Segment) (rest : Path) (settled : Bool)
    (regular : forest.Regular) (collapsed : forest.Collapsed eqv)
    (context : settled = true → forest.follows eqv value = true) (path : Path)
    (nonempty : path ≠ []) :
    (forest.register eqv value segment rest settled).forest.routeAt? path =
      surviving eqv value (segment :: rest) path (forest.routeAt? path) := by
  -- Once `settled`, all that is left of the way agrees with the value, and nothing is withdrawn.
  induction rest generalizing forest segment settled path with
  | nil =>
      obtain ⟨first, path, rfl⟩ := List.exists_cons_of_ne_nil nonempty
      rw [route_at_cons, route_at_cons]
      by_cases same : first = segment
      · subst same
        rw [surviving_cons]
        cases found : forest.child? first with
        | none =>
            rw [(register_absent eqv value forest first [] settled found).1, Option.bind_some,
              link_route, Option.bind_none, surviving_none]
        | some old =>
            rw [(register_last eqv value forest first settled old found).1]
            cases path with
            | nil => simp [Node.below?, Target.route?, surviving]
            | cons second path => simp [Node.below?, surviving]
      · rw [register_other eqv value forest segment first [] settled same,
          surviving_apart eqv value segment first _ _ _ same]
  | cons next rest ih =>
      obtain ⟨first, path, rfl⟩ := List.exists_cons_of_ne_nil nonempty
      rw [route_at_cons, route_at_cons]
      by_cases same : first = segment
      · subst same
        rw [surviving_cons]
        cases found : forest.child? first with
        | none =>
            rw [(register_absent eqv value forest first (next :: rest) settled found).1,
              Option.bind_some, link_route, Option.bind_none, surviving_none]
        | some old =>
            obtain ⟨node, collapsedBelow⟩ := every_child _ forest collapsed first old found
            have contextHere := follows_context eqv value forest first old found settled context
            obtain ⟨target, kept, changed, _⟩ :=
              register_below eqv value forest first next rest settled old found _ _ rfl rfl
            rw [changed]
            cases path with
            | nil =>
                have own := revised_route eqv _ target _ kept
                rw [relax_route eqv lawful value first settled old.target contextHere] at own
                simpa [Node.below?, surviving] using own
            | cons second path =>
                exact ih old.children next (old.target.relax eqv value first settled).settled
                  (regular_child forest regular first old found).2 collapsedBelow
                  (relax_below eqv lawful value first settled old node contextHere)
                  (second :: path) (by simp)
      · rw [register_other eqv value forest segment first (next :: rest) settled same,
          surviving_apart eqv value segment first _ _ _ same]

theorem relax_source (eqv : Comparator V) (value own : V) (segment : Segment) (settled : Bool)
    (target : Target V)
    (routed : (target.relax eqv value segment settled).target.route? = some own) :
    target.route? = some own := by
  cases settled with
  | true => exact routed
  | false =>
      cases valued : target.value? with
      | none => rwa [relax_absent eqv value segment target valued] at routed
      | some held =>
          by_cases same : eqv held value = true
          · rwa [relax_agreeing eqv value held segment target valued same] at routed
          · rw [relax_cleared eqv value held segment target valued same] at routed
            cases routed

-- Without any law routes may go, but none comes beside the new one.
theorem register_source (eqv : Comparator V) (value : V) (forest : Forest V) (segment : Segment)
    (rest : Path) (settled : Bool) (path : Path) (own : V)
    (routed : (forest.register eqv value segment rest settled).forest.routeAt? path = some own) :
    path = segment :: rest ∨ forest.routeAt? path = some own := by
  induction rest generalizing forest segment settled path with
  | nil =>
      cases path with
      | nil => cases routed
      | cons first path =>
          rw [route_at_cons] at routed ⊢
          by_cases same : first = segment
          · subst same
            cases found : forest.child? first with
            | none =>
                rw [(register_absent eqv value forest first [] settled found).1, Option.bind_some,
                  link_route] at routed
                grind
            | some old =>
                rw [(register_last eqv value forest first settled old found).1] at routed
                cases path with
                | nil => exact Or.inl rfl
                | cons second path => exact Or.inr routed
          · rw [register_other eqv value forest segment first [] settled same] at routed
            exact Or.inr routed
  | cons next rest ih =>
      cases path with
      | nil => cases routed
      | cons first path =>
          rw [route_at_cons] at routed ⊢
          by_cases same : first = segment
          · subst same
            cases found : forest.child? first with
            | none =>
                rw [(register_absent eqv value forest first (next :: rest) settled found).1,
                  Option.bind_some, link_route] at routed
                grind
            | some old =>
                obtain ⟨target, kept, changed, _⟩ :=
                  register_below eqv value forest first next rest settled old found _ _ rfl rfl
                rw [changed] at routed
                cases path with
                | nil =>
                    have below := revised_route eqv _ target _ kept
                    exact Or.inr (relax_source eqv value own first settled old.target
                      (below.symm.trans routed))
                | cons second path =>
                    exact (ih old.children next _ (second :: path) routed).imp_left
                      fun same => congrArg (List.cons first) same
          · rw [register_other eqv value forest segment first (next :: rest) settled same] at routed
            exact Or.inr routed

end Forest

end TopicRouting
