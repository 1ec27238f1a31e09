import TopicRouting.Proofs.Forest.Registered

set_option autoImplicit false

namespace TopicRouting

universe u

variable {V : Type u}

namespace Forest

def inside (path : Path) (forest : Forest V) : List (Path × V) :=
  forest.routes.filter fun route => decide (path <+: route.1)

def outside (path : Path) (forest : Forest V) : List (Path × V) :=
  forest.routes.filter fun route => decide (¬ path <+: route.1)

end Forest

def Node.routes (here : Node V) : List (Path × V) :=
  (here.target.route?.map fun value => ([], value)).toList ++ here.children.routes

namespace Node

theorem routes_count (here : Node V) :
    here.routes.length = (if here.target.isRoute then 1 else 0) + here.children.routeCount := by
  rw [routes, List.length_append, Forest.routes_count]
  cases here.target <;> rfl

theorem routes_iff (here : Node V) (below : here.children.Regular) (path : Path) (value : V) :
    (path, value) ∈ here.routes ↔
      ((here.below? path).bind fun lower => lower.target.route?) = some value := by
  rw [routes, List.mem_append]
  cases path with
  | nil =>
      have nothing : ([], value) ∉ here.children.routes := by
        intro member
        obtain ⟨lower, absent, _⟩ := (Forest.routes_iff _ below [] value).mp member
        cases absent
      cases target : here.target <;> simp [below?, target, Target.route?, nothing, eq_comm]
  | cons segment rest =>
      rw [← Forest.route_at_iff _ below, Forest.routeAt?, below?]
      cases here.target <;> simp [Target.route?]

end Node

namespace Forest

theorem inside_routes (forest : Forest V) (regular : forest.Regular) (path : Path) (here : Node V)
    (found : forest.node? path = some here) :
    (forest.inside path).Perm (here.routes.map fun route => (path ++ route.1, route.2)) := by
  obtain ⟨_, below⟩ := regular_node forest regular path here found
  have nonempty := node_nonempty forest path here found
  have own : here.routes.Nodup := by
    rw [Node.routes, List.nodup_append]
    refine ⟨?_, routes_once _ below, ?_⟩
    · cases here.target <;> simp [Target.route?]
    · intro first atNode second atChildren same
      subst same
      obtain ⟨value, _, rfl⟩ : ∃ value, here.target.route? = some value ∧ ([], value) = first := by
        simpa using atNode
      obtain ⟨lower, absent, _⟩ := (routes_iff _ below [] value).mp atChildren
      cases absent
  have shifted : (here.routes.map fun route => (path ++ route.1, route.2)).Nodup := by
    apply own.map
    intro first second same
    simpa [Prod.ext_iff] using same
  apply (List.perm_ext_iff_of_nodup ((routes_once forest regular).filter _) shifted).mpr
  rintro ⟨whole, value⟩
  simp only [List.mem_filter, decide_eq_true_eq, List.mem_map, Prod.mk.injEq, Prod.exists]
  have lower : ∀ rest, (path ++ rest, value) ∈ forest.routes ↔ (rest, value) ∈ here.routes := by
    intro rest
    rw [Node.routes_iff here below, ← route_at_iff forest regular, routeAt?,
      node_append path rest forest nonempty, found, Option.bind_some]
  constructor
  · rintro ⟨member, rest, rfl⟩
    exact ⟨rest, value, (lower rest).mp member, rfl, rfl⟩
  · rintro ⟨rest, _, member, rfl, rfl⟩
    exact ⟨(lower rest).mpr member, List.prefix_append path rest⟩

theorem inside_count (forest : Forest V) (regular : forest.Regular) (path : Path) (here : Node V)
    (found : forest.node? path = some here) :
    (forest.inside path).length =
      (if here.target.isRoute then 1 else 0) + here.children.routeCount := by
  rw [(inside_routes forest regular path here found).length_eq, List.length_map, here.routes_count]

theorem revised_none (eqv : Comparator V) (target : Target V) (below : Change V)
    (gone : revised eqv target below = none) : below.forest = .nil ∧ target.route? = none := by
  obtain ⟨forest, rising, events⟩ := below
  cases rising with
  | false => cases gone
  | true =>
      cases forest with
      | nil => cases target <;> simp_all [revised, Target.isRoute, Target.route?]
      | node => cases target <;> simp [revised] at gone

theorem detach_route (eqv : Comparator V) (forest : Forest V) (segment : Segment) (rest : Path)
    (regular : forest.Regular) (path : Path) :
    (forest.detach eqv segment rest).forest.routeAt? path =
      if segment :: rest <+: path then none else forest.routeAt? path := by
  induction rest generalizing forest segment path with
  | nil =>
      cases path with
      | nil => simp [routeAt?]
      | cons first path =>
          simp only [route_at_cons, List.cons_prefix_cons]
          by_cases same : segment = first
          · subst same
            rw [if_pos ⟨rfl, List.nil_prefix⟩]
            cases found : forest.child? segment with
            | none => rw [(detach_absent eqv forest segment [] found).1, found, Option.bind_none]
            | some old =>
                rw [(detach_last eqv forest segment old regular.distinct found).1, Option.bind_none]
          · rw [if_neg fun both => same both.1,
              detach_other eqv forest segment first [] (Ne.symm same)]
  | cons next rest ih =>
      cases path with
      | nil => simp [routeAt?]
      | cons first path =>
          simp only [route_at_cons, List.cons_prefix_cons]
          by_cases same : segment = first
          · subst same
            cases found : forest.child? segment with
            | none =>
                rw [(detach_absent eqv forest segment (next :: rest) found).1, found, Option.bind_none]
                exact (ite_self none).symm
            | some old =>
                have below := (regular_child forest regular segment old found).2
                rw [(detach_below eqv forest segment next rest old regular.distinct found _ rfl).1]
                cases kept : revised eqv old.target (old.children.detach eqv next rest) with
                | none =>
                    obtain ⟨empty, routeless⟩ := revised_none eqv _ _ kept
                    cases path with
                    | nil => simpa [Node.below?] using routeless.symm
                    | cons second path =>
                        have lower := ih old.children next below (second :: path)
                        rw [empty] at lower
                        simpa [routeAt?, Node.below?] using lower
                | some settled =>
                    have own := revised_route eqv _ settled _ kept
                    cases path with
                    | nil => simpa [Node.below?] using own
                    | cons second path =>
                        have lower := ih old.children next below (second :: path)
                        simpa [Node.below?, routeAt?] using lower
          · rw [if_neg fun both => same both.1,
              detach_other eqv forest segment first (next :: rest) (Ne.symm same)]

theorem detach_routes (eqv : Comparator V) (forest : Forest V) (segment : Segment) (rest : Path)
    (regular : forest.Regular) :
    (forest.detach eqv segment rest).forest.routes.Perm (forest.outside (segment :: rest)) := by
  have remains := detach_regular eqv forest segment rest regular
  apply (List.perm_ext_iff_of_nodup (routes_once _ remains)
    ((routes_once forest regular).filter _)).mpr
  rintro ⟨path, value⟩
  rw [← route_at_iff _ remains, detach_route eqv forest segment rest regular]
  simp only [List.mem_filter, decide_eq_true_eq, ← route_at_iff forest regular]
  by_cases gone : segment :: rest <+: path <;> simp [gone]

theorem detach_children (eqv : Comparator V) (forest : Forest V) (segment : Segment)
    (rest path : Path) (regular : forest.Regular) (old here : Node V)
    (found : forest.node? path = some old)
    (remains : (forest.detach eqv segment rest).forest.node? path = some here) :
    here.children.segments.Sublist old.children.segments := by
  induction path generalizing forest segment rest with
  | nil => cases found
  | cons first path ih =>
      rw [node_cons] at found remains
      obtain ⟨top, isTop, below⟩ := Option.bind_eq_some_iff.mp found
      obtain ⟨left, isLeft, belowLeft⟩ := Option.bind_eq_some_iff.mp remains
      by_cases same : first = segment
      · subst same
        cases rest with
        | nil =>
            rw [(detach_last eqv forest first top regular.distinct isTop).1] at isLeft
            cases isLeft
        | cons next rest =>
            obtain ⟨target, _, rfl⟩ :=
              detach_child eqv forest first next rest top left regular.distinct isTop isLeft
            cases path with
            | nil =>
                cases below
                cases belowLeft
                exact detach_segments eqv _ next rest
            | cons second path =>
                have lower := (regular_child forest regular first top isTop).2
                exact ih top.children next rest lower below belowLeft
      · rw [detach_other eqv forest segment first rest same, isTop] at isLeft
        cases isLeft
        cases below.symm.trans belowLeft
        exact List.Sublist.refl _

end Forest

end TopicRouting
