import TopicRouting.Proofs.Forest.Changes

set_option autoImplicit false

namespace TopicRouting.Forest

universe u

variable {V : Type u}

theorem regular_update (old new : Forest V) (segment : Segment) (regular : old.Regular)
    (distinct : new.segments.Nodup)
    (others : ∀ other, other ≠ segment → new.child? other = old.child? other)
    (changed : ∀ here, new.child? segment = some here → here.Regular ∧ here.children.Regular) :
    new.Regular := by
  refine ⟨distinct, every_update _ old new segment distinct regular.every others ?_⟩
  intro here found
  obtain ⟨node, below⟩ := changed here found
  exact ⟨node, below.every⟩

theorem chain_nonempty (value : V) (segment : Segment) (rest : Path) :
    chain value segment rest ≠ .nil := by
  rw [chain_link]
  intro empty
  cases empty

theorem link_regular (value : V) (rest : Path) :
    (link value rest).Regular ∧ (link value rest).children.Regular := by
  induction rest with
  | nil => exact ⟨⟨List.nodup_nil, fun _ => rfl⟩, regular_nil⟩
  | cons next rest ih =>
      have single : (chain value next rest).segments.Nodup := by
        simp [chain_link, segments, tops]
      refine ⟨⟨single, fun empty => False.elim (chain_nonempty _ _ _ empty)⟩, single, ?_⟩
      rw [link, chain_link]
      exact ⟨ih.1, ih.2.every, trivial⟩

theorem link_below (value : V) (rest path : Path) :
    ((link value rest).below? path).isSome = true ↔ path <+: rest := by
  induction rest generalizing path with
  | nil => cases path <;> simp [link, Node.below?]
  | cons next rest ih =>
      cases path with
      | nil => simp [Node.below?]
      | cons segment path =>
          rw [Node.below?, link, chain_link, List.cons_prefix_cons]
          by_cases same : next = segment
          · subst same
            rw [node_at_head]
            simpa using ih path
          · rw [node_beside _ _ _ _ _ _ same]
            simp [Ne.symm same]

theorem register_regular (eqv : Comparator V) (value : V) (forest : Forest V)
    (segment : Segment) (rest : Path) (settled : Bool) (regular : forest.Regular) :
    (forest.register eqv value segment rest settled).forest.Regular := by
  induction rest generalizing forest segment settled with
  | nil =>
      apply regular_update forest _ segment regular
        (register_distinct eqv value forest segment [] settled regular.distinct)
        (fun other => register_other eqv value forest segment other [] settled)
      intro here isHere
      cases found : forest.child? segment with
      | none =>
          rw [(register_absent eqv value forest segment [] settled found).1] at isHere
          cases isHere
          exact link_regular value []
      | some old =>
          rw [(register_last eqv value forest segment settled old found).1] at isHere
          cases isHere
          obtain ⟨node, below⟩ := regular_child forest regular segment old found
          exact ⟨⟨node.distinct, fun _ => rfl⟩, below⟩
  | cons next rest ih =>
      apply regular_update forest _ segment regular
        (register_distinct eqv value forest segment (next :: rest) settled regular.distinct)
        (fun other => register_other eqv value forest segment other (next :: rest) settled)
      intro here isHere
      cases found : forest.child? segment with
      | none =>
          rw [(register_absent eqv value forest segment (next :: rest) settled found).1] at isHere
          cases isHere
          exact link_regular value (next :: rest)
      | some old =>
          obtain ⟨target, _, changed, _⟩ :=
            register_below eqv value forest segment next rest settled old found _ _ rfl rfl
          rw [changed] at isHere
          cases isHere
          have below := ih old.children next (old.target.relax eqv value segment settled).settled
            (regular_child forest regular segment old found).2
          exact ⟨⟨below.distinct, fun empty =>
            False.elim (register_nonempty eqv value _ next rest _ empty)⟩, below⟩

theorem register_nodes (eqv : Comparator V) (value : V) (forest : Forest V)
    (segment : Segment) (rest : Path) (settled : Bool) (path : Path) :
    ((forest.register eqv value segment rest settled).forest.node? path).isSome = true ↔
      (forest.node? path).isSome = true ∨ path ≠ [] ∧ path <+: segment :: rest := by
  induction rest generalizing forest segment settled path with
  | nil =>
      cases path with
      | nil => simp
      | cons first path =>
          rw [node_cons, node_cons]
          by_cases same : first = segment
          · subst same
            cases found : forest.child? first with
            | none =>
                rw [(register_absent eqv value forest first [] settled found).1]
                simpa using link_below value [] path
            | some old =>
                rw [(register_last eqv value forest first settled old found).1]
                cases path <;> simp [Node.below?]
          · rw [register_other eqv value forest segment first [] settled same]
            simp [List.cons_prefix_cons, same]
  | cons next rest ih =>
      cases path with
      | nil => simp
      | cons first path =>
          rw [node_cons, node_cons]
          by_cases same : first = segment
          · subst same
            cases found : forest.child? first with
            | none =>
                rw [(register_absent eqv value forest first (next :: rest) settled found).1]
                simpa [List.cons_prefix_cons] using link_below value (next :: rest) path
            | some old =>
                obtain ⟨target, _, changed, _⟩ :=
                  register_below eqv value forest first next rest settled old found _ _ rfl rfl
                rw [changed]
                cases path with
                | nil => simp [Node.below?]
                | cons second path =>
                    simpa [Node.below?, List.cons_prefix_cons] using
                      ih old.children next (old.target.relax eqv value first settled).settled
                        (second :: path)
          · rw [register_other eqv value forest segment first (next :: rest) settled same]
            simp [List.cons_prefix_cons, same]

theorem detach_calm (eqv : Comparator V) (forest : Forest V) (segment : Segment) (rest : Path)
    (distinct : forest.segments.Nodup)
    (calm : ¬ (forest.detach eqv segment rest).rising = true)
    (empty : (forest.detach eqv segment rest).forest = .nil) : forest = .nil := by
  cases found : forest.child? segment with
  | none => exact (detach_absent eqv forest segment rest found).1.symm.trans empty
  | some here =>
      cases rest with
      | nil => exact False.elim (calm (detach_last eqv forest segment here distinct found).2)
      | cons next rest =>
          obtain ⟨changed, rising⟩ :=
            detach_below eqv forest segment next rest here distinct found _ rfl
          rw [empty, child?] at changed
          have gone := Option.map_eq_none_iff.mp changed.symm
          by_cases below : (here.children.detach eqv next rest).rising = true
          · exact False.elim (calm (rising.mpr ⟨below, by simp [gone]⟩))
          · simp [revised, below] at gone

theorem detach_every (P : Node V → Prop) (eqv : Comparator V)
    (step : ∀ old next rest target, old.Regular → old.children.Regular → P old →
      revised eqv old.target (old.children.detach eqv next rest) = some target →
      P ⟨target, (old.children.detach eqv next rest).forest⟩)
    (forest : Forest V) (segment : Segment) (rest : Path) (regular : forest.Regular)
    (every : forest.Every P) : (forest.detach eqv segment rest).forest.Every P := by
  induction rest generalizing forest segment with
  | nil =>
      apply every_update P forest _ segment
        ((detach_segments eqv forest segment []).nodup regular.distinct) every
        (fun other => detach_other eqv forest segment other [])
      intro here isHere
      cases found : forest.child? segment with
      | none =>
          rw [(detach_absent eqv forest segment [] found).1, found] at isHere
          cases isHere
      | some old =>
          rw [(detach_last eqv forest segment old regular.distinct found).1] at isHere
          cases isHere
  | cons next rest ih =>
      apply every_update P forest _ segment
        ((detach_segments eqv forest segment (next :: rest)).nodup regular.distinct) every
        (fun other => detach_other eqv forest segment other (next :: rest))
      intro here isHere
      cases found : forest.child? segment with
      | none =>
          rw [(detach_absent eqv forest segment (next :: rest) found).1, found] at isHere
          cases isHere
      | some old =>
          obtain ⟨node, below⟩ := regular_child forest regular segment old found
          obtain ⟨holds, everyBelow⟩ := every_child P forest every segment old found
          obtain ⟨target, kept, rfl⟩ :=
            detach_child eqv forest segment next rest old here regular.distinct found isHere
          exact ⟨step old next rest target node below holds kept,
            ih old.children next below everyBelow⟩

theorem detach_regular (eqv : Comparator V) (forest : Forest V) (segment : Segment)
    (rest : Path) (regular : forest.Regular) :
    (forest.detach eqv segment rest).forest.Regular := by
  refine ⟨(detach_segments eqv forest segment rest).nodup regular.distinct, ?_⟩
  refine detach_every Node.Regular eqv ?_ forest segment rest regular regular.every
  intro old next rest target node below _ kept
  refine ⟨(detach_segments eqv old.children next rest).nodup below.distinct, ?_⟩
  intro empty
  by_cases rising : (old.children.detach eqv next rest).rising = true
  · rw [revised_childless eqv old.target _ rising empty] at kept
    by_cases routed : old.target.isRoute = true
    · rw [if_pos routed, Option.some.injEq] at kept
      exact kept ▸ routed
    · rw [if_neg routed] at kept
      cases kept
  · have gone := detach_calm eqv old.children next rest below.distinct rising empty
    have same : old.target = target := by simpa [revised, rising] using kept
    exact same ▸ node.ends gone

theorem detach_nodes (eqv : Comparator V) (forest : Forest V) (segment : Segment)
    (rest path : Path) (regular : forest.Regular)
    (remains : ((forest.detach eqv segment rest).forest.node? path).isSome = true) :
    (forest.node? path).isSome = true := by
  induction rest generalizing forest segment path with
  | nil =>
      cases path with
      | nil => cases remains
      | cons first path =>
          rw [node_cons] at remains ⊢
          by_cases same : first = segment
          · subst same
            cases found : forest.child? first with
            | none =>
                rw [(detach_absent eqv forest first [] found).1, found] at remains
                exact remains
            | some old =>
                rw [(detach_last eqv forest first old regular.distinct found).1] at remains
                cases remains
          · rwa [detach_other eqv forest segment first [] same] at remains
  | cons next rest ih =>
      cases path with
      | nil => cases remains
      | cons first path =>
          rw [node_cons] at remains ⊢
          by_cases same : first = segment
          · subst same
            cases found : forest.child? first with
            | none =>
                rw [(detach_absent eqv forest first (next :: rest) found).1, found] at remains
                exact remains
            | some old =>
                rw [(detach_below eqv forest first next rest old regular.distinct found _ rfl).1]
                  at remains
                cases path with
                | nil => rfl
                | cons second path =>
                    cases kept : revised eqv old.target (old.children.detach eqv next rest) with
                    | none => simp [kept] at remains
                    | some settled =>
                        simp only [kept, Option.map_some, Option.bind_some, Node.below?]
                          at remains
                        exact ih old.children next (second :: path)
                          (regular_child forest regular first old found).2 remains
          · rwa [detach_other eqv forest segment first (next :: rest) same] at remains

theorem reconcile_empty (eqv : Comparator V) (forest : Forest V)
    (empty : forest.reconcile eqv = .nil) : forest = .nil := by
  cases forest with
  | nil => rfl
  | node segment target children siblings => cases empty

theorem reconcile_regular (eqv : Comparator V) (forest : Forest V) (regular : forest.Regular) :
    (forest.reconcile eqv).Regular := by
  refine ⟨by rw [reconcile_segments]; exact regular.distinct, ?_⟩
  obtain ⟨distinct, every⟩ := regular
  clear distinct
  induction forest with
  | nil => trivial
  | node segment target children siblings ihChildren ihSiblings =>
      obtain ⟨node, below, beside⟩ := every
      refine ⟨⟨?_, ?_⟩, ihChildren below, ihSiblings beside⟩
      · rw [reconcile_segments]
        exact node.distinct
      · intro empty
        have childless := reconcile_empty eqv children empty
        rw [childless]
        exact node.ends childless

end TopicRouting.Forest
