import TopicRouting.Proofs.Forest.Detached
import TopicRouting.Proofs.Forest.Reconciled

/-!
Where collapsed values come from. A node that collapses takes the value of one of its children, so
below it there is a route with that very value, unless the child went away since; then its routes
went too. The invariant says so of one node and its children, for any collection of values that
are excused because routes with them were taken.
-/

set_option autoImplicit false

namespace TopicRouting

universe u

variable {V : Type u}

-- A collapsed value is excused or that of a child.
def Node.Borrows (gone : V → Prop) (here : Node V) : Prop :=
  ∀ value, here.target = .collapsed value → gone value ∨
    ∃ segment child, here.children.child? segment = some child ∧ child.target.value? = some value

namespace Node

theorem borrows_more (gone lost : V → Prop) (more : ∀ value, gone value → lost value)
    (here : Node V) (borrows : here.Borrows gone) : here.Borrows lost :=
  fun value collapsed => (borrows value collapsed).imp_left (more value)

theorem leads_back (gone : V → Prop) (here : Node V) (borrows : here.Borrows gone)
    (every : here.children.Every (Borrows gone)) (value : V)
    (valued : here.target.value? = some value) : gone value ∨ here.Leads value := by
  induction here using childwise with
  | step here ih =>
      cases target : here.target with
      | undecided =>
          rw [target] at valued
          cases valued
      | route own =>
          rw [target] at valued
          cases valued
          exact Or.inr ⟨[], here, rfl, target⟩
      | collapsed own =>
          rw [target] at valued
          cases valued
          cases borrows value target with
          | inl excused => exact Or.inl excused
          | inr lent =>
              obtain ⟨segment, child, isChild, valuedChild⟩ := lent
              obtain ⟨childBorrows, below⟩ := Forest.every_child _ _ every segment child isChild
              exact (ih segment child isChild childBorrows below valuedChild).imp_right
                (leads_child here child segment value isChild)

end Node

namespace Forest

theorem every_more (gone lost : V → Prop) (more : ∀ value, gone value → lost value)
    (forest : Forest V) (every : forest.Every (Node.Borrows gone)) :
    forest.Every (Node.Borrows lost) := by
  induction forest with
  | nil => trivial
  | node segment target children siblings ihChildren ihSiblings =>
      obtain ⟨here, below, beside⟩ := every
      exact ⟨Node.borrows_more gone lost more _ here, ihChildren below, ihSiblings beside⟩

theorem uniform_lent (eqv : Comparator V) (forest : Forest V) (value : V)
    (uniform : forest.uniformValue? eqv = some value) :
    ∃ segment child, forest.child? segment = some child ∧ child.target.value? = some value := by
  cases forest with
  | nil => cases uniform
  | node segment target children siblings =>
      refine ⟨segment, ⟨target, children⟩, by rw [child?, if_pos rfl], ?_⟩
      exact (Option.filter_eq_some_iff.mp uniform).1

theorem revised_lent (eqv : Comparator V) (below : Change V) (value : V)
    (kept : revised eqv .undecided below = some (.collapsed value)) :
    ∃ segment child, below.forest.child? segment = some child ∧
      child.target.value? = some value := by
  by_cases rising : below.rising = true
  · have settled := revised_undecided eqv below rising _ kept
    cases uniform : below.forest.uniformValue? eqv with
    | none =>
        rw [uniform] at settled
        cases settled
    | some shared =>
        rw [uniform] at settled
        cases settled
        exact uniform_lent eqv below.forest value uniform
  · rw [revised_calm eqv .undecided below rising] at kept
    cases kept

theorem link_borrows (gone : V → Prop) (value : V) (rest : Path) :
    (link value rest).Borrows gone ∧ (link value rest).children.Every (Node.Borrows gone) := by
  induction rest with
  | nil => exact ⟨fun _ collapsed => (nomatch collapsed), trivial⟩
  | cons next rest ih =>
      constructor
      · intro held collapsed
        cases collapsed
        exact Or.inr ⟨next, link value rest, by rw [link, chain_link, child?, if_pos rfl],
          link_value value rest⟩
      · rw [link, chain_link]
        exact ⟨ih.1, ih.2, trivial⟩

theorem relax_left (eqv : Comparator V) (value held : V) (segment : Segment) (settled : Bool)
    (target : Target V)
    (valued : (target.relax eqv value segment settled).target.value? = some held) :
    (target.relax eqv value segment settled).target = target ∧
      (target.relax eqv value segment settled).settled = true := by
  cases settled with
  | true => exact ⟨rfl, rfl⟩
  | false =>
      cases old : target.value? with
      | none =>
          rw [relax_absent eqv value segment target old] at valued
          cases old.symm.trans valued
      | some own =>
          by_cases same : eqv own value = true
          · rw [relax_agreeing eqv value own segment target old same]
            exact ⟨rfl, rfl⟩
          · rw [relax_cleared eqv value own segment target old same] at valued
            cases valued

theorem register_lent (eqv : Comparator V) (value own : V) (forest : Forest V)
    (next : Segment) (rest : Path)
    (accepted : ∀ here, forest.node? (next :: rest) = some here → here.target.value? = none)
    (segment : Segment) (child : Node V) (found : forest.child? segment = some child)
    (valued : child.target.value? = some own) :
    ∃ later, (forest.register eqv value next rest true).forest.child? segment = some later ∧
      later.target.value? = some own := by
  by_cases same : segment = next
  · subst same
    cases rest with
    | nil => cases valued.symm.trans (accepted child (by rw [node_cons, found]; rfl))
    | cons second rest =>
        obtain ⟨target, kept, changed, _⟩ :=
          register_below eqv value forest segment second rest true child found _ _ rfl rfl
        have stays := revised_valued eqv child.target _ own valued target kept
        exact ⟨_, changed, stays ▸ valued⟩
  · exact ⟨child, (register_other eqv value forest next segment rest true same).trans found, valued⟩

theorem register_borrows (gone : V → Prop) (eqv : Comparator V) (value : V) (forest : Forest V)
    (segment : Segment) (rest : Path) (settled : Bool) (regular : forest.Regular)
    (every : forest.Every (Node.Borrows gone))
    (accepted : ∀ here, forest.node? (segment :: rest) = some here →
      rest = [] ∨ here.target.value? = none) :
    (forest.register eqv value segment rest settled).forest.Every (Node.Borrows gone) := by
  induction rest generalizing forest segment settled with
  | nil =>
      apply every_update _ forest _ segment
        (register_distinct eqv value forest segment [] settled regular.distinct) every
        (fun other => register_other eqv value forest segment other [] settled)
      intro here isHere
      cases found : forest.child? segment with
      | none =>
          rw [(register_absent eqv value forest segment [] settled found).1] at isHere
          cases isHere
          exact link_borrows gone value []
      | some old =>
          rw [(register_last eqv value forest segment settled old found).1] at isHere
          cases isHere
          exact ⟨fun _ collapsed => (nomatch collapsed),
            (every_child _ forest every segment old found).2⟩
  | cons next rest ih =>
      apply every_update _ forest _ segment
        (register_distinct eqv value forest segment (next :: rest) settled regular.distinct) every
        (fun other => register_other eqv value forest segment other (next :: rest) settled)
      intro here isHere
      cases found : forest.child? segment with
      | none =>
          rw [(register_absent eqv value forest segment (next :: rest) settled found).1] at isHere
          cases isHere
          exact link_borrows gone value (next :: rest)
      | some old =>
          obtain ⟨borrows, everyBelow⟩ := every_child _ forest every segment old found
          have below := (regular_child forest regular segment old found).2
          have acceptedBelow : ∀ here, old.children.node? (next :: rest) = some here →
              here.target.value? = none := by
            intro here isLast
            have whole : forest.node? (segment :: next :: rest) = some here := by
              rw [node_cons, found]
              exact isLast
            exact (accepted here whole).resolve_left (fun empty => nomatch empty)
          obtain ⟨target, kept, changed, _⟩ :=
            register_below eqv value forest segment next rest settled old found _ _ rfl rfl
          rw [changed] at isHere
          cases isHere
          refine ⟨?_, ih old.children next _ below everyBelow
            fun here isLast => Or.inr (acceptedBelow here isLast)⟩
          intro own collapsed
          -- Either the value was cleared and the node takes one from a child anew, or the node was
          -- left alone, and so was the child it had its value from.
          cases relaxed : (old.target.relax eqv value segment settled).target.value? with
          | none =>
              rw [undecided_of_none _ relaxed] at kept
              exact Or.inr (revised_lent eqv _ own (kept.trans (congrArg some collapsed)))
          | some held =>
              obtain ⟨left, stops⟩ := relax_left eqv value held segment settled old.target relaxed
              have stays := revised_valued eqv _ _ held relaxed target kept
              have before : old.target = .collapsed own := by
                rw [← left, ← stays]
                exact collapsed
              refine (borrows own before).imp_right fun lent => ?_
              obtain ⟨other, child, isChild, valued⟩ := lent
              simp only [stops]
              obtain ⟨later, isLater, still⟩ := register_lent eqv value own old.children next rest
                acceptedBelow other child isChild valued
              exact ⟨other, later, isLater, still⟩

theorem route_below (forest : Forest V) (segment : Segment) (here : Node V)
    (found : forest.child? segment = some here) (path : Path) (below : Node V) (value : V)
    (isBelow : here.below? path = some below) (routed : below.target = .route value) :
    forest.routeAt? (segment :: path) = some value := by
  rw [route_at_cons, found, Option.bind_some, isBelow, Option.bind_some, routed]
  rfl

theorem detach_lent (gone : V → Prop) (eqv : Comparator V) (own : V) (forest : Forest V)
    (regular : forest.Regular) (every : forest.Every (Node.Borrows gone)) (next : Segment)
    (rest : Path)
    (taken : ∀ path value, forest.routeAt? (next :: (rest ++ path)) = some value → gone value)
    (segment : Segment) (child : Node V) (found : forest.child? segment = some child)
    (valued : child.target.value? = some own) :
    gone own ∨ ∃ later, (forest.detach eqv next rest).forest.child? segment = some later ∧
      later.target.value? = some own := by
  by_cases same : segment = next
  · subst same
    obtain ⟨borrows, everyBelow⟩ := every_child _ forest every segment child found
    have traced := child.leads_back gone borrows everyBelow own valued
    cases rest with
    | nil =>
        refine Or.inl (traced.elim id fun leads => ?_)
        obtain ⟨path, below, isBelow, routed⟩ := leads
        exact taken path own (route_below forest segment child found path below own isBelow routed)
    | cons second rest =>
        obtain ⟨changed, _⟩ :=
          detach_below eqv forest segment second rest child regular.distinct found _ rfl
        cases kept : revised eqv child.target (child.children.detach eqv second rest) with
        | some target =>
            have stays := revised_valued eqv _ _ own valued target kept
            rw [kept, Option.map_some] at changed
            exact Or.inr ⟨_, changed, stays ▸ valued⟩
        | none =>
            -- The child goes away with all below it, so the route that had its value was taken.
            obtain ⟨empty, routeless⟩ := revised_none eqv _ _ kept
            refine Or.inl (traced.elim id fun leads => ?_)
            obtain ⟨path, below, isBelow, routed⟩ := leads
            cases path with
            | nil =>
                cases isBelow
                rw [routed] at routeless
                cases routeless
            | cons third path =>
                have childRegular := (regular_child forest regular segment child found).2
                have left := detach_route eqv child.children second rest childRegular (third :: path)
                have before : child.children.routeAt? (third :: path) = some own := by
                  rw [routeAt?, show child.children.node? (third :: path) = some below from isBelow,
                    Option.bind_some, routed]
                  rfl
                have nothing : (nil : Forest V).routeAt? (third :: path) = none := by
                  rw [routeAt?, nil_node, Option.bind_none]
                rw [empty, before, nothing] at left
                by_cases front : second :: rest <+: third :: path
                · obtain ⟨last, whole⟩ := front
                  have routedWhole :=
                    route_below forest segment child found (third :: path) below own isBelow routed
                  rw [← whole] at routedWhole
                  exact taken last own routedWhole
                · rw [if_neg front] at left
                  cases left
  · exact Or.inr ⟨child, (detach_other eqv forest next segment rest same).trans found, valued⟩

-- What is taken excuses the nodes that borrowed from it.
theorem detach_borrows (gone : V → Prop) (eqv : Comparator V) (forest : Forest V)
    (segment : Segment) (rest : Path) (regular : forest.Regular)
    (every : forest.Every (Node.Borrows gone))
    (taken : ∀ path value, forest.routeAt? (segment :: (rest ++ path)) = some value → gone value) :
    (forest.detach eqv segment rest).forest.Every (Node.Borrows gone) := by
  induction rest generalizing forest segment with
  | nil =>
      apply every_update _ forest _ segment
        ((detach_segments eqv forest segment []).nodup regular.distinct) every
        (fun other => detach_other eqv forest segment other [])
      intro here isHere
      cases found : forest.child? segment with
      | none =>
          rw [(detach_absent eqv forest segment [] found).1, found] at isHere
          cases isHere
      | some old =>
          rw [(detach_last eqv forest segment old regular.distinct found).1] at isHere
          cases isHere
  | cons next rest ih =>
      apply every_update _ forest _ segment
        ((detach_segments eqv forest segment (next :: rest)).nodup regular.distinct) every
        (fun other => detach_other eqv forest segment other (next :: rest))
      intro here isHere
      cases found : forest.child? segment with
      | none =>
          rw [(detach_absent eqv forest segment (next :: rest) found).1, found] at isHere
          cases isHere
      | some old =>
          obtain ⟨borrows, everyBelow⟩ := every_child _ forest every segment old found
          have below := (regular_child forest regular segment old found).2
          have takenBelow : ∀ path value,
              old.children.routeAt? (next :: (rest ++ path)) = some value → gone value := by
            intro path value routed
            apply taken path value
            rw [route_at_cons, found]
            exact routed
          obtain ⟨target, kept, rfl⟩ :=
            detach_child eqv forest segment next rest old here regular.distinct found isHere
          refine ⟨?_, ih old.children next below everyBelow takenBelow⟩
          intro own collapsed
          cases valued : old.target.value? with
          | none =>
              rw [undecided_of_none _ valued] at kept
              exact Or.inr (revised_lent eqv _ own (kept.trans (congrArg some collapsed)))
          | some held =>
              have stays := revised_valued eqv _ _ held valued target kept
              cases borrows own (stays ▸ collapsed) with
              | inl excused => exact Or.inl excused
              | inr lent =>
                  obtain ⟨other, child, isChild, valuedChild⟩ := lent
                  exact (detach_lent gone eqv own old.children below everyBelow next rest takenBelow
                    other child isChild valuedChild).imp_right fun lent => ⟨other, lent⟩

theorem uniform_collapsed (shared : Option V) (own : V)
    (collapsed : Target.ofUniform shared = .collapsed own) : shared = some own := by
  cases shared with
  | none => cases collapsed
  | some value =>
      cases collapsed
      rfl

theorem reconciled_collapsed (eqv : Comparator V) (target : Target V) (children : Forest V)
    (inner : children ≠ .nil) (own : V)
    (collapsed : reconciledTarget eqv target children = .collapsed own) :
    children.uniformValue? eqv = some own := by
  cases children with
  | nil => exact False.elim (inner rfl)
  | node segment held below siblings =>
      cases target with
      | undecided => exact uniform_collapsed _ own collapsed
      | collapsed value => exact uniform_collapsed _ own collapsed
      | route value =>
          by_cases agrees : (node segment held below siblings).agreesWith eqv value = true
          · rw [reconciledTarget, if_pos agrees] at collapsed
            cases collapsed
          · rw [reconciledTarget, if_neg agrees] at collapsed
            exact uniform_collapsed _ own collapsed

-- Reconciliation takes every value anew, so nothing has to be excused.
theorem reconcile_borrows (gone : V → Prop) (eqv : Comparator V) (forest : Forest V)
    (every : forest.Every Node.Regular) : (forest.reconcile eqv).Every (Node.Borrows gone) := by
  induction forest with
  | nil => trivial
  | node segment target children siblings ihChildren ihSiblings =>
      obtain ⟨regular, below, beside⟩ := every
      refine ⟨?_, ihChildren below, ihSiblings beside⟩
      intro own collapsed
      by_cases childless : children = .nil
      · have routed := regular.ends childless
        subst childless
        simp only [reconcile, reconciledTarget] at collapsed
        rw [collapsed] at routed
        cases routed
      · have inner := reconcile_nonempty eqv children childless
        exact Or.inr (uniform_lent eqv _ own (reconciled_collapsed eqv target _ inner own collapsed))

end Forest

end TopicRouting
