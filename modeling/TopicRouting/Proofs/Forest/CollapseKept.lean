import TopicRouting.Proofs.Forest.Collapse

/-!
Every change keeps the collapse invariant. Going down, registration stops clearing at the first
equivalent value, and coming up, revision stops at the first node it leaves alone; both are right
because everything below a value agrees with it.
-/

set_option autoImplicit false

namespace TopicRouting.Forest

universe u

variable {V : Type u}

/-! ## Registration -/

theorem link_value (value : V) (rest : Path) : (link value rest).target.value? = some value := by
  cases rest <;> rfl

theorem link_settled (eqv : Comparator V) (lawful : eqv.IsEquivalence) (value : V)
    (rest : Path) :
    (link value rest).Settled eqv ∧ (link value rest).children.Collapsed eqv := by
  induction rest with
  | nil => exact ⟨⟨fun _ _ => rfl, fun _ => rfl⟩, trivial⟩
  | cons next rest ih =>
      have same := lawful.refl value
      refine ⟨Node.settled_valued eqv _ value (link_value value _) ?_, ?_⟩
      · rw [link, chain_link, follows, link_value]
        simpa [follows] using same
      · rw [link, chain_link]
        exact ⟨ih.1, ih.2, trivial⟩

theorem relax_absent (eqv : Comparator V) (value : V) (segment : Segment) (target : Target V)
    (absent : target.value? = none) :
    target.relax eqv value segment false = ⟨target, false, []⟩ := by
  simp [Target.relax, absent]

theorem relax_agreeing (eqv : Comparator V) (value held : V) (segment : Segment)
    (target : Target V) (valued : target.value? = some held) (same : eqv held value = true) :
    target.relax eqv value segment false =
      ⟨target, true, [Journal.alreadyConsistent segment]⟩ := by
  simp [Target.relax, valued, same]

theorem relax_cleared (eqv : Comparator V) (value held : V) (segment : Segment)
    (target : Target V) (valued : target.value? = some held) (different : ¬ eqv held value = true) :
    target.relax eqv value segment false =
      ⟨.undecided, false, [Journal.optimizationCancelled segment]⟩ := by
  simp [Target.relax, valued, different]

theorem relax_agrees (eqv : Comparator V) (lawful : eqv.IsEquivalence) (value : V)
    (segment : Segment) (settled : Bool) (target : Target V)
    (context : settled = true → ∃ held, target.value? = some held ∧ eqv value held = true)
    (stops : (target.relax eqv value segment settled).settled = true) :
    (target.relax eqv value segment settled).target = target ∧
      ∃ held, target.value? = some held ∧ eqv held value = true := by
  cases settled with
  | true =>
      obtain ⟨held, valued, same⟩ := context rfl
      exact ⟨rfl, held, valued, lawful.symm same⟩
  | false =>
      cases old : target.value? with
      | none =>
          rw [relax_absent eqv value segment target old] at stops
          cases stops
      | some held =>
          by_cases same : eqv held value = true
          · rw [relax_agreeing eqv value held segment target old same]
            exact ⟨rfl, held, rfl, same⟩
          · rw [relax_cleared eqv value held segment target old same] at stops
            cases stops

theorem relax_unsettled (eqv : Comparator V) (value : V) (segment : Segment) (settled : Bool)
    (target : Target V) (open_ : (target.relax eqv value segment settled).settled = false) :
    (target.relax eqv value segment settled).target = .undecided ∧
      (target.value? = none ∨ ∃ held, target.value? = some held ∧ ¬ eqv held value = true) := by
  cases settled with
  | true => cases open_
  | false =>
      cases old : target.value? with
      | none =>
          rw [relax_absent eqv value segment target old]
          exact ⟨undecided_of_none target old, Or.inl rfl⟩
      | some held =>
          by_cases same : eqv held value = true
          · rw [relax_agreeing eqv value held segment target old same] at open_
            cases open_
          · rw [relax_cleared eqv value held segment target old same]
            exact ⟨rfl, Or.inr ⟨held, rfl, same⟩⟩

theorem follows_context (eqv : Comparator V) (value : V) (forest : Forest V) (segment : Segment)
    (here : Node V) (found : forest.child? segment = some here) (settled : Bool)
    (context : settled = true → forest.follows eqv value = true) :
    settled = true → ∃ held, here.target.value? = some held ∧ eqv value held = true :=
  fun stops => (follows_tops eqv value forest).mp (context stops) segment here
    (tops_of_child segment forest here found)

theorem relax_below (eqv : Comparator V) (lawful : eqv.IsEquivalence) (value : V)
    (segment : Segment) (settled : Bool) (here : Node V) (node : here.Settled eqv)
    (context : settled = true → ∃ held, here.target.value? = some held ∧ eqv value held = true)
    (stops : (here.target.relax eqv value segment settled).settled = true) :
    here.children.follows eqv value = true := by
  obtain ⟨_, held, valued, same⟩ :=
    relax_agrees eqv lawful value segment settled here.target context stops
  exact follows_equivalent eqv lawful held value _ same (node.sound held valued)

theorem register_follows (eqv : Comparator V) (lawful : eqv.IsEquivalence) (value : V)
    (forest : Forest V) (segment : Segment) (rest : Path) (settled : Bool)
    (distinct : forest.segments.Nodup) (follows : forest.follows eqv value = true) :
    (forest.register eqv value segment rest settled).forest.follows eqv value = true := by
  rw [follows_iff eqv value _ distinct] at follows
  rw [follows_iff eqv value _ (register_distinct eqv value forest segment rest settled distinct)]
  intro other here found
  by_cases same : other = segment
  · subst same
    cases old : forest.child? other with
    | none =>
        rw [(register_absent eqv value forest other rest settled old).1] at found
        cases found
        exact ⟨value, link_value value rest, lawful.refl value⟩
    | some before =>
        cases rest with
        | nil =>
            rw [(register_last eqv value forest other settled before old).1] at found
            cases found
            exact ⟨value, rfl, lawful.refl value⟩
        | cons next rest =>
            obtain ⟨held, valued, agrees⟩ := follows other before old
            obtain ⟨target, kept, changed, _⟩ :=
              register_below eqv value forest other next rest settled before old _ _ rfl rfl
            have still : (before.target.relax eqv value other settled).target = before.target := by
              cases settled with
              | true => rfl
              | false => rw [relax_agreeing eqv value held other _ valued (lawful.symm agrees)]
            rw [still] at kept
            have unchanged := revised_valued eqv _ _ held valued target kept
            rw [changed] at found
            cases found
            exact ⟨held, unchanged ▸ valued, agrees⟩
  · rw [register_other eqv value forest segment other rest settled same] at found
    exact follows other here found

-- Where the revision stops, the child on the path has no value or had an equivalent one before.
theorem register_calm (eqv : Comparator V) (lawful : eqv.IsEquivalence) (value : V)
    (forest : Forest V) (segment : Segment) (rest : Path) (settled : Bool)
    (context : settled = true → forest.follows eqv value = true)
    (calm : ¬ (forest.register eqv value segment rest settled).rising = true) :
    ∃ old new, forest.child? segment = some old ∧
      (forest.register eqv value segment rest settled).forest.child? segment = some new ∧
      (new.target.value? = none ∨
        new.target = old.target ∧ ∃ held, old.target.value? = some held ∧ eqv held value = true) := by
  cases found : forest.child? segment with
  | none => exact False.elim (calm (register_absent eqv value forest segment rest settled found).2)
  | some old =>
      cases rest with
      | nil => exact False.elim (calm (register_last eqv value forest segment settled old found).2)
      | cons next rest =>
          obtain ⟨target, kept, changed, rising⟩ :=
            register_below eqv value forest segment next rest settled old found _ _ rfl rfl
          have stays := revised_unmoved eqv _ _ _ (by rw [kept]; simpa using rising) calm
          have unmoved := Option.some.inj (kept.symm.trans stays)
          refine ⟨old, _, rfl, changed, ?_⟩
          cases stops : (old.target.relax eqv value segment settled).settled with
          | false =>
              have cleared := (relax_unsettled eqv value segment settled old.target stops).1
              exact Or.inl (by rw [unmoved, cleared]; rfl)
          | true =>
              obtain ⟨same, agrees⟩ := relax_agrees eqv lawful value segment settled old.target
                (follows_context eqv value forest segment old found settled context) stops
              exact Or.inr ⟨unmoved.trans same, agrees⟩

theorem register_differ (eqv : Comparator V) (lawful : eqv.IsEquivalence) (value : V)
    (here : Node V) (node : here.Settled eqv) (distinct : here.children.segments.Nodup)
    (next : Segment) (rest : Path)
    (cleared : here.target.value? = none ∨
      ∃ held, here.target.value? = some held ∧ ¬ eqv held value = true)
    (calm : ¬ (here.children.register eqv value next rest false).rising = true) :
    (here.children.register eqv value next rest false).forest.uniformValue? eqv = none := by
  rw [uniform_none eqv lawful]
  refine Or.inr fun common follows => ?_
  have noContext : false = true → here.children.follows eqv value = true := fun never => nomatch never
  obtain ⟨before, after, isBefore, isAfter, either⟩ :=
    register_calm eqv lawful value here.children next rest false noContext calm
  rw [follows_iff eqv common _
    (register_distinct eqv value here.children next rest false distinct)] at follows
  obtain ⟨last, isLast, agrees⟩ := follows next after isAfter
  rcases either with none | ⟨same, held, valued, equivalent⟩
  · rw [none] at isLast
    cases isLast
  · have beforeFollows : here.children.follows eqv common = true := by
      rw [follows_iff eqv common _ distinct]
      intro other child found
      by_cases atNext : other = next
      · subst atNext
        rw [isBefore] at found
        cases found
        exact ⟨last, same ▸ isLast, agrees⟩
      · exact follows other child
          (by rwa [register_other eqv value here.children next other rest false atNext])
    rcases cleared with none | ⟨old, isOld, different⟩
    · rcases (uniform_none eqv lawful _).mp (node.complete none) with empty | differ
      · rw [empty] at isBefore
        cases isBefore
      · exact differ common beforeFollows
    · obtain ⟨child, isChild, close⟩ := (follows_iff eqv old _ distinct).mp
        (node.sound old isOld) next before isBefore
      rw [valued] at isChild
      cases isChild
      exact different (lawful.trans close equivalent)

theorem register_settled (eqv : Comparator V) (lawful : eqv.IsEquivalence) (value : V)
    (segment next : Segment) (rest : Path) (settled : Bool) (old : Node V)
    (node : old.Settled eqv) (distinct : old.children.segments.Nodup)
    (context : settled = true → ∃ held, old.target.value? = some held ∧ eqv value held = true)
    (relaxed : Relaxed V) (relaxes : relaxed = old.target.relax eqv value segment settled)
    (target : Target V)
    (kept : revised eqv relaxed.target
      (old.children.register eqv value next rest relaxed.settled) = some target) :
    Node.Settled eqv
      ⟨target, (old.children.register eqv value next rest relaxed.settled).forest⟩ := by
  subst relaxes
  cases stops : (old.target.relax eqv value segment settled).settled with
  | true =>
      -- The value stays, and the changed children still agree with it.
      obtain ⟨same, held, valued, agrees⟩ :=
        relax_agrees eqv lawful value segment settled old.target context stops
      rw [same] at kept
      have unchanged := revised_valued eqv _ _ held valued target kept
      have follows := register_follows eqv lawful value old.children next rest true distinct
        (relax_below eqv lawful value segment settled old node context stops)
      exact Node.settled_valued eqv _ held (by rw [unchanged]; exact valued)
        (follows_equivalent eqv lawful value held _ (lawful.symm agrees) follows)
  | false =>
      obtain ⟨empty, cleared⟩ := relax_unsettled eqv value segment settled old.target stops
      rw [stops, empty] at kept
      exact revised_settled eqv lawful _ target kept
        (register_differ eqv lawful value old node distinct next rest cleared)

theorem register_collapsed (eqv : Comparator V) (lawful : eqv.IsEquivalence) (value : V)
    (forest : Forest V) (segment : Segment) (rest : Path) (settled : Bool)
    (regular : forest.Regular) (collapsed : forest.Collapsed eqv)
    (accepted : ∀ here, forest.node? (segment :: rest) = some here →
      here.children.follows eqv value = true)
    (context : settled = true → forest.follows eqv value = true) :
    (forest.register eqv value segment rest settled).forest.Collapsed eqv := by
  induction rest generalizing forest segment settled with
  | nil =>
      apply every_update _ forest _ segment
        (register_distinct eqv value forest segment [] settled regular.distinct) collapsed
        (fun other => register_other eqv value forest segment other [] settled)
      intro here isHere
      cases found : forest.child? segment with
      | none =>
          rw [(register_absent eqv value forest segment [] settled found).1] at isHere
          cases isHere
          exact link_settled eqv lawful value []
      | some old =>
          rw [(register_last eqv value forest segment settled old found).1] at isHere
          cases isHere
          have agrees := accepted old (by rw [node_cons, found]; rfl)
          exact ⟨Node.settled_valued eqv _ value rfl agrees,
            (every_child _ forest collapsed segment old found).2⟩
  | cons next rest ih =>
      apply every_update _ forest _ segment
        (register_distinct eqv value forest segment (next :: rest) settled regular.distinct)
        collapsed
        (fun other => register_other eqv value forest segment other (next :: rest) settled)
      intro here isHere
      cases found : forest.child? segment with
      | none =>
          rw [(register_absent eqv value forest segment (next :: rest) settled found).1] at isHere
          cases isHere
          exact link_settled eqv lawful value (next :: rest)
      | some old =>
          obtain ⟨node, collapsedBelow⟩ := every_child _ forest collapsed segment old found
          have regularBelow := (regular_child forest regular segment old found).2
          obtain ⟨target, kept, changed, _⟩ :=
            register_below eqv value forest segment next rest settled old found _ _ rfl rfl
          rw [changed] at isHere
          cases isHere
          have contextHere := follows_context eqv value forest segment old found settled context
          have acceptedBelow : ∀ here, old.children.node? (next :: rest) = some here →
              here.children.follows eqv value = true := by
            intro here isHere
            exact accepted here (by rw [node_cons, found]; exact isHere)
          -- Below the node the induction hypothesis, and for the node itself its revision.
          exact ⟨register_settled eqv lawful value segment next rest settled old node
              regularBelow.distinct contextHere _ rfl target kept,
            ih old.children next _ regularBelow collapsedBelow acceptedBelow
              (relax_below eqv lawful value segment settled old node contextHere)⟩

/-! ## Detaching -/

theorem detach_follows (eqv : Comparator V) (common : V) (forest : Forest V) (segment : Segment)
    (rest : Path) (distinct : forest.segments.Nodup)
    (follows : forest.follows eqv common = true) :
    (forest.detach eqv segment rest).forest.follows eqv common = true := by
  rw [follows_iff eqv common _ distinct] at follows
  rw [follows_iff eqv common _ ((detach_segments eqv forest segment rest).nodup distinct)]
  intro other here remains
  by_cases same : other = segment
  · subst same
    cases found : forest.child? other with
    | none =>
        rw [(detach_absent eqv forest other rest found).1, found] at remains
        cases remains
    | some old =>
        obtain ⟨held, valued, agrees⟩ := follows other old found
        cases rest with
        | nil =>
            rw [(detach_last eqv forest other old distinct found).1] at remains
            cases remains
        | cons next rest =>
            obtain ⟨target, kept, rfl⟩ :=
              detach_child eqv forest other next rest old here distinct found remains
            exact ⟨held, revised_valued eqv _ _ held valued target kept ▸ valued, agrees⟩
  · rw [detach_other eqv forest segment other rest same] at remains
    exact follows other here remains

-- Where the revision stops, the values of the siblings are the old ones.
theorem detach_calm_follows (eqv : Comparator V) (common : V) (forest : Forest V)
    (segment : Segment) (rest : Path) (distinct : forest.segments.Nodup)
    (calm : ¬ (forest.detach eqv segment rest).rising = true)
    (follows : (forest.detach eqv segment rest).forest.follows eqv common = true) :
    forest.follows eqv common = true := by
  rw [follows_iff eqv common _ ((detach_segments eqv forest segment rest).nodup distinct)]
    at follows
  rw [follows_iff eqv common _ distinct]
  intro other old found
  by_cases same : other = segment
  · subst same
    cases rest with
    | nil => exact False.elim (calm (detach_last eqv forest other old distinct found).2)
    | cons next rest =>
        obtain ⟨changed, rising⟩ :=
          detach_below eqv forest other next rest old distinct found _ rfl
        have kept := revised_unmoved eqv old.target _ _ rising calm
        rw [kept, Option.map_some] at changed
        obtain ⟨held, valued, agrees⟩ := follows other _ changed
        exact ⟨held, valued, agrees⟩
  · exact follows other old (by rwa [detach_other eqv forest segment other rest same])

theorem detach_settled (eqv : Comparator V) (lawful : eqv.IsEquivalence) (next : Segment)
    (rest : Path) (old : Node V) (node : old.Settled eqv)
    (distinct : old.children.segments.Nodup) (target : Target V)
    (kept : revised eqv old.target (old.children.detach eqv next rest) = some target) :
    Node.Settled eqv ⟨target, (old.children.detach eqv next rest).forest⟩ := by
  cases valued : old.target.value? with
  | some held =>
      have unchanged := revised_valued eqv _ _ held valued target kept
      exact Node.settled_valued eqv _ held (by rw [unchanged]; exact valued)
        (detach_follows eqv held old.children next rest distinct (node.sound held valued))
  | none =>
      rw [undecided_of_none _ valued] at kept
      apply revised_settled eqv lawful _ target kept
      intro calm
      rw [uniform_none eqv lawful]
      rcases (uniform_none eqv lawful _).mp (node.complete valued) with empty | differ
      · exact Or.inl (by rw [empty]; rfl)
      · exact Or.inr fun common follows => differ common
          (detach_calm_follows eqv common _ next rest distinct calm follows)

theorem detach_collapsed (eqv : Comparator V) (lawful : eqv.IsEquivalence) (forest : Forest V)
    (segment : Segment) (rest : Path) (regular : forest.Regular)
    (collapsed : forest.Collapsed eqv) :
    (forest.detach eqv segment rest).forest.Collapsed eqv := by
  refine detach_every (Node.Settled eqv) eqv ?_ forest segment rest regular collapsed
  intro old next rest target _ below node kept
  exact detach_settled eqv lawful next rest old node below.distinct target kept

/-! ## Reconciliation -/

theorem reconciled_settled (eqv : Comparator V) (lawful : eqv.IsEquivalence) (target : Target V)
    (children : Forest V) :
    Node.Settled eqv ⟨reconciledTarget eqv target children, children⟩ := by
  cases children with
  | nil => exact ⟨fun _ _ => rfl, fun _ => rfl⟩
  | node segment held below siblings =>
      have uniform := Node.settled_uniform eqv lawful (node segment held below siblings)
      cases target with
      | undecided => exact uniform
      | collapsed value => exact uniform
      | route value =>
          by_cases agrees : (node segment held below siblings).agreesWith eqv value = true
          · rw [reconciledTarget, if_pos agrees]
            exact Node.settled_valued eqv _ value rfl
              ((agrees_follows eqv lawful value _).mp agrees)
          · rw [reconciledTarget, if_neg agrees]
            exact uniform

theorem reconcile_collapsed (eqv : Comparator V) (lawful : eqv.IsEquivalence)
    (forest : Forest V) : (forest.reconcile eqv).Collapsed eqv := by
  induction forest with
  | nil => trivial
  | node segment target children siblings ihChildren ihSiblings =>
      exact ⟨reconciled_settled eqv lawful target _, ihChildren, ihSiblings⟩

end TopicRouting.Forest
