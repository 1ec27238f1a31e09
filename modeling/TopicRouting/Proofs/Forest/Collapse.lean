import TopicRouting.Proofs.Forest.Regularity

/-!
The collapse invariant: a node with a value has children that all carry an equivalent one, and a
node without a value has children that do not all agree. Every change keeps it for a comparator
that is an equivalence, and reconciliation establishes it whatever was there before.
-/

set_option autoImplicit false

namespace TopicRouting

universe u

variable {V : Type u}

def Comparator.IsEquivalence (eqv : Comparator V) : Prop :=
  Equivalence fun existing incoming => eqv existing incoming = true

theorem Comparator.equality_isEquivalence [DecidableEq V] :
    (Comparator.equality : Comparator V).IsEquivalence := by
  constructor <;> simp_all [equality]

theorem Comparator.sameHost_isEquivalence : Comparator.sameHost.IsEquivalence := by
  constructor <;> simp_all [sameHost]

namespace Forest

theorem follows_tops (eqv : Comparator V) (value : V) (forest : Forest V) :
    forest.follows eqv value = true ↔
      ∀ segment here, (segment, here) ∈ forest.tops →
        ∃ held, here.target.value? = some held ∧ eqv value held = true := by
  induction forest with
  | nil => simp [follows, tops]
  | node first target children siblings _ ih =>
      rw [follows, Bool.and_eq_true, ih, Option.any_eq_true]
      constructor
      · rintro ⟨atHead, later⟩ segment here member
        rcases List.mem_cons.mp member with same | member
        · cases same
          exact atHead
        · exact later segment here member
      · intro each
        exact ⟨each first ⟨target, children⟩ (List.mem_cons_self ..),
          fun segment here member => each segment here (List.mem_cons_of_mem _ member)⟩

theorem follows_iff (eqv : Comparator V) (value : V) (forest : Forest V)
    (distinct : forest.segments.Nodup) :
    forest.follows eqv value = true ↔
      ∀ segment here, forest.child? segment = some here →
        ∃ held, here.target.value? = some held ∧ eqv value held = true := by
  rw [follows_tops]
  constructor
  · intro each segment here found
    exact each segment here (tops_of_child segment forest here found)
  · intro each segment here member
    exact each segment here (child_of_tops segment forest here distinct member)

theorem follows_equivalent (eqv : Comparator V) (lawful : eqv.IsEquivalence) (a b : V)
    (forest : Forest V) (same : eqv a b = true) (follows : forest.follows eqv a = true) :
    forest.follows eqv b = true := by
  rw [follows_tops] at follows ⊢
  intro segment here member
  obtain ⟨held, valued, agrees⟩ := follows segment here member
  exact ⟨held, valued, lawful.trans (lawful.symm same) agrees⟩

theorem agrees_follows (eqv : Comparator V) (lawful : eqv.IsEquivalence) (value : V)
    (forest : Forest V) :
    forest.agreesWith eqv value = true ↔ forest.follows eqv value = true := by
  have swap : ∀ held, eqv held value = true ↔ eqv value held = true :=
    fun held => ⟨fun same => lawful.symm same, fun same => lawful.symm same⟩
  induction forest with
  | nil => rfl
  | node first target children siblings _ ih =>
      simp only [agreesWith, follows, Target.agreesWith, Bool.and_eq_true, ih,
        Option.any_eq_true, swap]

theorem uniform_follows (eqv : Comparator V) (lawful : eqv.IsEquivalence) (value : V)
    (forest : Forest V) (uniform : forest.uniformValue? eqv = some value) :
    forest.follows eqv value = true := by
  cases forest with
  | nil => rfl
  | node first target children siblings =>
      obtain ⟨held, others⟩ := Option.filter_eq_some_iff.mp uniform
      rw [follows, Bool.and_eq_true]
      exact ⟨by simpa [held] using lawful.refl value, others⟩

theorem uniform_none (eqv : Comparator V) (lawful : eqv.IsEquivalence) (forest : Forest V) :
    forest.uniformValue? eqv = none ↔
      forest = .nil ∨ ∀ value, ¬ forest.follows eqv value = true := by
  cases forest with
  | nil => simp [uniformValue?]
  | node first target children siblings =>
      constructor
      · intro none
        refine Or.inr fun value agree => ?_
        obtain ⟨atHead, later⟩ := Bool.and_eq_true_iff.mp agree
        rw [Option.any_eq_true] at atHead
        obtain ⟨held, valued, same⟩ := atHead
        have others := follows_equivalent eqv lawful value held siblings same later
        simp [uniformValue?, valued, others] at none
      · rintro (empty | differ)
        · cases empty
        · cases uniform : (node first target children siblings).uniformValue? eqv with
          | none => rfl
          | some value => exact False.elim (differ value (uniform_follows eqv lawful value _ uniform))

def Unanimous (eqv : Comparator V) (forest : Forest V) : Prop :=
  ∀ a ∈ forest.tops, ∀ b ∈ forest.tops, ∃ value other,
    a.2.target.value? = some value ∧ b.2.target.value? = some other ∧ eqv value other = true

theorem unanimous_iff (eqv : Comparator V) (lawful : eqv.IsEquivalence) (forest : Forest V)
    (nonempty : forest ≠ .nil) :
    forest.Unanimous eqv ↔ ∃ value, forest.follows eqv value = true := by
  constructor
  · intro unanimous
    cases forest with
    | nil => exact False.elim (nonempty rfl)
    | node first target children siblings =>
        have atHead : (first, Node.mk target children) ∈
            (node first target children siblings).tops := List.mem_cons_self ..
        obtain ⟨value, _, valued, _⟩ := unanimous _ atHead _ atHead
        refine ⟨value, (follows_tops eqv value _).mpr ?_⟩
        intro segment here member
        obtain ⟨own, other, isOwn, isOther, same⟩ := unanimous _ atHead _ member
        cases valued.symm.trans isOwn
        exact ⟨other, isOther, same⟩
  · rintro ⟨value, follows⟩ a atA b atB
    obtain ⟨x, isX, toX⟩ := (follows_tops eqv value forest).mp follows a.1 a.2 atA
    obtain ⟨y, isY, toY⟩ := (follows_tops eqv value forest).mp follows b.1 b.2 atB
    exact ⟨x, y, isX, isY, lawful.trans (lawful.symm toX) toY⟩

end Forest

structure Node.Settled (eqv : Comparator V) (here : Node V) : Prop where
  sound : ∀ value, here.target.value? = some value → here.children.follows eqv value = true
  complete : here.target.value? = none → here.children.uniformValue? eqv = none

theorem Node.settled_valued (eqv : Comparator V) (here : Node V) (held : V)
    (valued : here.target.value? = some held) (follows : here.children.follows eqv held = true) :
    here.Settled eqv := by
  refine ⟨?_, fun absent => (nomatch valued.symm.trans absent)⟩
  intro other isOther
  cases valued.symm.trans isOther
  exact follows

theorem Node.settled_none_iff (eqv : Comparator V) (lawful : eqv.IsEquivalence) (here : Node V)
    (settled : here.Settled eqv) (inner : here.children ≠ .nil) :
    here.target.value? = none ↔ ¬ here.children.Unanimous eqv := by
  rw [Forest.unanimous_iff eqv lawful here.children inner, not_exists]
  constructor
  · intro absent
    rcases (Forest.uniform_none eqv lawful here.children).mp (settled.complete absent) with
      empty | differ
    · exact False.elim (inner empty)
    · exact differ
  · intro differ
    cases valued : here.target.value? with
    | none => rfl
    | some value => exact False.elim (differ value (settled.sound value valued))

theorem Node.settled_follows (eqv : Comparator V) (lawful : eqv.IsEquivalence) (here : Node V)
    (settled : here.Settled eqv) (inner : here.children ≠ .nil) (value : V) :
    (∃ held, here.target.value? = some held ∧ eqv value held = true) ↔
      here.children.follows eqv value = true := by
  constructor
  · rintro ⟨held, valued, same⟩
    exact Forest.follows_equivalent eqv lawful held value _ (lawful.symm same)
      (settled.sound held valued)
  · intro follows
    cases valued : here.target.value? with
    | none =>
        rcases (Forest.uniform_none eqv lawful _).mp (settled.complete valued) with empty | differ
        · exact False.elim (inner empty)
        · exact False.elim (differ value follows)
    | some held =>
        obtain ⟨segment, child, isChild⟩ := Forest.child_of_nonempty _ inner
        have member := Forest.tops_of_child segment _ child isChild
        obtain ⟨lower, isLower, close⟩ := (Forest.follows_tops eqv value _).mp follows _ _ member
        obtain ⟨other, isOther, alike⟩ :=
          (Forest.follows_tops eqv held _).mp (settled.sound held valued) _ _ member
        cases isLower.symm.trans isOther
        exact ⟨held, rfl, lawful.trans close (lawful.symm alike)⟩

theorem Node.settled_uniform (eqv : Comparator V) (lawful : eqv.IsEquivalence)
    (children : Forest V) :
    Node.Settled eqv ⟨.ofUniform (children.uniformValue? eqv), children⟩ := by
  cases uniform : children.uniformValue? eqv with
  | none =>
      refine ⟨?_, fun _ => uniform⟩
      intro value valued
      cases valued
  | some value =>
      exact Node.settled_valued eqv _ value rfl
        (Forest.uniform_follows eqv lawful value children uniform)

namespace Forest

def Collapsed (eqv : Comparator V) (forest : Forest V) : Prop := forest.Every (Node.Settled eqv)

theorem revised_valued (eqv : Comparator V) (target : Target V) (below : Change V) (value : V)
    (valued : target.value? = some value) (settled : Target V)
    (kept : revised eqv target below = some settled) : settled = target := by
  obtain ⟨forest, rising, events⟩ := below
  cases rising <;> cases forest <;> cases target <;>
    simp_all [revised, Target.value?, Target.isRoute]

theorem revised_undecided (eqv : Comparator V) (below : Change V)
    (rising : below.rising = true) (settled : Target V)
    (kept : revised eqv .undecided below = some settled) :
    settled = .ofUniform (below.forest.uniformValue? eqv) := by
  obtain ⟨forest, up, events⟩ := below
  cases forest <;> simp_all [revised, Target.isRoute]

theorem revised_calm (eqv : Comparator V) (target : Target V) (below : Change V)
    (calm : ¬ below.rising = true) : revised eqv target below = some target := by
  simp [revised, calm]

theorem revised_unmoved (eqv : Comparator V) (target : Target V) (below above : Change V)
    (rising : above.rising = true ↔
      below.rising = true ∧ revised eqv target below ≠ some target)
    (calm : ¬ above.rising = true) : revised eqv target below = some target := by
  by_cases up : below.rising = true
  · exact Classical.byContradiction fun moved => calm (rising.mpr ⟨up, moved⟩)
  · exact revised_calm eqv target below up

theorem revised_settled (eqv : Comparator V) (lawful : eqv.IsEquivalence) (below : Change V)
    (settled : Target V) (kept : revised eqv .undecided below = some settled)
    (calm : ¬ below.rising = true → below.forest.uniformValue? eqv = none) :
    Node.Settled eqv ⟨settled, below.forest⟩ := by
  by_cases rising : below.rising = true
  · rw [revised_undecided eqv below rising settled kept]
    exact Node.settled_uniform eqv lawful below.forest
  · rw [revised_calm eqv .undecided below rising] at kept
    cases kept
    exact ⟨fun _ valued => (nomatch valued), fun _ => calm rising⟩

theorem undecided_of_none (target : Target V) (none : target.value? = none) :
    target = .undecided := by
  cases target with
  | undecided => rfl
  | collapsed value => cases none
  | route value => cases none

end Forest

end TopicRouting
