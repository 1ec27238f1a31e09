import TopicRouting.Proofs.Forest.Nodes
import TopicRouting.Table.Change

set_option autoImplicit false

namespace TopicRouting

universe u

variable {V : Type u}

namespace Forest

-- What a node resolves to once its children are changed, none if it goes away.
def revised (eqv : Comparator V) (target : Target V) (below : Change V) : Option (Target V) :=
  if below.rising then
    match below.forest with
    | .nil => if target.isRoute then some target else none
    | .node .. =>
      match target with
      | .undecided => some (.ofUniform (below.forest.uniformValue? eqv))
      | _ => some target
  else some target

theorem resume_revised (eqv : Comparator V) (segment : Segment) (target : Target V)
    (below : Change V) (siblings : Forest V) :
    (resume eqv segment target below siblings).forest =
        (match revised eqv target below with
          | some settled => .node segment settled below.forest siblings
          | none => siblings) ∧
      ((resume eqv segment target below siblings).rising = true ↔
        below.rising = true ∧ revised eqv target below ≠ some target) := by
  obtain ⟨forest, rising, events⟩ := below
  cases rising with
  | false => simp [resume, revised]
  | true =>
      cases forest with
      | nil => cases target <;> simp [resume, revised, revise, Target.isRoute]
      | node first held children rest =>
          cases target with
          | undecided =>
              cases uniform : (node first held children rest).uniformValue? eqv <;>
                simp [resume, revised, revise, uniform, Target.ofUniform]
          | collapsed value => simp [resume, revised, revise]
          | route value => simp [resume, revised, revise]

theorem resume_forest (eqv : Comparator V) (segment : Segment) (target : Target V)
    (below : Change V) (siblings : Forest V) :
    (resume eqv segment target below siblings).forest =
      match revised eqv target below with
      | some settled => .node segment settled below.forest siblings
      | none => siblings :=
  (resume_revised eqv segment target below siblings).1

theorem resume_rising (eqv : Comparator V) (segment : Segment) (target : Target V)
    (below : Change V) (siblings : Forest V) :
    (resume eqv segment target below siblings).rising = true ↔
      below.rising = true ∧ revised eqv target below ≠ some target :=
  (resume_revised eqv segment target below siblings).2

theorem revised_kept (eqv : Comparator V) (target : Target V) (below : Change V)
    (nonempty : below.forest ≠ .nil) : ∃ settled, revised eqv target below = some settled := by
  obtain ⟨forest, rising, events⟩ := below
  cases forest with
  | nil => exact False.elim (nonempty rfl)
  | node first held children rest => cases rising <;> cases target <;> simp [revised]

theorem revised_childless (eqv : Comparator V) (target : Target V) (below : Change V)
    (rising : below.rising = true) (empty : below.forest = .nil) :
    revised eqv target below = if target.isRoute then some target else none := by
  simp [revised, rising, empty]

theorem resume_other (eqv : Comparator V) (segment other : Segment) (target : Target V)
    (below : Change V) (siblings : Forest V) (different : other ≠ segment) :
    (resume eqv segment target below siblings).forest.child? other = siblings.child? other := by
  rw [resume_forest]
  cases revised eqv target below with
  | none => rfl
  | some settled => simp [child?, Ne.symm different]

theorem resume_here (eqv : Comparator V) (segment : Segment) (target : Target V)
    (below : Change V) (siblings : Forest V) (absent : siblings.child? segment = none) :
    (resume eqv segment target below siblings).forest.child? segment =
      (revised eqv target below).map fun settled => ⟨settled, below.forest⟩ := by
  rw [resume_forest]
  cases revised eqv target below with
  | none => exact absent
  | some settled => simp [child?]

def link (value : V) : Path → Node V
  | [] => ⟨.route value, .nil⟩
  | next :: rest => ⟨.collapsed value, chain value next rest⟩

theorem chain_link (value : V) (segment : Segment) (rest : Path) :
    chain value segment rest =
      .node segment (link value rest).target (link value rest).children .nil := by
  cases rest <;> rfl

theorem register_nonempty (eqv : Comparator V) (value : V) (forest : Forest V)
    (segment : Segment) (rest : Path) (settled : Bool) :
    (forest.register eqv value segment rest settled).forest ≠ .nil := by
  induction forest generalizing segment rest settled with
  | nil => cases rest <;> simp [register, chain]
  | node first target children siblings ihChildren _ =>
      by_cases same : first = segment
      · cases rest with
        | nil => simp [register, same]
        | cons next rest =>
            have below := ihChildren next rest (target.relax eqv value first settled).settled
            obtain ⟨kept, isKept⟩ :=
              revised_kept eqv (target.relax eqv value first settled).target _ below
            simp only [register, if_pos same, resume_forest, isKept]
            intro empty
            cases empty
      · simp [register, same]

theorem register_other (eqv : Comparator V) (value : V) (forest : Forest V)
    (segment other : Segment) (rest : Path) (settled : Bool) (different : other ≠ segment) :
    (forest.register eqv value segment rest settled).forest.child? other =
      forest.child? other := by
  induction forest with
  | nil => simp [register, chain_link, child?, Ne.symm different]
  | node first target children siblings _ ih =>
      by_cases same : first = segment
      · have apart : first ≠ other := fun equal => different (equal.symm.trans same)
        cases rest with
        | nil => simp [register, same, child?, Ne.symm different]
        | cons next rest =>
            rw [register, if_pos same, child?, if_neg apart]
            exact resume_other eqv first other _ _ siblings (Ne.symm apart)
      · simp only [register, if_neg same, child?, ih]

theorem register_absent (eqv : Comparator V) (value : V) (forest : Forest V)
    (segment : Segment) (rest : Path) (settled : Bool) (absent : forest.child? segment = none) :
    (forest.register eqv value segment rest settled).forest.child? segment =
        some (link value rest) ∧
      (forest.register eqv value segment rest settled).rising = true := by
  induction forest with
  | nil => simp [register, chain_link, child?]
  | node first target children siblings _ ih =>
      by_cases same : first = segment
      · simp [child?, same] at absent
      · simp only [child?, if_neg same] at absent
        simpa only [register, if_neg same, child?] using ih absent

theorem register_last (eqv : Comparator V) (value : V) (forest : Forest V)
    (segment : Segment) (settled : Bool) (here : Node V)
    (found : forest.child? segment = some here) :
    (forest.register eqv value segment [] settled).forest.child? segment =
        some ⟨.route value, here.children⟩ ∧
      (forest.register eqv value segment [] settled).rising = true := by
  induction forest with
  | nil => cases found
  | node first target children siblings _ ih =>
      by_cases same : first = segment
      · simp only [child?, if_pos same, Option.some.injEq] at found
        simp [register, same, child?, ← found]
      · simp only [child?, if_neg same] at found
        simpa only [register, if_neg same, child?] using ih found

theorem register_below (eqv : Comparator V) (value : V) (forest : Forest V)
    (segment next : Segment) (rest : Path) (settled : Bool) (here : Node V)
    (found : forest.child? segment = some here) (relaxed : Relaxed V) (below : Change V)
    (relaxes : relaxed = here.target.relax eqv value segment settled)
    (registers : below = here.children.register eqv value next rest relaxed.settled) :
    ∃ target, revised eqv relaxed.target below = some target ∧
      (forest.register eqv value segment (next :: rest) settled).forest.child? segment =
        some ⟨target, below.forest⟩ ∧
      ((forest.register eqv value segment (next :: rest) settled).rising = true ↔
        below.rising = true ∧ target ≠ relaxed.target) := by
  have nonempty : below.forest ≠ .nil := by
    rw [registers]
    exact register_nonempty eqv value here.children next rest relaxed.settled
  obtain ⟨target, kept⟩ := revised_kept eqv relaxed.target below nonempty
  refine ⟨target, kept, ?_⟩
  induction forest with
  | nil => cases found
  | node first held children siblings _ ih =>
      by_cases same : first = segment
      · simp only [child?, if_pos same, Option.some.injEq] at found
        subst same found relaxes registers
        simp only [register, if_true, resume_rising, resume_forest, kept, child?, ne_eq,
          Option.some.injEq, true_and]
      · simp only [child?, if_neg same] at found
        simpa only [register, if_neg same, child?] using ih found

theorem register_segments (eqv : Comparator V) (value : V) (forest : Forest V)
    (segment : Segment) (rest : Path) (settled : Bool) :
    (forest.register eqv value segment rest settled).forest.segments =
      if segment ∈ forest.segments then forest.segments else forest.segments ++ [segment] := by
  induction forest with
  | nil => simp [register, chain_link, segments, tops]
  | node first target children siblings _ ih =>
      by_cases same : first = segment
      · subst same
        cases rest with
        | nil => simp [register, segments_node]
        | cons next rest =>
            obtain ⟨kept, isKept⟩ := revised_kept eqv
              (target.relax eqv value first settled).target _
              (register_nonempty eqv value children next rest
                (target.relax eqv value first settled).settled)
            rw [register, if_pos rfl]
            simp [resume_forest, isKept, segments_node]
      · simp only [register, if_neg same, segments_node, ih, List.mem_cons, Ne.symm same,
          false_or]
        by_cases held : segment ∈ siblings.segments <;> simp [held]

theorem register_distinct (eqv : Comparator V) (value : V) (forest : Forest V)
    (segment : Segment) (rest : Path) (settled : Bool) (distinct : forest.segments.Nodup) :
    (forest.register eqv value segment rest settled).forest.segments.Nodup := by
  rw [register_segments]
  by_cases held : segment ∈ forest.segments
  · simpa [held] using distinct
  · simp only [if_neg held, List.nodup_append]
    refine ⟨distinct, by simp, ?_⟩
    intro other member last isLast same
    have last_eq : last = segment := by simpa using isLast
    exact held (last_eq ▸ same ▸ member)

theorem detach_other (eqv : Comparator V) (forest : Forest V) (segment other : Segment)
    (rest : Path) (different : other ≠ segment) :
    (forest.detach eqv segment rest).forest.child? other = forest.child? other := by
  induction forest with
  | nil => rfl
  | node first target children siblings _ ih =>
      by_cases same : first = segment
      · have apart : first ≠ other := fun equal => different (equal.symm.trans same)
        cases rest with
        | nil => simp [detach, same, child?, Ne.symm different]
        | cons next rest =>
            rw [detach, if_pos same, child?, if_neg apart]
            exact resume_other eqv first other _ _ siblings (Ne.symm apart)
      · simp only [detach, if_neg same, child?, ih]

theorem detach_absent (eqv : Comparator V) (forest : Forest V) (segment : Segment)
    (rest : Path) (absent : forest.child? segment = none) :
    (forest.detach eqv segment rest).forest = forest ∧
      (forest.detach eqv segment rest).rising = false := by
  induction forest with
  | nil => simp [detach]
  | node first target children siblings _ ih =>
      by_cases same : first = segment
      · simp [child?, same] at absent
      · simp only [child?, if_neg same] at absent
        simpa [detach, same] using ih absent

theorem detach_last (eqv : Comparator V) (forest : Forest V) (segment : Segment)
    (here : Node V) (distinct : forest.segments.Nodup)
    (found : forest.child? segment = some here) :
    (forest.detach eqv segment []).forest.child? segment = none ∧
      (forest.detach eqv segment []).rising = true := by
  induction forest with
  | nil => cases found
  | node first target children siblings _ ih =>
      have parts := List.nodup_cons.mp distinct
      by_cases same : first = segment
      · simp only [detach, if_pos same, and_true]
        exact (child_none_iff _ _).mpr (same ▸ parts.1)
      · simp only [child?, if_neg same] at found
        simpa only [detach, if_neg same, child?] using ih parts.2 found

theorem detach_below (eqv : Comparator V) (forest : Forest V) (segment next : Segment)
    (rest : Path) (here : Node V) (distinct : forest.segments.Nodup)
    (found : forest.child? segment = some here) (below : Change V)
    (detaches : below = here.children.detach eqv next rest) :
    (forest.detach eqv segment (next :: rest)).forest.child? segment =
        (revised eqv here.target below).map (fun settled => ⟨settled, below.forest⟩) ∧
      ((forest.detach eqv segment (next :: rest)).rising = true ↔
        below.rising = true ∧ revised eqv here.target below ≠ some here.target) := by
  induction forest with
  | nil => cases found
  | node first held children siblings _ ih =>
      have parts := List.nodup_cons.mp distinct
      by_cases same : first = segment
      · simp only [child?, if_pos same, Option.some.injEq] at found
        have absent : siblings.child? segment = none :=
          (child_none_iff _ _).mpr (same ▸ parts.1)
        subst same found detaches
        rw [detach, if_pos rfl]
        exact ⟨resume_here eqv first held _ siblings absent, resume_rising eqv first held _ siblings⟩
      · simp only [child?, if_neg same] at found
        simpa only [detach, if_neg same, child?] using ih parts.2 found

theorem detach_child (eqv : Comparator V) (forest : Forest V) (segment next : Segment)
    (rest : Path) (old here : Node V) (distinct : forest.segments.Nodup)
    (found : forest.child? segment = some old)
    (remains : (forest.detach eqv segment (next :: rest)).forest.child? segment = some here) :
    ∃ target, revised eqv old.target (old.children.detach eqv next rest) = some target ∧
      here = ⟨target, (old.children.detach eqv next rest).forest⟩ := by
  rw [(detach_below eqv forest segment next rest old distinct found _ rfl).1] at remains
  obtain ⟨target, kept, same⟩ := Option.map_eq_some_iff.mp remains
  exact ⟨target, kept, same.symm⟩

theorem detach_segments (eqv : Comparator V) (forest : Forest V) (segment : Segment)
    (rest : Path) :
    (forest.detach eqv segment rest).forest.segments.Sublist forest.segments := by
  induction forest with
  | nil => exact List.Sublist.refl _
  | node first target children siblings _ ih =>
      by_cases same : first = segment
      · cases rest with
        | nil => simp [detach, same, segments_node]
        | cons next rest =>
            rw [detach, if_pos same, resume_forest]
            cases revised eqv target (children.detach eqv next rest) with
            | none => exact List.sublist_cons_self _ _
            | some settled => exact List.Sublist.refl _
      · simpa [detach, same, segments_node] using ih

def reconciled (eqv : Comparator V) (here : Node V) : Node V :=
  ⟨reconciledTarget eqv here.target (here.children.reconcile eqv), here.children.reconcile eqv⟩

theorem reconcile_child (eqv : Comparator V) (forest : Forest V) (segment : Segment) :
    (forest.reconcile eqv).child? segment = (forest.child? segment).map (reconciled eqv) := by
  induction forest with
  | nil => rfl
  | node first target children siblings _ ih =>
      by_cases same : first = segment <;> simp [reconcile, reconciled, child?, same, ih]

theorem reconcile_node (eqv : Comparator V) (forest : Forest V) (path : Path) :
    (forest.reconcile eqv).node? path = (forest.node? path).map (reconciled eqv) := by
  induction path generalizing forest with
  | nil => rfl
  | cons segment rest ih =>
      rw [node_cons, node_cons, reconcile_child]
      cases forest.child? segment with
      | none => rfl
      | some here =>
          cases rest with
          | nil => rfl
          | cons next rest => exact ih here.children

theorem reconcile_segments (eqv : Comparator V) (forest : Forest V) :
    (forest.reconcile eqv).segments = forest.segments := by
  induction forest with
  | nil => rfl
  | node first target children siblings _ ih => simp [reconcile, segments_node, ih]

end Forest

end TopicRouting
