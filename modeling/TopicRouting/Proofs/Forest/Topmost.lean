import TopicRouting.Proofs.Forest.Agreement

set_option autoImplicit false

namespace TopicRouting.Forest

universe u

variable {V : Type u}

theorem value_cons (segment : Segment) (rest : Path) (forest : Forest V) :
    forest.valueAt? (segment :: rest) =
      (forest.child? segment).bind fun here =>
        (here.below? rest).bind fun below => below.target.value? := by
  rw [valueAt?, node_cons, Option.bind_assoc]

structure Topmost (forest : Forest V) (path : Path) (value : V) : Prop where
  valued : forest.valueAt? path = some value
  first : ∀ above below, above ++ below = path → below ≠ [] → forest.valueAt? above = none

theorem topmost_congr (a b : Forest V) (path : Path) (value : V)
    (same : ∀ above below, above ++ below = path → a.valueAt? above = b.valueAt? above) :
    Topmost a path value ↔ Topmost b path value := by
  constructor
  · rintro ⟨valued, first⟩
    exact ⟨same path [] (by simp) ▸ valued, fun above below whole more =>
      same above below whole ▸ first above below whole more⟩
  · rintro ⟨valued, first⟩
    exact ⟨(same path [] (by simp)).symm ▸ valued, fun above below whole more =>
      (same above below whole).symm ▸ first above below whole more⟩

theorem value_here (forest : Forest V) (segment : Segment) (here : Node V)
    (found : forest.child? segment = some here) :
    forest.valueAt? [segment] = here.target.value? := by
  rw [value_cons, found]
  rfl

theorem value_lower (forest : Forest V) (segment next : Segment) (rest : Path) (here : Node V)
    (found : forest.child? segment = some here) :
    forest.valueAt? (segment :: next :: rest) = here.children.valueAt? (next :: rest) := by
  rw [value_cons, found]
  rfl

theorem topmost_cons (forest : Forest V) (segment : Segment) (rest : Path) (here : Node V)
    (found : forest.child? segment = some here) (value : V) :
    Topmost forest (segment :: rest) value ↔
      rest = [] ∧ here.target.value? = some value ∨
        here.target.value? = none ∧ Topmost here.children rest value := by
  have own := value_here forest segment here found
  have lower := fun next rest => value_lower forest segment next rest here found
  constructor
  · rintro ⟨valued, first⟩
    cases rest with
    | nil => exact Or.inl ⟨rfl, own ▸ valued⟩
    | cons next rest =>
        -- Nothing above a topmost node has a value, and here that is the node itself.
        have absent := first [segment] (next :: rest) rfl (by simp)
        refine Or.inr ⟨own ▸ absent, lower next rest ▸ valued, ?_⟩
        intro above below same more
        cases above with
        | nil => rfl
        | cons head above =>
            rw [← lower]
            exact first (segment :: head :: above) below (by simpa using same) more
  · rintro (⟨rfl, valued⟩ | ⟨absent, valued, first⟩)
    · refine ⟨own ▸ valued, ?_⟩
      intro above below same more
      cases above with
      | nil => rfl
      | cons head above =>
          have empty : above ++ below = [] := by simpa using congrArg List.tail same
          exact False.elim (more (List.append_eq_nil_iff.mp empty).2)
    · cases rest with
      | nil => cases valued
      | cons next rest =>
          refine ⟨lower next rest ▸ valued, ?_⟩
          intro above below same more
          cases above with
          | nil => rfl
          | cons head above =>
              obtain ⟨rfl, later⟩ : head = segment ∧ above ++ below = next :: rest := by
                simpa using same
              cases above with
              | nil => exact own ▸ absent
              | cons second above =>
                  rw [lower]
                  exact first (second :: above) below later more

theorem topmost_child (forest : Forest V) (segment : Segment) (rest : Path) (value : V)
    (top : Topmost forest (segment :: rest) value) :
    ∃ here, forest.child? segment = some here := by
  cases found : forest.child? segment with
  | some here => exact ⟨here, rfl⟩
  | none =>
      have valued := top.valued
      rw [value_cons, found] at valued
      cases valued

theorem topmost_nonempty (forest : Forest V) (path : Path) (value : V)
    (top : Topmost forest path value) : path ≠ [] := by
  rintro rfl
  cases top.valued

theorem topmost_unique (forest : Forest V) (a b more later : Path) (value other : V)
    (top : Topmost forest a value) (second : Topmost forest b other)
    (same : a ++ more = b ++ later) : a = b ∧ value = other := by
  have paths : a = b := by
    rcases List.append_eq_append_iff.mp same with ⟨rest, extends_, _⟩ | ⟨rest, extends_, _⟩
    · by_cases done : rest = []
      · simp [extends_, done]
      · have absent := second.first a rest extends_.symm done
        rw [top.valued] at absent
        cases absent
    · by_cases done : rest = []
      · simp [extends_, done]
      · have absent := top.first b rest extends_.symm done
        rw [second.valued] at absent
        cases absent
  subst paths
  exact ⟨rfl, Option.some.inj (top.valued.symm.trans second.valued)⟩

theorem topmost_path_nonempty (forest : Forest V) (value : V) : ([], value) ∉ forest.topmost := by
  induction forest with
  | nil => simp [topmost]
  | node segment target children siblings _ ih =>
      cases valued : target.value? <;> simp [topmost, valued, ih]

theorem topmost_iff (forest : Forest V) (regular : forest.Regular) (path : Path) (value : V) :
    (path, value) ∈ forest.topmost ↔ Topmost forest path value := by
  induction forest generalizing path with
  | nil =>
      refine ⟨fun member => (nomatch member), fun top => ?_⟩
      have valued := top.valued
      simp [valueAt?] at valued
  | node segment target children siblings ihChildren ihSiblings =>
      obtain ⟨beside, absent, below⟩ := regular_siblings _ _ _ _ regular
      cases path with
      | nil =>
          refine ⟨fun member => False.elim (topmost_path_nonempty _ value member), fun top => ?_⟩
          exact False.elim (topmost_nonempty _ _ _ top rfl)
      | cons head rest =>
          by_cases same : segment = head
          · subst same
            have nothing : (segment :: rest, value) ∉ siblings.topmost := by
              rw [ihSiblings beside]
              intro top
              obtain ⟨here, found⟩ := topmost_child siblings segment rest value top
              rw [absent] at found
              cases found
            rw [topmost_cons _ segment rest ⟨target, children⟩ (by simp [child?]) value]
            cases valued : target.value? with
            | none => simp [topmost, valued, nothing, ihChildren below rest]
            | some held => simp [topmost, valued, nothing, eq_comm]
          · have skip : (head :: rest, value) ∈ (node segment target children siblings).topmost ↔
                (head :: rest, value) ∈ siblings.topmost := by
              cases valued : target.value? <;> simp [topmost, valued, same, Ne.symm same]
            rw [skip, ihSiblings beside]
            apply topmost_congr
            intro above below extends_
            cases above with
            | nil => rfl
            | cons first above =>
                obtain ⟨rfl, _⟩ : first = head ∧ above ++ below = rest := by simpa using extends_
                rw [valueAt?, valueAt?, node_beside _ _ _ _ _ _ same]

theorem topmost_paths (forest : Forest V) :
    (forest.topmost.map Prod.fst).Sublist (forest.nodes.map Prod.fst) := by
  induction forest with
  | nil => exact List.Sublist.refl _
  | node segment target children siblings below beside =>
      have lower := below.map fun path => segment :: path
      simp only [List.map_map] at lower
      simp only [topmost, nodes, List.map_append, List.map_cons, List.map_map]
      cases target.value? with
      | some value => exact (beside.trans (List.sublist_append_right _ _)).cons_cons [segment]
      | none =>
          rw [List.map_map]
          exact (lower.append beside).cons [segment]

theorem first_value_cons (segment : Segment) (rest : Path) (forest : Forest V) :
    forest.firstValue? (segment :: rest) =
      (forest.child? segment).bind fun here =>
        here.target.value?.or (here.children.firstValue? rest) := by
  cases found : forest.child? segment with
  | none => simp [firstValue?, walk, found]
  | some here =>
      cases valued : here.target.value? <;> simp [firstValue?, walk, found, valued]

theorem first_value_iff (forest : Forest V) (path : Path) (value : V) :
    forest.firstValue? path = some value ↔
      ∃ above below, above ++ below = path ∧ Topmost forest above value := by
  induction path generalizing forest with
  | nil =>
      refine ⟨fun found => (nomatch found), ?_⟩
      rintro ⟨above, below, same, top⟩
      exact False.elim (topmost_nonempty _ _ _ top (List.append_eq_nil_iff.mp same).1)
  | cons segment rest ih =>
      rw [first_value_cons]
      cases found : forest.child? segment with
      | none =>
          refine ⟨fun found => (nomatch found), ?_⟩
          rintro ⟨above, below, same, top⟩
          cases above with
          | nil => exact False.elim (topmost_nonempty _ _ _ top rfl)
          | cons head above =>
              cases same
              obtain ⟨here, isHere⟩ := topmost_child forest segment above value top
              rw [found] at isHere
              cases isHere
      | some here =>
          rw [Option.bind_some, Option.or_eq_some_iff, ih here.children]
          constructor
          · rintro (valued | ⟨absent, above, below, same, top⟩)
            · exact ⟨[segment], rest, rfl,
                (topmost_cons forest segment [] here found value).mpr (Or.inl ⟨rfl, valued⟩)⟩
            · exact ⟨segment :: above, below, by simp [same],
                (topmost_cons forest segment above here found value).mpr (Or.inr ⟨absent, top⟩)⟩
          · rintro ⟨above, below, same, top⟩
            cases above with
            | nil => exact False.elim (topmost_nonempty _ _ _ top rfl)
            | cons head above =>
                obtain ⟨rfl, rfl⟩ : head = segment ∧ above ++ below = rest := by simpa using same
                rcases (topmost_cons forest head above here found value).mp top with
                  ⟨_, valued⟩ | ⟨absent, lower⟩
                · exact Or.inl valued
                · exact Or.inr ⟨absent, above, below, rfl, lower⟩

theorem first_value_above (eqv : Comparator V) (lawful : eqv.IsEquivalence) (forest : Forest V)
    (collapsed : forest.Collapsed eqv) (front rest : Path) (value : V)
    (valued : forest.valueAt? front = some value) :
    ∃ first, forest.firstValue? (front ++ rest) = some first ∧ eqv first value = true := by
  induction front generalizing forest with
  | nil => cases valued
  | cons segment front ih =>
      rw [value_cons] at valued
      obtain ⟨here, found, below⟩ := Option.bind_eq_some_iff.mp valued
      obtain ⟨lower, isLower, held⟩ := Option.bind_eq_some_iff.mp below
      obtain ⟨settled, collapsedBelow⟩ := every_child _ forest collapsed segment here found
      rw [List.cons_append, first_value_cons, found, Option.bind_some]
      cases own : here.target.value? with
      | some first =>
          obtain ⟨other, isOther, same⟩ := here.settled_below eqv lawful settled collapsedBelow
            first own front lower isLower
          cases held.symm.trans isOther
          exact ⟨first, rfl, same⟩
      | none =>
          rw [Option.none_or]
          cases front with
          | nil =>
              cases isLower
              cases own.symm.trans held
          | cons next front => exact ih here.children collapsedBelow below

theorem first_value_below (eqv : Comparator V) (lawful : eqv.IsEquivalence) (forest : Forest V)
    (collapsed : forest.Collapsed eqv) (path : Path) (here : Node V)
    (found : forest.node? path = some here) (first : V)
    (met : forest.firstValue? path = some first) :
    ∃ value, here.target.value? = some value ∧ eqv first value = true := by
  obtain ⟨above, below, rfl, top⟩ := (first_value_iff forest path first).mp met
  obtain ⟨upper, isUpper, valued⟩ := Option.bind_eq_some_iff.mp top.valued
  rw [node_append above below forest (topmost_nonempty forest above first top), isUpper] at found
  obtain ⟨settled, collapsedBelow⟩ := every_node _ forest collapsed above upper isUpper
  exact upper.settled_below eqv lawful settled collapsedBelow first valued below here found

end TopicRouting.Forest
