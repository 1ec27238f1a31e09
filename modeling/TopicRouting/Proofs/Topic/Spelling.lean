import TopicRouting.Proofs.Topic.Segmentation

set_option autoImplicit false

namespace TopicRouting

theorem text_key_path (kind : KeyKind) (key : String) : (kind.path key).text = key := by
  cases kind with
  | literal => simp [KeyKind.path, Path.text, Segment.text]
  | topic => exact Path.text_ofTopic key

theorem key_path_literal (kind : KeyKind) (key word : String) (rest : Path)
    (same : kind.path key = .literal word :: rest) : kind = .literal ∧ key = word ∧ rest = [] := by
  cases kind with
  | literal =>
      cases same
      exact ⟨rfl, rfl, rfl⟩
  | topic =>
      have topical := Path.topical_ofTopic key
      rw [← KeyKind.path, same] at topical
      exact False.elim topical

theorem has_empty_segment_front (a b : List Char) (clean : hasEmptySegment (a ++ b) = false) :
    hasEmptySegment a = false := by
  induction a with
  | nil => rfl
  | cons c rest ih =>
      cases rest with
      | nil => simp [hasEmptySegment]
      | cons d rest =>
          simp only [List.cons_append, hasEmptySegment, List.head?_cons, Bool.or_eq_false_iff]
            at clean ih ⊢
          exact ⟨clean.1, ih clean.2⟩

namespace KeyRules

theorem classify_topic_iff (rules : KeyRules) (text : String) :
    rules.classify text = .ok .topic ↔
      text ≠ "" ∧ text.utf8ByteSize < rules.maxLength ∧ '\x00' ∉ text.toList ∧
        text.toList.head? ≠ some rules.literalMarker ∧ text.toList.head? ≠ some separator ∧
        hasEmptySegment text.toList = false := by
  rw [ne_eq, ← String.toList_eq_nil_iff]
  unfold classify
  grind

theorem classify_literal_iff (rules : KeyRules) (text : String) :
    rules.classify text = .ok .literal ↔
      text ≠ "" ∧ text.utf8ByteSize < rules.maxLength ∧ '\x00' ∉ text.toList ∧
        text.toList.head? = some rules.literalMarker := by
  rw [ne_eq, ← String.toList_eq_nil_iff]
  unfold classify
  grind

theorem classify_topic_front (rules : KeyRules) (a b : String) (nonempty : a ≠ "")
    (topic : rules.classify (a ++ b) = .ok .topic) : rules.classify a = .ok .topic := by
  rw [classify_topic_iff] at topic ⊢
  obtain ⟨_, short, noNul, noMarker, noSeparator, clean⟩ := topic
  have sameHead : (a ++ b).toList.head? = a.toList.head? := by
    have first : a.toList.head?.isSome := by simpa using nonempty
    rw [String.toList_append, List.head?_append, Option.or_of_isSome first]
  rw [sameHead] at noMarker noSeparator
  rw [String.toList_append] at noNul clean
  rw [String.utf8ByteSize_append] at short
  refine ⟨nonempty, by omega, ?_, noMarker, noSeparator, has_empty_segment_front _ _ clean⟩
  intro member
  exact noNul (List.mem_append_left _ member)

theorem classify_topic_start (rules : KeyRules) (a b : String)
    (topic : rules.classify a = .ok .topic) : rules.classify (a ++ b) ≠ .ok .literal := by
  rw [ne_eq, classify_literal_iff]
  rintro ⟨_, _, _, marked⟩
  obtain ⟨nonempty, _, _, noMarker, _, _⟩ := (classify_topic_iff rules a).mp topic
  have first : a.toList.head?.isSome := by simpa using nonempty
  rw [String.toList_append, List.head?_append, Option.or_of_isSome first] at marked
  exact noMarker marked

def Spells (rules : KeyRules) (path : Path) : Prop :=
  ∃ kind, rules.classify path.text = .ok kind ∧ kind.path path.text = path

theorem spells_key_path (rules : KeyRules) (key : String) (kind : KeyKind)
    (valid : rules.classify key = .ok kind) : rules.Spells (kind.path key) := by
  refine ⟨kind, ?_, ?_⟩ <;> rw [text_key_path]
  exact valid

theorem spells_cases (rules : KeyRules) (path : Path) (spelled : rules.Spells path) :
    (∃ key, path = [.literal key] ∧ rules.classify key = .ok .literal) ∨
      (path.Topical ∧ rules.classify path.text = .ok .topic) := by
  obtain ⟨kind, valid, same⟩ := spelled
  cases kind with
  | literal =>
      refine Or.inl ⟨path.text, same.symm, valid⟩
  | topic =>
      refine Or.inr ⟨?_, valid⟩
      rw [← same]
      exact Path.topical_ofTopic _

theorem spells_topic (rules : KeyRules) (path : Path) (topical : path.Topical)
    (valid : rules.classify path.text = .ok .topic) : rules.Spells path :=
  ⟨.topic, valid, Path.ofTopic_text path topical⟩

theorem spells_nonempty (rules : KeyRules) (path : Path) (spelled : rules.Spells path) :
    path ≠ [] := by
  intro empty
  obtain ⟨kind, valid, _⟩ := spelled
  rw [empty] at valid
  cases valid

theorem spells_front (rules : KeyRules) (a b : Path) (nonempty : a ≠ [])
    (spelled : rules.Spells (a ++ b)) : rules.Spells a := by
  rcases spells_cases rules _ spelled with ⟨key, single, valid⟩ | ⟨topical, valid⟩
  · cases a with
    | nil => exact False.elim (nonempty rfl)
    | cons segment rest =>
        simp only [List.cons_append, List.cons.injEq, List.append_eq_nil_iff] at single
        obtain ⟨rfl, rfl, rfl⟩ := single
        exact spells_key_path rules key .literal valid
  · have front := Path.topical_front a b topical
    refine spells_topic rules a front ?_
    rw [Path.text_append] at valid
    exact classify_topic_front rules _ _ (Path.topical_text_nonempty a front nonempty) valid

theorem spells_once (rules : KeyRules) (a b : Path) (first : rules.Spells a)
    (second : rules.Spells b) (same : a.text = b.text) : a = b := by
  obtain ⟨kind, valid, isPath⟩ := first
  obtain ⟨other, validOther, isPathOther⟩ := second
  rw [same] at valid isPath
  cases valid.symm.trans validOther
  exact isPath.symm.trans isPathOther

theorem spells_literal (rules : KeyRules) (path : Path) (spelled : rules.Spells path) :
    path.isLiteral = path.getLast?.any Segment.isLiteral := by
  rcases spells_cases rules path spelled with ⟨word, rfl, _⟩ | ⟨topical, _⟩
  · rfl
  · rw [Path.topical_not_literal path topical]
    cases ended : path.getLast? with
    | none => rfl
    | some segment =>
        exact (Path.topical_segments path topical segment (List.mem_of_getLast? ended)).symm

theorem spells_below_branch (rules : KeyRules) (above : Path) (segment next : Segment)
    (rest : Path) (spelled : rules.Spells (above ++ segment :: next :: rest)) :
    segment.isBranch = true := by
  rcases spells_cases rules _ spelled with ⟨key, single, _⟩ | ⟨topical, valid⟩
  · have lengths := congrArg List.length single
    simp only [List.length_append, List.length_cons, List.length_nil] at lengths
    omega
  · have split : above ++ segment :: next :: rest = (above ++ [segment]) ++ next :: rest := by simp
    rw [split, Path.topical_append_iff] at topical
    exact topical.2.2 (by simp) segment (by simp)

end KeyRules

end TopicRouting
