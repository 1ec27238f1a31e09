import TopicRouting.Proofs.Topic.Spelling

set_option autoImplicit false

namespace TopicRouting

def Segment.name : Segment → String
  | .branch name => name
  | .leaf name => name
  | .literal key => key

def Segment.Proper (segment : Segment) : Prop :=
  segment.name ≠ "" ∧ '\x00' ∉ segment.name.toList

instance (segment : Segment) : Decidable segment.Proper := inferInstanceAs (Decidable (_ ∧ _))

theorem has_empty_segment_name (name rest : List Char) (clean : separator ∉ name) :
    hasEmptySegment (name ++ rest) = hasEmptySegment rest := by
  induction name with
  | nil => rfl
  | cons c name ih =>
      obtain ⟨other, later⟩ := not_or.mp (mt List.mem_cons.mpr clean)
      have apart : (c == separator) = false := beq_eq_false_iff_ne.mpr (Ne.symm other)
      rw [List.cons_append, hasEmptySegment, apart, Bool.false_and, Bool.false_or, ih later]

namespace Path

theorem branch_characters (name : String) (rest : Path) :
    (text (.branch name :: rest)).toList = name.toList ++ separator :: rest.text.toList := by
  simp [text, Segment.text]

theorem text_member (path : Path) (c : Char) (other : c ≠ separator) :
    c ∈ path.text.toList ↔ ∃ segment ∈ path, c ∈ segment.name.toList := by
  induction path with
  | nil => simp [text]
  | cons segment rest ih =>
      simp only [text, String.toList_append, List.mem_append, ih, List.mem_cons, exists_eq_or_imp]
      cases segment <;> simp [Segment.text, Segment.name, other]

theorem topical_clean_iff (path : Path) (topical : path.Topical) :
    path.text.toList.head? ≠ some separator ∧ hasEmptySegment path.text.toList = false ↔
      ∀ segment ∈ path, segment.name ≠ "" := by
  induction path, topical using topical_induction with
  | nil => simp [text, hasEmptySegment]
  | branch name rest clean later ih =>
      rw [List.forall_mem_cons, ← ih, branch_characters, has_empty_segment_name _ _ clean,
        hasEmptySegment, Segment.name, beq_self_eq_true, Bool.true_and, Bool.or_eq_false_iff,
        beq_eq_false_iff_ne]
      by_cases empty : name = ""
      · simp [empty]
      · have first : name.toList.head?.isSome := by simpa using empty
        have unseparated : name.toList.head? ≠ some separator :=
          fun same => clean (List.mem_of_head? same)
        rw [List.head?_append, Option.or_of_isSome first]
        exact and_congr_left' (iff_of_true unseparated empty)
  | leaf name named clean =>
      have whole : (text [.leaf name]).toList = name.toList := by simp [text, Segment.text]
      have unseparated : name.toList.head? ≠ some separator :=
        fun same => clean (List.mem_of_head? same)
      have single := has_empty_segment_name name.toList [] clean
      rw [List.append_nil] at single
      rw [whole, single, List.forall_mem_singleton]
      exact iff_of_true ⟨unseparated, rfl⟩ named

end Path

namespace KeyRules

theorem classify_named (rules : KeyRules) (path : Path) (topical : path.Topical)
    (nonempty : path ≠ []) (short : path.text.utf8ByteSize < rules.maxLength)
    (unmarked : path.text.toList.head? ≠ some rules.literalMarker)
    (proper : ∀ segment ∈ path, segment.Proper) :
    rules.classify path.text = .ok .topic := by
  have clean := (Path.topical_clean_iff path topical).mpr fun segment member =>
    (proper segment member).1
  have noNul : '\x00' ∉ path.text.toList := by
    rw [Path.text_member path '\x00' (by decide)]
    rintro ⟨segment, member, present⟩
    exact (proper segment member).2 present
  exact (classify_topic_iff rules path.text).mpr
    ⟨Path.topical_text_nonempty path topical nonempty, short, noNul, unmarked, clean⟩

end KeyRules

end TopicRouting
