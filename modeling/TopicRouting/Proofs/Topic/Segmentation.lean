import TopicRouting.Topic.Key

set_option autoImplicit false

namespace TopicRouting

namespace Path

theorem text_append (a b : Path) : Path.text (a ++ b) = a.text ++ b.text := by
  induction a with
  | nil => simp [text]
  | cons segment rest ih =>
      rw [List.cons_append, text, text, ih, String.append_assoc]

-- The paths that cutting produces: names without separators, branches all the way
-- and at most one leaf, with a name, at the end.
def Topical : Path → Prop
  | [] => True
  | .branch name :: rest => separator ∉ name.toList ∧ Topical rest
  | [.leaf name] => name ≠ "" ∧ separator ∉ name.toList
  | .leaf _ :: _ :: _ => False
  | .literal _ :: _ => False

theorem topical_induction {motive : (path : Path) → path.Topical → Prop} (nil : motive [] trivial)
    (branch : ∀ (name : String) (rest : Path) (clean : separator ∉ name.toList)
      (later : rest.Topical), motive rest later → motive (.branch name :: rest) ⟨clean, later⟩)
    (leaf : ∀ (name : String) (named : name ≠ "") (clean : separator ∉ name.toList),
      motive [.leaf name] ⟨named, clean⟩)
    (path : Path) (topical : path.Topical) : motive path topical := by
  induction path with
  | nil => exact nil
  | cons segment rest ih =>
      cases segment with
      | branch name => exact branch name rest topical.1 topical.2 (ih topical.2)
      | leaf name =>
          cases rest with
          | nil => exact leaf name topical.1 topical.2
          | cons next rest => exact False.elim topical
      | literal key => exact False.elim topical

theorem topical_append_iff (a b : Path) :
    Topical (a ++ b) ↔
      a.Topical ∧ b.Topical ∧ (b ≠ [] → ∀ segment ∈ a, segment.isBranch = true) := by
  induction a with
  | nil => simp [Topical]
  | cons segment rest ih =>
      cases segment with
      | branch name => simp [Topical, ih, Segment.isBranch, and_assoc]
      | leaf name =>
          cases rest with
          | nil => cases b <;> simp [Topical, Segment.isBranch]
          | cons next rest => simp [Topical]
      | literal key => simp [Topical]

theorem scan_text (pending rest : List Char) :
    (scan pending rest).text.toList = pending.reverse ++ rest := by
  induction rest generalizing pending with
  | nil => cases pending <;> simp [scan, text, Segment.text]
  | cons c rest ih =>
      by_cases cut : c = separator
      · simp [scan, cut, text, Segment.text, ih]
      · simp [scan, cut, ih]

theorem text_ofTopic (topic : String) : (ofTopic topic).text = topic := by
  apply String.ext
  simpa [ofTopic] using scan_text [] topic.toList

theorem scan_topical (pending rest : List Char) (clean : separator ∉ pending) :
    (scan pending rest).Topical := by
  induction rest generalizing pending with
  | nil => cases pending <;> simp_all [scan, Topical]
  | cons c rest ih =>
      by_cases cut : c = separator
      · simpa [scan, cut, Topical, clean] using ih [] (by simp)
      · simpa [scan, cut] using ih (c :: pending) (by simp [clean, Ne.symm cut])

theorem topical_ofTopic (topic : String) : (ofTopic topic).Topical :=
  scan_topical [] topic.toList (by simp)

theorem scan_clean (pending name : List Char) (clean : separator ∉ name) (rest : List Char) :
    scan pending (name ++ rest) = scan (name.reverse ++ pending) rest := by
  induction name generalizing pending with
  | nil => rfl
  | cons c name ih =>
      have parts : separator ≠ c ∧ separator ∉ name := by simpa using clean
      simp [scan, Ne.symm parts.1, ih (c :: pending) parts.2]

theorem scan_branch (name rest : List Char) (clean : separator ∉ name) :
    scan [] (name ++ separator :: rest) = .branch (String.ofList name) :: scan [] rest := by
  simp [scan_clean [] name clean, scan]

theorem scan_leaf (name : List Char) (named : name ≠ []) (clean : separator ∉ name) :
    scan [] name = [.leaf (String.ofList name)] := by
  have whole := scan_clean [] name clean []
  simpa [scan, named] using whole

theorem ofTopic_text (path : Path) (topical : path.Topical) : ofTopic path.text = path := by
  induction path, topical using topical_induction with
  | nil => rfl
  | branch name rest clean _ ih =>
      have later : scan [] (text rest).toList = rest := ih
      simp [ofTopic, text, Segment.text, scan_branch name.toList _ clean, later]
  | leaf name named clean =>
      have filled : name.toList ≠ [] := by simpa using named
      simp [ofTopic, text, Segment.text, scan_leaf name.toList filled clean]

theorem topical_front (a b : Path) (topical : Topical (a ++ b)) : a.Topical :=
  ((topical_append_iff a b).mp topical).1

theorem topical_back (a b : Path) (topical : Topical (a ++ b)) : b.Topical :=
  ((topical_append_iff a b).mp topical).2.1

theorem topical_text_nonempty (path : Path) (topical : path.Topical) (nonempty : path ≠ []) :
    path.text ≠ "" := by
  intro empty
  have same := ofTopic_text path topical
  rw [empty] at same
  exact nonempty same.symm

theorem text_last (segment : Segment) (later : Path) (filled : later.text ≠ "") :
    (text (segment :: later)).toList.getLast? = later.text.toList.getLast? := by
  have last : later.text.toList.getLast?.isSome := by simpa using filled
  rw [text, String.toList_append, List.getLast?_append, Option.or_of_isSome last]

-- A path whose text ends in a separator has no leaf, so whatever follows is cut on its own.
theorem scan_after_separator (path : Path) (topical : path.Topical)
    (ended : path.text.toList.getLast? = some separator) (rest : List Char) :
    scan [] (path.text.toList ++ rest) = path ++ scan [] rest := by
  induction path, topical using topical_induction with
  | nil => simp [text] at ended
  | branch name later clean topical ih =>
      have front := scan_branch name.toList ((text later).toList ++ rest) clean
      by_cases last : later = []
      · subst last
        simpa [text, Segment.text] using front
      · have filled := topical_text_nonempty later topical last
        have endedLater : (text later).toList.getLast? = some separator := by
          rw [← text_last (.branch name) later filled]
          exact ended
        simpa [text, Segment.text, ih endedLater] using front
  | leaf name named clean =>
      have member : separator ∈ name.toList := by
        simpa [text, Segment.text] using List.mem_of_getLast? ended
      exact False.elim (clean member)

theorem topical_ends_with_separator (a b : Path) (topical : Topical (a ++ b)) (nonempty : a ≠ [])
    (more : b ≠ []) : a.text.toList.getLast? = some separator := by
  have branches := ((topical_append_iff a b).mp topical).2.2 more
  rcases List.eq_nil_or_concat a with empty | ⟨front, last, whole⟩
  · exact False.elim (nonempty empty)
  · have isBranch := branches last (by simp [whole])
    cases last with
    | branch name => simp [whole, text_append, text, Segment.text]
    | leaf name => cases isBranch
    | literal key => cases isBranch

theorem topical_not_literal (path : Path) (topical : path.Topical) : path.isLiteral = false := by
  induction path, topical using topical_induction with
  | nil => rfl
  | branch name rest => cases rest <;> rfl
  | leaf => rfl

theorem topical_segments (path : Path) (topical : path.Topical) (segment : Segment)
    (member : segment ∈ path) : segment.isLiteral = false := by
  induction path, topical using topical_induction with
  | nil => cases member
  | branch name rest _ _ ih =>
      rcases List.mem_cons.mp member with rfl | later
      · rfl
      · exact ih later
  | leaf name =>
      cases List.mem_singleton.mp member
      rfl

end Path

end TopicRouting
