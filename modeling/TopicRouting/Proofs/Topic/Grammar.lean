import TopicRouting.Proofs.Topic.Naming

set_option autoImplicit false

namespace TopicRouting

-- A text made of names, closed when a separator stands behind the last of them.
structure Dotted (text : String) (names : List String) (closed : Bool) : Prop where
  named : names ≠ []
  proper : ∀ name ∈ names, name ≠ "" ∧ separator ∉ name.toList ∧ '\x00' ∉ name.toList
  joined : text = String.intercalate "." names ++ if closed then "." else ""

namespace Path

def ofNames : List String → Bool → Path
  | [], _ => []
  | [name], true => [.branch name]
  | [name], false => [.leaf name]
  | name :: next :: rest, closed => .branch name :: ofNames (next :: rest) closed

theorem names_nonempty (names : List String) (closed : Bool) (named : names ≠ []) :
    ofNames names closed ≠ [] := by
  fun_cases ofNames names closed with
  | case1 => exact False.elim (named rfl)
  | case2 | case3 | case4 => simp

theorem names_text (names : List String) (closed : Bool) (named : names ≠ []) :
    (ofNames names closed).text = String.intercalate "." names ++ if closed then "." else "" := by
  fun_induction ofNames names closed with
  | case1 => exact False.elim (named rfl)
  | case2 name => simp [text, Segment.text, separator, String.push_eq_append]
  | case3 name => simp [text, Segment.text]
  | case4 name next rest closed ih =>
      rw [text, ih (by simp), String.intercalate_cons_cons, Segment.text, String.push_eq_append]
      simp [separator, String.append_assoc]

theorem names_segments (names : List String) (closed : Bool) :
    (ofNames names closed).map Segment.name = names := by
  fun_induction ofNames names closed with
  | case1 | case2 | case3 => rfl
  | case4 name next rest closed ih => rw [List.map_cons, ih, Segment.name]

theorem names_topical (names : List String) (closed : Bool)
    (clean : ∀ name ∈ names, name ≠ "" ∧ separator ∉ name.toList) :
    (ofNames names closed).Topical := by
  fun_induction ofNames names closed with
  | case1 => trivial
  | case2 name => exact ⟨(clean name (by simp)).2, trivial⟩
  | case3 name => exact clean name (by simp)
  | case4 name next rest closed ih =>
      rw [List.forall_mem_cons] at clean
      exact ⟨clean.1.2, ih clean.2⟩

theorem names_last (names : List String) (closed : Bool) (named : names ≠ [])
    (clean : ∀ name ∈ names, name ≠ "" ∧ separator ∉ name.toList) :
    (ofNames names closed).text.toList.getLast? = some separator ↔ closed = true := by
  fun_induction ofNames names closed with
  | case1 => exact False.elim (named rfl)
  | case2 name => simp [text, Segment.text]
  | case3 name =>
      have whole : (text [.leaf name]).toList = name.toList := by simp [text, Segment.text]
      rw [whole]
      exact iff_of_false (fun last => (clean name (by simp)).2 (List.mem_of_getLast? last)) (by simp)
  | case4 name next rest closed ih =>
      have later := (List.forall_mem_cons.mp clean).2
      have filled := topical_text_nonempty _ (names_topical (next :: rest) closed later)
        (names_nonempty (next :: rest) closed (by simp))
      rw [text_last (.branch name) _ filled]
      exact ih (by simp) later

-- Only the last segment can be a leaf, so that the names of a topic leave one thing open.
theorem topical_names (path : Path) (topical : path.Topical) :
    ∃ closed, path = ofNames (path.map Segment.name) closed := by
  induction path, topical using topical_induction with
  | nil => exact ⟨false, rfl⟩
  | branch name rest _ _ ih =>
      obtain ⟨closed, whole⟩ := ih
      cases rest with
      | nil => exact ⟨true, rfl⟩
      | cons next rest => exact ⟨closed, congrArg (Segment.branch name :: ·) whole⟩
  | leaf => exact ⟨false, rfl⟩

theorem topical_name_clean (path : Path) (topical : path.Topical) :
    ∀ segment ∈ path, separator ∉ segment.name.toList := by
  induction path, topical using topical_induction with
  | nil => exact List.forall_mem_nil _
  | branch name rest clean _ ih => exact List.forall_mem_cons.mpr ⟨clean, ih⟩
  | leaf name _ clean => exact List.forall_mem_singleton.mpr clean

end Path

section

variable (text : String) (names : List String) (closed : Bool) (dotted : Dotted text names closed)
include dotted

theorem dotted_text : (Path.ofNames names closed).text = text := by
  rw [Path.names_text names closed dotted.named, dotted.joined]

theorem dotted_clean : ∀ name ∈ names, name ≠ "" ∧ separator ∉ name.toList := fun name member =>
  ⟨(dotted.proper name member).1, (dotted.proper name member).2.1⟩

theorem dotted_topical : (Path.ofNames names closed).Topical :=
  Path.names_topical names closed (dotted_clean text names closed dotted)

theorem dotted_path : Path.ofTopic text = Path.ofNames names closed := by
  rw [← dotted_text text names closed dotted]
  exact Path.ofTopic_text _ (dotted_topical text names closed dotted)

theorem dotted_closed_iff : text.toList.getLast? = some separator ↔ closed = true := by
  rw [← dotted_text text names closed dotted]
  exact Path.names_last names closed dotted.named (dotted_clean text names closed dotted)

theorem dotted_once (others : List String) (ended : Bool) (again : Dotted text others ended) :
    names = others ∧ closed = ended := by
  constructor
  · rw [← Path.names_segments names closed, ← dotted_path text names closed dotted,
      dotted_path text others ended again, Path.names_segments]
  · rw [Bool.eq_iff_iff, ← dotted_closed_iff text names closed dotted,
      dotted_closed_iff text others ended again]

end

theorem dotted_of_path (path : Path) (topical : path.Topical) (nonempty : path ≠ [])
    (proper : ∀ segment ∈ path, segment.Proper) :
    ∃ closed, Dotted path.text (path.map Segment.name) closed := by
  obtain ⟨closed, whole⟩ := Path.topical_names path topical
  have named : path.map Segment.name ≠ [] := mt List.map_eq_nil_iff.mp nonempty
  refine ⟨closed, named, ?_, ?_⟩
  · intro name member
    obtain ⟨segment, present, rfl⟩ := List.mem_map.mp member
    exact ⟨(proper segment present).1, Path.topical_name_clean path topical segment present,
      (proper segment present).2⟩
  · rw [← Path.names_text _ closed named, ← whole]

theorem KeyRules.classify_dotted_iff (rules : KeyRules) (text : String) :
    rules.classify text = .ok .topic ↔
      (∃ names closed, Dotted text names closed) ∧
        text.toList.head? ≠ some rules.literalMarker ∧ text.utf8ByteSize < rules.maxLength := by
  constructor
  · intro topic
    obtain ⟨filled, short, noNul, unmarked, clean⟩ := (classify_topic_iff rules text).mp topic
    have topical := Path.topical_ofTopic text
    have whole := Path.text_ofTopic text
    rw [← whole] at filled noNul clean
    have nonempty : Path.ofTopic text ≠ [] := fun empty => filled (by rw [empty]; rfl)
    have proper : ∀ segment ∈ Path.ofTopic text, segment.Proper := fun segment member =>
      ⟨(Path.topical_clean_iff _ topical).mp clean segment member, fun present =>
        noNul ((Path.text_member _ '\x00' (by decide)).mpr ⟨segment, member, present⟩)⟩
    obtain ⟨closed, dotted⟩ := dotted_of_path _ topical nonempty proper
    rw [whole] at dotted
    exact ⟨⟨_, closed, dotted⟩, unmarked, short⟩
  · rintro ⟨⟨names, closed, dotted⟩, unmarked, short⟩
    have spelled := dotted_text text names closed dotted
    rw [← spelled] at unmarked short ⊢
    refine classify_named rules _ (dotted_topical text names closed dotted)
      (Path.names_nonempty names closed dotted.named) short unmarked ?_
    intro segment member
    have named : segment.name ∈ names := by
      rw [← Path.names_segments names closed]
      exact List.mem_map_of_mem member
    exact ⟨(dotted.proper _ named).1, (dotted.proper _ named).2.2⟩

end TopicRouting
