import TopicRouting.Linked.Walk
import TopicRouting.Proofs.Linked.Steps
import TopicRouting.Proofs.Topic.Spelling

set_option autoImplicit false

namespace TopicRouting

theorem utf8_length_append (a b : List Char) :
    utf8Length (a ++ b) = utf8Length a + utf8Length b := by
  induction a with
  | nil => simp [utf8Length]
  | cons c a ih => rw [List.cons_append, utf8Length, utf8Length, ih, Nat.add_assoc]

theorem cut_front (a b : List Char) : cutAt? (utf8Length a) (a ++ b) = some (a, b) := by
  induction a with
  | nil => simp [utf8Length, cutAt?]
  | cons c a ih =>
      have size : utf8Length (c :: a) = c.utf8Size + utf8Length a := by simp [utf8Length]
      have positive := c.utf8Size_pos
      obtain ⟨bytes, isBytes⟩ : ∃ bytes, utf8Length (c :: a) = bytes + 1 :=
        ⟨utf8Length (c :: a) - 1, by omega⟩
      have left : bytes + 1 - c.utf8Size = utf8Length a := by omega
      rw [isBytes, List.cons_append, cutAt?, if_pos (by omega), left, ih]
      rfl

theorem separator_offset_none (text : List Char) (clean : separator ∉ text) :
    separatorOffset? text = none := by
  induction text with
  | nil => rfl
  | cons c rest ih =>
      have parts := List.ne_and_not_mem_of_not_mem_cons clean
      simp [separatorOffset?, Ne.symm parts.1, ih parts.2]

theorem separator_offset_front (name rest : List Char) (clean : separator ∉ name) :
    separatorOffset? (name ++ separator :: rest) = some (utf8Length name) := by
  induction name with
  | nil => simp [separatorOffset?, utf8Length]
  | cons c name ih =>
      have parts := List.ne_and_not_mem_of_not_mem_cons clean
      simp [separatorOffset?, Ne.symm parts.1, ih parts.2, utf8Length]

theorem separator_length : utf8Length [separator] = 1 := by decide

namespace Path

theorem text_characters (segment : Segment) (rest : Path) :
    (text (segment :: rest)).toList = segment.characters ++ rest.text.toList := by
  simp [text, Segment.characters]

theorem topical_cons (segment : Segment) (rest : Path) (topical : Topical (segment :: rest)) :
    Topical [segment] ∧ Topical rest ∧ (rest ≠ [] → segment.isBranch = true) := by
  obtain ⟨single, later, branches⟩ := (topical_append_iff [segment] rest).mp topical
  exact ⟨single, later, fun more => branches more segment List.mem_cons_self⟩

end Path

theorem KeyRules.spells_text (rules : KeyRules) (a b : Segment) (first : rules.Spells [a])
    (second : rules.Spells [b]) (same : a.text = b.text) : a = b := by
  have paths := spells_once rules [a] [b] first second (by simp [Path.text, same])
  exact (List.cons.inj paths).1

namespace Segment

theorem characters_nonempty (segment : Segment) (topical : Path.Topical [segment]) :
    segment.characters ≠ [] := by
  have filled := Path.topical_text_nonempty [segment] topical (by simp)
  simpa [Path.text, characters] using filled

theorem branch_characters (name : String) :
    (Segment.branch name).characters = name.toList ++ [separator] := by
  simp [characters, text]

theorem leaf_clean (name : String) (topical : Path.Topical [.leaf name]) :
    separator ∉ (Segment.leaf name).characters := topical.2

theorem of_token (segment : Segment) (topical : Path.Topical [segment]) :
    ofToken segment.characters = segment := by
  cases segment with
  | branch name => simp [ofToken, branch_characters]
  | leaf name =>
      have last : (Segment.leaf name).characters.getLast? ≠ some separator :=
        fun isLast => topical.2 (List.mem_of_getLast? isLast)
      simp only [ofToken, if_neg last]
      simp [characters, text]
  | literal key => exact False.elim topical

theorem matches_head_iff (segment head : Segment) (rest : Path) (topical : Path.Topical [segment])
    (whole : Path.Topical (head :: rest)) :
    segment.matchesHead (Path.text (head :: rest)).toList = true ↔ segment = head := by
  have same := Path.ofTopic_text (head :: rest) whole
  cases segment with
  | branch name =>
      rw [matchesHead, List.isPrefixOf_iff_prefix, branch_characters]
      constructor
      · rintro ⟨later, isText⟩
        rw [Path.ofTopic, ← isText, List.append_assoc, List.singleton_append,
          Path.scan_branch name.toList later topical.1] at same
        simpa using (List.cons.inj same).1
      · rintro rfl
        exact ⟨rest.text.toList, by rw [Path.text_characters, branch_characters]⟩
  | leaf name =>
      rw [matchesHead, beq_iff_eq]
      constructor
      · intro isText
        have named : name.toList ≠ [] := characters_nonempty _ topical
        rw [Path.ofTopic, isText, characters, text,
          Path.scan_leaf name.toList named topical.2] at same
        simpa using (List.cons.inj same).1
      · rintro rfl
        obtain ⟨_, _, branch⟩ := Path.topical_cons _ rest whole
        have last : rest = [] := by
          by_cases more : rest = []
          · exact more
          · cases branch more
        simp [last, Path.text, characters]
  | literal key => exact False.elim topical

end Segment

namespace Linked

variable {V : Type}

theorem reads_cut (table : LinkedTable V) (a b : List Char) :
    Reads (cut (utf8Length a) (a ++ b)) table (a, b) := by
  rw [cut, cut_front]
  exact reads_pure table (a, b)

theorem reads_head_token (table : LinkedTable V) (segment : Segment) (rest : Path)
    (topical : Path.Topical (segment :: rest)) :
    Reads (headToken (Path.text (segment :: rest)).toList) table segment.characters := by
  obtain ⟨single, _, branch⟩ := Path.topical_cons segment rest topical
  rw [Path.text_characters]
  cases segment with
  | branch name =>
      have offset := separator_offset_front name.toList rest.text.toList topical.1
      have bytes : utf8Length name.toList + 1 = utf8Length (Segment.branch name).characters := by
        rw [Segment.branch_characters, utf8_length_append, separator_length]
      rw [Segment.branch_characters, List.append_assoc, List.singleton_append, headToken, offset]
      simp only [bytes]
      have parts := reads_cut table (Segment.branch name).characters rest.text.toList
      rw [Segment.branch_characters, List.append_assoc, List.singleton_append] at parts
      rw [Segment.branch_characters]
      exact reads_bind _ parts (reads_pure table _)
  | leaf name =>
      have last : rest = [] := by
        by_cases more : rest = []
        · exact more
        · cases branch more
      subst last
      have clean := separator_offset_none _ (Segment.leaf_clean name single)
      simp only [Path.text, String.toList_empty, List.append_nil, headToken, clean]
      exact reads_pure table _
  | literal key => exact False.elim single

theorem reads_tokens (table : LinkedTable V) (path : Path) (topical : path.Topical)
    (done : List (List Char)) :
    Reads (tokens path.text.toList done) table (done ++ path.map Segment.characters) := by
  induction path generalizing done with
  | nil =>
      rw [tokens_eq]
      simpa [Path.text] using reads_pure table done
  | cons segment rest ih =>
      obtain ⟨single, later, _⟩ := Path.topical_cons segment rest topical
      have filled : (Path.text (segment :: rest)).toList.isEmpty = false := by
        simp [Path.text_characters, Segment.characters_nonempty segment single]
      rw [tokens_eq]
      simp only [filled]
      refine reads_bind _ (reads_head_token table segment rest topical) ?_
      rw [Path.text_characters]
      refine reads_bind _ (reads_cut table _ _) ?_
      simpa using ih later (done ++ [segment.characters])

theorem reads_key_head (table : LinkedTable V) (key : String) (kind : KeyKind) (head : Segment)
    (rest : Path) (named : kind.path key = head :: rest) :
    Reads (keyHead key kind) table head.characters := by
  cases kind with
  | literal =>
      cases named
      exact reads_pure table _
  | topic =>
      have token := reads_head_token table head rest (named ▸ Path.topical_ofTopic key)
      rwa [← named, text_key_path] at token

end Linked

section

variable (key : String) (kind : KeyKind) (head : Segment) (rest : Path)
  (named : kind.path key = head :: rest)
include named

theorem key_characters : key.toList = head.characters ++ rest.text.toList := by
  rw [← text_key_path kind key, named, Path.text_characters]

theorem key_tail : rest.Topical := by
  cases kind with
  | literal =>
      cases named
      trivial
  | topic => exact (Path.topical_cons head rest (named ▸ Path.topical_ofTopic key)).2.1

theorem key_head_matches : head.matchesHead key.toList = true := by
  cases kind with
  | literal =>
      cases named
      simp [Segment.matchesHead, Segment.characters, Segment.text]
  | topic =>
      have topical : Path.Topical (head :: rest) := named ▸ Path.topical_ofTopic key
      rw [← text_key_path .topic key, named]
      exact (Segment.matches_head_iff head head rest (Path.topical_cons _ _ topical).1 topical).mpr rfl

theorem key_head_spelled (rules : KeyRules) (valid : rules.classify key = .ok kind) :
    rules.Spells [head] := by
  have whole := KeyRules.spells_key_path _ key kind valid
  rw [named] at whole
  exact KeyRules.spells_front _ [head] rest (by simp) whole

end

end TopicRouting
