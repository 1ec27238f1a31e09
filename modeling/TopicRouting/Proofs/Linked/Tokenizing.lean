import TopicRouting.Proofs.Linked.Tokens
import TopicRouting.Proofs.Topic.Grammar

set_option autoImplicit false

namespace TopicRouting

def cuts : List String → Bool → List (List Char)
  | [], _ => []
  | [name], true => [name.toList ++ [separator]]
  | [name], false => [name.toList]
  | name :: next :: rest, closed => (name.toList ++ [separator]) :: cuts (next :: rest) closed

theorem cuts_characters (names : List String) (closed : Bool) :
    (Path.ofNames names closed).map Segment.characters = cuts names closed := by
  fun_induction cuts names closed with
  | case1 => rfl
  | case2 name => rw [Path.ofNames, List.map_singleton, Segment.branch_characters]
  | case3 name => simp [Path.ofNames, Segment.characters, Segment.text]
  | case4 name next rest closed ih =>
      rw [Path.ofNames, List.map_cons, ih, Segment.branch_characters]

theorem Segment.of_branch_token (name : String) :
    ofToken (name.toList ++ [separator]) = .branch name := by
  simp [ofToken]

theorem cuts_branches (names : List String) (closed : Bool) :
    ∀ token ∈ (cuts names closed).dropLast, (Segment.ofToken token).isBranch = true := by
  fun_induction cuts names closed with
  | case1 | case2 | case3 => exact List.forall_mem_nil _
  | case4 name next rest closed ih =>
      have more : cuts (next :: rest) closed ≠ [] := by
        rw [← cuts_characters]
        exact mt List.map_eq_nil_iff.mp (Path.names_nonempty _ closed (by simp))
      rw [List.dropLast_cons_of_ne_nil more, List.forall_mem_cons, Segment.of_branch_token]
      exact ⟨rfl, ih⟩

namespace Path

theorem characters_text (path : Path) :
    (path.map Segment.characters).flatten = path.text.toList := by
  induction path with
  | nil => simp [text]
  | cons segment rest ih => rw [List.map_cons, List.flatten_cons, ih, text_characters]

theorem of_tokens (path : Path) (topical : path.Topical) :
    (path.map Segment.characters).map Segment.ofToken = path := by
  induction path with
  | nil => rfl
  | cons segment rest ih =>
      obtain ⟨single, later, _⟩ := topical_cons segment rest topical
      rw [List.map_cons, List.map_cons, Segment.of_token segment single, ih later]

end Path

namespace Linked

variable {V : Type}

-- Nothing is asked of the text: the loop ends on every one.
theorem reads_topic_tokens (linked : LinkedTable V) (text : String) :
    Reads (tokens text.toList []) linked ((Path.ofTopic text).map Segment.characters) := by
  have reads := reads_tokens linked _ (Path.topical_ofTopic text) []
  rw [Path.text_ofTopic] at reads
  exact reads

theorem tokens_join (linked : LinkedTable V) (text : String) (parts : List (List Char))
    (reads : Reads (tokens text.toList []) linked parts) : parts.flatten = text.toList := by
  rw [reads_unique _ linked _ _ reads (reads_topic_tokens linked text), Path.characters_text,
    Path.text_ofTopic]

structure CutsNames (linked : LinkedTable V) (text : String) (names : List String)
    (closed : Bool) : Prop where
  parts : Reads (tokens text.toList []) linked (cuts names closed)
  ended : closed = true ↔ text.toList.getLast? = some separator
  joined : (cuts names closed).flatten = text.toList
  branches : ∀ token ∈ (cuts names closed).dropLast, (Segment.ofToken token).isBranch = true
  segments : (cuts names closed).map Segment.ofToken = Path.ofTopic text

theorem dotted_cut (linked : LinkedTable V) (text : String) (names : List String) (closed : Bool)
    (dotted : Dotted text names closed) : CutsNames linked text names closed := by
  have parts : (Path.ofTopic text).map Segment.characters = cuts names closed := by
    rw [dotted_path text names closed dotted, cuts_characters]
  have reads := reads_topic_tokens linked text
  rw [parts] at reads
  refine ⟨reads, (dotted_closed_iff text names closed dotted).symm,
    tokens_join linked text _ reads, cuts_branches names closed, ?_⟩
  rw [← parts]
  exact Path.of_tokens _ (Path.topical_ofTopic text)

end Linked

namespace KeyRules

variable {V : Type}

structure FollowsGrammar (rules : KeyRules) (linked : LinkedTable V) : Prop where
  topic : ∀ text, rules.classify text = .ok .topic ↔
    (∃ names closed, Dotted text names closed) ∧
      text.toList.head? ≠ some rules.literalMarker ∧ text.utf8ByteSize < rules.maxLength
  literal : ∀ text, rules.classify text = .ok .literal ↔
    text ≠ "" ∧ text.utf8ByteSize < rules.maxLength ∧ '\x00' ∉ text.toList ∧
      text.toList.head? = some rules.literalMarker
  once : ∀ text names others closed ended, Dotted text names closed → Dotted text others ended →
    names = others ∧ closed = ended
  cut : ∀ text names closed, rules.classify text = .ok .topic → Dotted text names closed →
    Linked.CutsNames linked text names closed
  apart : ∀ text other parts, rules.classify text = .ok .topic → rules.classify other = .ok .topic →
    Linked.Reads (Linked.tokens text.toList []) linked parts →
    Linked.Reads (Linked.tokens other.toList []) linked parts → text = other

theorem keys_follow_grammar (rules : KeyRules) (linked : LinkedTable V) :
    rules.FollowsGrammar linked := by
  constructor
  case topic => exact classify_dotted_iff rules
  case literal => exact classify_literal_iff rules
  case once =>
    intro text names others closed ended dotted again
    exact dotted_once text names closed dotted others ended again
  case cut => exact fun text names closed _ => Linked.dotted_cut linked text names closed
  case apart =>
    intro text other parts _ _ first second
    rw [← String.toList_inj, ← Linked.tokens_join linked text parts first]
    exact Linked.tokens_join linked other parts second

end KeyRules

end TopicRouting
