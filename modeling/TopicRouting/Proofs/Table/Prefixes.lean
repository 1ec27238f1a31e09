import TopicRouting.Proofs.Table.Growth
import TopicRouting.Proofs.Table.Resolution

set_option autoImplicit false

namespace TopicRouting

universe u v

variable {V : Type u}

structure Enumerates (texts : List String) (P : String → Prop) : Prop where
  once : texts.Nodup
  member : ∀ text, text ∈ texts ↔ P text

theorem enumerates_length (texts others : List String) (P : String → Prop)
    (first : Enumerates texts P) (second : Enumerates others P) : texts.length = others.length := by
  apply List.Perm.length_eq
  rw [List.perm_ext_iff_of_nodup first.once second.once]
  intro text
  rw [first.member, second.member]

theorem enumerates_split (texts : List String) (P Q : String → Prop) (test : String → Bool)
    (whole : Enumerates texts fun text => P text ∨ Q text) (holds : ∀ text, P text → test text = true)
    (fails : ∀ text, Q text → test text = false) :
    Enumerates (texts.filter test) P ∧ Enumerates (texts.filter fun text => !test text) Q ∧
      texts.length = (texts.filter test).length + (texts.filter fun text => !test text).length := by
  refine ⟨⟨whole.once.filter _, ?_⟩, ⟨whole.once.filter _, ?_⟩, ?_⟩
  · intro text
    have here := holds text
    have there := fails text
    rw [List.mem_filter, whole.member]
    grind
  · intro text
    have here := holds text
    have there := fails text
    rw [List.mem_filter, whole.member]
    grind
  · rw [← List.length_append]
    exact (List.filter_append_perm test texts).length_eq.symm

namespace KeyRules

variable (rules : KeyRules) (keys : String → Prop)

def Literal (text : String) : Prop := keys text ∧ rules.classify text = .ok .literal

def Head (text : String) : Prop :=
  ∃ key, keys key ∧ rules.classify key = .ok .topic ∧
    ∃ first rest, Path.ofTopic key = first :: rest ∧ first.text = text

def Front (text : String) : Prop :=
  ∃ key, keys key ∧ rules.classify key = .ok .topic ∧
    ∃ front rest, Path.ofTopic key = front ++ rest ∧ front ≠ [] ∧ front.text = text

def Extends (longer key : String) : Prop :=
  (rules.classify longer = .ok .topic ∧ rules.classify key = .ok .topic ∧
      Path.ofTopic key <+: Path.ofTopic longer) ∨
    rules.classify longer = .ok .literal ∧ longer = key

theorem head_front (text : String) (head : rules.Head keys text) : rules.Front keys text := by
  obtain ⟨key, member, isTopic, first, rest, cut, rfl⟩ := head
  refine ⟨key, member, isTopic, [first], rest, cut, by simp, ?_⟩
  rw [Path.text, Path.text, String.append_empty]

theorem front_topic (text : String) (front : rules.Front keys text) :
    rules.classify text = .ok .topic := by
  obtain ⟨key, _, isTopic, front, rest, cut, nonempty, rfl⟩ := front
  have topical := Path.topical_ofTopic key
  rw [cut] at topical
  have filled := Path.topical_text_nonempty front (Path.topical_front front rest topical) nonempty
  have whole : front.text ++ rest.text = key := by
    rw [← Path.text_append, ← cut, Path.text_ofTopic]
  rw [← whole] at isTopic
  exact classify_topic_front rules _ _ filled isTopic

def isTopic (text : String) : Bool :=
  match rules.classify text with
  | .ok .topic => true
  | _ => false

theorem parts_split (texts : List String) (P : String → Prop)
    (starts : ∀ text, P text → rules.Front keys text)
    (whole : Enumerates texts fun text => P text ∨ rules.Literal keys text) :
    ∃ parts literals, Enumerates parts P ∧ Enumerates literals (rules.Literal keys) ∧
      texts.length = parts.length + literals.length := by
  refine ⟨_, _, enumerates_split texts P _ rules.isTopic whole ?_ ?_⟩
  · intro text part
    rw [isTopic, front_topic rules keys text (starts text part)]
  · intro text literal
    rw [isTopic, literal.2]

end KeyRules

namespace Table

theorem extends_rules (table : Table V) (longer key : String) :
    table.config.keyRules.Extends longer key ↔ table.Extends longer key := by
  simp only [KeyRules.Extends, Extends, key_kind_iff]

def Key (table : Table V) (key : String) : Prop := ∃ value, table.Registered key value

section

variable (table : Table V) (sound : table.Sound)
include sound

theorem key_iff (key : String) :
    table.Key key ↔ ∃ path value, table.keyPath key = .ok path ∧ (path, value) ∈ table.routes := by
  constructor
  · rintro ⟨value, registered⟩
    obtain ⟨path, named, member⟩ := (registered_iff table sound key value).mp registered
    exact ⟨path, value, named, member⟩
  · rintro ⟨path, value, named, member⟩
    exact ⟨value, (registered_iff table sound key value).mpr ⟨path, named, member⟩⟩

theorem node_iff_key (path : Path) (nonempty : path ≠ []) :
    (∃ here, table.forest.node? path = some here) ↔
      table.config.keyRules.Literal table.Key path.text ∧ path = [.literal path.text] ∨
        ∃ key, table.Key key ∧ table.config.keyRules.classify key = .ok .topic ∧
          ∃ rest, Path.ofTopic key = path ++ rest := by
  rw [Forest.node_of_route table.forest sound.regular path nonempty]
  constructor
  · rintro ⟨rest, value, member⟩
    have registered : table.Key (path ++ rest).text := ⟨value, _, member, rfl⟩
    have named := route_key_path table sound _ value member
    obtain ⟨kind, valid, cut⟩ := (key_path_iff table _ _).mp named
    cases kind with
    | topic => exact Or.inr ⟨_, registered, valid, rest, cut⟩
    | literal =>
        have single : path = [.literal (path ++ rest).text] ∧ rest = [] := by
          rw [KeyKind.path, eq_comm, List.append_eq_singleton_iff] at cut
          grind
        obtain ⟨isLiteral, rfl⟩ := single
        rw [List.append_nil] at *
        exact Or.inl ⟨⟨registered, valid⟩, isLiteral⟩
  · rintro (⟨⟨registered, valid⟩, isLiteral⟩ | ⟨key, registered, valid, rest, cut⟩)
    · obtain ⟨whole, value, named, member⟩ := (key_iff table sound _).mp registered
      obtain ⟨kind, validToo, rfl⟩ := (key_path_iff table _ _).mp named
      cases valid.symm.trans validToo
      rw [KeyKind.path, ← isLiteral] at member
      exact ⟨[], value, by rwa [List.append_nil]⟩
    · obtain ⟨whole, value, named, member⟩ := (key_iff table sound key).mp registered
      obtain ⟨kind, validToo, rfl⟩ := (key_path_iff table _ _).mp named
      cases valid.symm.trans validToo
      rw [KeyKind.path, cut] at member
      exact ⟨rest, value, member⟩

theorem node_text_iff (text : String) :
    (∃ path here, table.forest.node? path = some here ∧ path.text = text) ↔
      table.config.keyRules.Front table.Key text ∨
        table.config.keyRules.Literal table.Key text := by
  constructor
  · rintro ⟨path, here, found, rfl⟩
    have nonempty := KeyRules.spells_nonempty _ _ (sound.spelled path here found)
    rcases (node_iff_key table sound path nonempty).mp ⟨here, found⟩ with
      ⟨isLiteral, _⟩ | ⟨key, registered, isTopic, rest, cut⟩
    · exact Or.inr isLiteral
    · exact Or.inl ⟨key, registered, isTopic, path, rest, cut, nonempty, rfl⟩
  · rintro (⟨key, registered, isTopic, front, rest, cut, nonempty, rfl⟩ | isLiteral)
    · obtain ⟨here, found⟩ := (node_iff_key table sound front nonempty).mpr
        (Or.inr ⟨key, registered, isTopic, rest, cut⟩)
      exact ⟨front, here, found, rfl⟩
    · have whole : Path.text [.literal text] = text := text_key_path .literal text
      obtain ⟨here, found⟩ := (node_iff_key table sound [.literal text] (by simp)).mpr
        (Or.inl (by rw [whole]; exact ⟨isLiteral, rfl⟩))
      exact ⟨_, here, found, whole⟩

theorem root_text_iff (text : String) :
    (∃ segment ∈ table.forest.segments, segment.text = text) ↔
      table.config.keyRules.Head table.Key text ∨ table.config.keyRules.Literal table.Key text := by
  have single : ∀ segment : Segment, Path.text [segment] = segment.text :=
    fun segment => String.append_empty
  have root : ∀ segment, segment ∈ table.forest.segments ↔
      ∃ here, table.forest.node? [segment] = some here := by
    intro segment
    rw [← Option.isSome_iff_exists, ← Option.ne_none_iff_isSome, Forest.node?, ne_eq,
      Forest.child_none_iff, Classical.not_not]
  simp only [root, node_iff_key table sound _ (List.cons_ne_nil _ _), single]
  constructor
  · rintro ⟨segment, ⟨isLiteral, _⟩ | ⟨key, registered, isTopic, rest, cut⟩, rfl⟩
    · exact Or.inr isLiteral
    · exact Or.inl ⟨key, registered, isTopic, segment, rest, cut, rfl⟩
  · rintro (⟨key, registered, isTopic, first, rest, cut, rfl⟩ | isLiteral)
    · exact ⟨first, Or.inr ⟨key, registered, isTopic, rest, cut⟩, rfl⟩
    · exact ⟨.literal text, Or.inl ⟨isLiteral, rfl⟩, rfl⟩

theorem nodes_enumerated :
    Enumerates ((table.forest.nodes.map Prod.fst).map Path.text) fun text =>
      table.config.keyRules.Front table.Key text ∨
        table.config.keyRules.Literal table.Key text := by
  constructor
  · apply nodup_map_of_unique Path.text _ (Forest.nodes_distinct _ sound.regular)
    intro path member other memberToo same
    obtain ⟨⟨_, here⟩, listed, rfl⟩ := List.mem_map.mp member
    obtain ⟨⟨_, there⟩, listedToo, rfl⟩ := List.mem_map.mp memberToo
    rw [Forest.nodes_iff _ sound.regular] at listed listedToo
    exact KeyRules.spells_once _ _ _ (sound.spelled _ here listed) (sound.spelled _ there listedToo)
      same
  · intro text
    rw [← node_text_iff table sound]
    simp [Forest.nodes_iff _ sound.regular]

theorem roots_enumerated :
    Enumerates (table.forest.segments.map Segment.text) fun text =>
      table.config.keyRules.Head table.Key text ∨
        table.config.keyRules.Literal table.Key text := by
  constructor
  · apply nodup_map_of_unique Segment.text _ sound.regular.distinct
    intro segment member other memberToo same
    obtain ⟨⟨_, here⟩, listed, rfl⟩ := List.mem_map.mp member
    obtain ⟨⟨_, there⟩, listedToo, rfl⟩ := List.mem_map.mp memberToo
    rw [Forest.tops_iff _ _ _ sound.regular.distinct] at listed listedToo
    have paths := KeyRules.spells_once _ _ _ (sound.spelled [_] here listed)
      (sound.spelled [_] there listedToo) (by simp [Path.text, same])
    exact (List.cons.inj paths).1
  · intro text
    rw [← root_text_iff table sound, List.mem_map]

theorem counts_enumerated :
    ∃ heads fronts literals, Enumerates heads (table.config.keyRules.Head table.Key) ∧
      Enumerates fronts (table.config.keyRules.Front table.Key) ∧
      Enumerates literals (table.config.keyRules.Literal table.Key) ∧
      table.roots.count = heads.length + literals.length ∧
      table.nodeCount = fronts.length + literals.length := by
  obtain ⟨heads, words, isHead, isWord, roots⟩ := KeyRules.parts_split _ table.Key _ _
    (KeyRules.head_front _ _) (roots_enumerated table sound)
  obtain ⟨fronts, literals, isFront, isLiteral, nodes⟩ := KeyRules.parts_split _ table.Key _ _
    (fun _ front => front) (nodes_enumerated table sound)
  rw [enumerates_length words literals _ isWord isLiteral, List.length_map, forest,
    Roots.forest_segments, List.length_map] at roots
  rw [List.length_map, List.length_map, Forest.nodes_size] at nodes
  exact ⟨heads, fronts, literals, isHead, isFront, isLiteral, roots, nodes⟩

theorem keyless_iff : table.nodeCount = 0 ↔ ∀ key, ¬ table.Key key := by
  constructor
  · rintro nodeless key ⟨value, path, member, _⟩
    rw [routes, (Forest.size_zero table.forest).mp nodeless] at member
    cases member
  · intro keyless
    have nodes := Forest.nodes_size table.forest
    cases listed : table.forest.nodes with
    | nil =>
        rw [listed] at nodes
        exact nodes.symm
    | cons first later =>
        have member : first ∈ table.forest.nodes := by simp [listed]
        have spelled := (nodes_enumerated table sound).member first.1.text
        rcases spelled.mp (List.mem_map_of_mem (List.mem_map_of_mem member)) with
          ⟨key, registered, _⟩ | ⟨registered, _⟩
        · exact absurd registered (keyless key)
        · exact absurd registered (keyless _)

end

end Table

end TopicRouting
