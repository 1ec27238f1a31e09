import TopicRouting.Linked.Lookup
import TopicRouting.Proofs.Linked.Represents

set_option autoImplicit false

namespace TopicRouting

open Layout

variable {V : Type}

-- The node at a path: the end of a spine of the tree in a slot.
structure LinkedTable.Locates (linked : LinkedTable V) (layout : Layout V) (path : Path)
    (slot : Nat) (spine : Spine V) (below : Grove V) : Prop where
  held : layout[slot]? = some (some (spine.fill below))
  path : spine.path = path
  reaches : linked.arena.Reaches spine below

namespace LinkedTable

section

variable (linked : LinkedTable V) (table : Table V) (layout : Layout V)
  (represents : linked.Represents table layout)
include represents

theorem held_node (slot : Nat) (plant : Plant V) (held : layout[slot]? = some (some plant))
    (rest : Path) :
    table.forest.node? (plant.segment :: rest) =
      plant.tree.toForest.node? (plant.segment :: rest) := by
  rw [Forest.node_cons, Forest.node_cons, Table.forest, Roots.forest_child,
    held_root linked table layout represents slot plant held]
  exact congrArg (fun node => node.bind fun here => here.below? rest)
    (Roots.toForest_child plant.tree).symm

theorem located_node (path : Path) (slot : Nat) (spine : Spine V) (below : Grove V)
    (locates : linked.Locates layout path slot spine below) :
    table.forest.node? path = some ⟨spine.target, below.forest⟩ := by
  have node := spine.fill_node locates.reaches.apart below
  have same := held_node linked table layout represents slot _ locates.held spine.later
  rw [Spine.fill_segment, ← Spine.path, node, locates.path] at same
  exact same

theorem stuck_node (path : Path) (slot : Nat) (spine : Spine V) (below : Grove V)
    (locates : linked.Locates layout path slot spine below) (head : Segment) (rest : Path)
    (stuck : below.forest.child? head = none) :
    table.forest.node? (path ++ head :: rest) = none := by
  have nonempty : path ≠ [] := by
    rw [← locates.path, Spine.path]
    simp
  rw [Forest.node_append _ _ _ nonempty,
    located_node linked table layout represents path slot spine below locates, Option.bind_some,
    Node.below?, Forest.node_cons, stuck, Option.bind_none]

variable (key : String) (kind : KeyKind)

theorem reads_start (slot : Nat) (plant : Plant V) (held : layout[slot]? = some (some plant))
    (rest : Path) (named : kind.path key = plant.segment :: rest) :
    Linked.Reads (Linked.startWalk key kind) linked
      ⟨some plant.id, plant.segment.characters ++ rest.text.toList⟩ := by
  have reaches := root_reaches linked table layout represents slot plant held
  refine Linked.reads_bind _ (Linked.reads_key_head linked key kind _ _ named) ?_
  rw [Segment.characters, String.ofList_toList]
  refine Linked.reads_bind _ (reads_find_root linked table layout represents slot plant held) ?_
  refine Linked.reads_bind _ (Linked.reads_cell linked _ _ reaches.around) ?_
  simp only [Cell.ofNode, key_head_matches key kind _ _ named]
  rw [key_characters key kind _ _ named]
  exact Linked.reads_pure linked _

theorem reads_start_absent (valid : table.config.keyRules.classify key = .ok kind)
    (head : Segment) (rest : Path) (named : kind.path key = head :: rest)
    (absent : table.roots.find? head = none) :
    Linked.Reads (Linked.startWalk key kind) linked ⟨none, key.toList⟩ := by
  have spelled := key_head_spelled key kind head rest named _ valid
  refine Linked.reads_bind _ (Linked.reads_key_head linked key kind _ _ named) ?_
  rw [Segment.characters, String.ofList_toList]
  refine Linked.reads_bind _ (reads_no_root linked table layout represents head spelled absent) ?_
  exact Linked.reads_pure linked _

theorem walk_cases (valid : table.config.keyRules.classify key = .ok kind) :
    (∃ head rest walk, kind.path key = head :: rest ∧ table.roots.find? head = none ∧
      Linked.Reads (Linked.startWalk key kind) linked walk ∧
      Linked.Reads (Linked.finishWalk [] walk) linked ([], key.toList)) ∨
    ∃ slot spine below rest walk, linked.Locates layout spine.path slot spine below ∧
      spine.path ++ rest = kind.path key ∧ rest.Topical ∧
      (∀ head more, rest = head :: more → below.forest.child? head = none) ∧
      Linked.Reads (Linked.startWalk key kind) linked walk ∧
      Linked.Reads (Linked.finishWalk [] walk) linked (spine.trail, rest.text.toList) := by
  cases named : kind.path key with
  | nil =>
      exact absurd named (KeyRules.spells_nonempty _ _ (KeyRules.spells_key_path _ key kind valid))
  | cons head rest =>
      cases found : table.roots.find? head with
      | none =>
          refine Or.inl ⟨head, rest, _, rfl, found,
            reads_start_absent linked table layout represents key kind valid head rest named found, ?_⟩
          rw [Linked.finish_walk_eq]
          exact Linked.reads_pure linked _
      | some tree =>
          obtain ⟨slot, plant, held, _, rfl⟩ := root_held linked table layout represents head tree found
          have starts := reads_start linked table layout represents key kind slot plant held rest named
          obtain ⟨spine, below, more, arrives, reads⟩ := Linked.walk_arrives linked _ plant.children
            (root_reaches linked table layout represents slot plant held) rest
            (key_tail key kind _ rest named) [] rfl
          refine Or.inr ⟨slot, spine, below, more, _, ⟨?_, rfl, arrives.reaches⟩, arrives.path,
            arrives.topical, arrives.stuck, starts, reads⟩
          rw [arrives.whole]
          exact held

theorem find_exact_refines (valid : table.config.keyRules.classify key = .ok kind) :
    (table.forest.node? (kind.path key) = none ∧
      Linked.Reads (Linked.findExact key kind) linked none) ∨
    ∃ slot spine below, linked.Locates layout (kind.path key) slot spine below ∧
      Linked.Reads (Linked.findExact key kind) linked (some spine.last) := by
  rcases walk_cases linked table layout represents key kind valid with
    ⟨head, rest, walk, named, absent, starts, ends⟩ |
    ⟨slot, spine, below, rest, walk, locates, whole, topical, stuck, starts, ends⟩
  · refine Or.inl ⟨?_, ?_⟩
    · rw [named]
      exact table.roots.forest_rootless head rest absent
    · exact Linked.reads_bind _ starts (Linked.reads_bind _ ends (Linked.reads_pure linked _))
  · cases rest with
    | nil =>
        rw [List.append_nil] at whole
        refine Or.inr ⟨slot, spine, below, whole ▸ locates, ?_⟩
        refine Linked.reads_bind _ starts (Linked.reads_bind _ ends ?_)
        simp only [spine.trail_last]
        exact Linked.reads_pure linked _
    | cons head more =>
        refine Or.inl ⟨?_, ?_⟩
        · rw [← whole]
          exact stuck_node linked table layout represents _ slot spine below locates head more
            (stuck head more rfl)
        · have filled : (Path.text (head :: more)).toList.isEmpty = false := by
            simp [Path.text_characters,
              Segment.characters_nonempty head (Path.topical_cons _ _ topical).1]
          refine Linked.reads_bind _ starts (Linked.reads_bind _ ends ?_)
          simp only [spine.trail_last, filled]
          exact Linked.reads_pure linked _

theorem reads_exhaustive (valid : table.config.keyRules.classify key = .ok kind) :
    Linked.Reads (Linked.exhaustive key kind) linked (table.exactValue? (kind.path key)) := by
  rw [Table.exactValue?]
  rcases find_exact_refines linked table layout represents key kind valid with
    ⟨missing, reads⟩ | ⟨slot, spine, below, locates, reads⟩
  · rw [missing]
    exact Linked.reads_bind _ reads (Linked.reads_pure linked none)
  · rw [located_node linked table layout represents _ slot spine below locates]
    have last := Arena.around_last linked.arena spine _ locates.reaches.around
    refine Linked.reads_bind _ reads (Linked.reads_bind _ (Linked.reads_cell linked _ _ last) ?_)
    exact Linked.reads_pure linked _

theorem reads_early_exit (valid : table.config.keyRules.classify key = .ok kind) :
    Linked.Reads (Linked.earlyExit key kind) linked (table.firstValue? (kind.path key)) := by
  cases named : kind.path key with
  | nil =>
      exact absurd named (KeyRules.spells_nonempty _ _ (KeyRules.spells_key_path _ key kind valid))
  | cons head rest =>
      rw [Table.firstValue?, Forest.first_value_cons, Table.forest, Roots.forest_child]
      cases found : table.roots.find? head with
      | none =>
          refine Linked.reads_bind _ (reads_start_absent linked table layout represents key kind valid
            head rest named found) ?_
          rw [Linked.first_value_eq]
          exact Linked.reads_pure linked none
      | some tree =>
          obtain ⟨slot, plant, held, rfl, rfl⟩ :=
            root_held linked table layout represents head tree found
          have starts := reads_start linked table layout represents key kind slot plant held rest named
          exact Linked.reads_bind _ starts (Linked.first_value_arrives linked _ plant.children
            (root_reaches linked table layout represents slot plant held) rest
            (key_tail key kind _ rest named))

theorem reads_quick (valid : table.config.keyRules.classify key = .ok kind) :
    Linked.Reads (Linked.quick key kind) linked (table.quickValue? key (kind.path key)) := by
  refine Linked.reads_bind _ (Linked.reads_table linked) ?_
  rw [Table.quickValue?, represents.cache]
  by_cases stale : table.cache.stale = true
  · simp only [if_pos stale]
    exact reads_early_exit linked table layout represents key kind valid
  · simp only [if_neg stale]
    exact Linked.reads_pure linked _

theorem key_kind_cases (key : String) :
    (∃ fault, table.keyKind key = .error (.invalidKey key fault) ∧
      Linked.Ends (Linked.keyKind key) linked (.error (.invalidKey key fault)) linked []) ∨
    ∃ kind, table.keyKind key = .ok kind ∧ table.config.keyRules.classify key = .ok kind ∧
      Linked.Reads (Linked.keyKind key) linked kind := by
  have config := represents.config
  cases classified : table.config.keyRules.classify key with
  | error fault =>
      refine Or.inl ⟨fault, by simp [Table.keyKind, classified], ?_⟩
      refine Linked.ends_read (Linked.reads_table linked) ?_
      simp only [config, classified]
      exact Linked.ends_refuse linked _
  | ok kind =>
      refine Or.inr ⟨kind, by simp [Table.keyKind, classified], rfl, ?_⟩
      refine Linked.reads_bind _ (Linked.reads_table linked) ?_
      simp only [config, classified]
      exact Linked.reads_pure linked kind

end

end LinkedTable

end TopicRouting
