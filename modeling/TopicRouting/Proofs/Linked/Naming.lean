import TopicRouting.Proofs.Linked.Routes

/-!
Full paths and the nodes they name. What the segments from a root down to a cell spell is a key, and
the search for that key comes back to the cell; the search for any other key finds nothing. A walk
along a key visits the cells whose full paths the key extends, from the root down, and leaves what
the key has behind the last of them.
-/

set_option autoImplicit false

namespace TopicRouting

open Layout

variable {V : Type}

theorem Grove.append_tops (front back : Grove V) :
    (front.append back).tops = front.tops ++ back.tops := by
  induction front with
  | nil => rfl
  | node id segment target children siblings _ ih => simp [append, tops, ih]

namespace Spine

theorem trail_length (spine : Spine V) : spine.trail.length = spine.path.length := by
  induction spine with
  | root id segment target => rfl
  | node above id segment target before after ih =>
      simp only [trail, path, first, later, List.length_append, List.length_cons] at *
      omega

theorem trail_place (spine : Spine V) (below : Grove V) (index : Nat) (id : NodeId)
    (visited : spine.trail[index]? = some id) :
    (spine.path.take (index + 1), id) ∈ (spine.fill below).grove.places := by
  induction spine generalizing below index with
  | root top segment target =>
      obtain ⟨rfl, rfl⟩ : index = 0 ∧ top = id := by
        simpa [trail, List.getElem?_singleton] using visited
      exact List.mem_cons_self
  | node above last segment target before after ih =>
      have parts : (node above last segment target before after).path =
          above.path ++ [segment] := by
        simp [path, first, later]
      have length := above.trail_length
      rw [trail] at visited
      by_cases upper : index < above.trail.length
      · rw [List.getElem?_append_left upper] at visited
        rw [parts, List.take_append_of_le_length (by omega)]
        exact ih _ index visited
      · rw [List.getElem?_append_right (Nat.le_of_not_lt upper)] at visited
        obtain ⟨here, rfl⟩ : index - above.trail.length = 0 ∧ last = id := by
          simpa [List.getElem?_singleton] using visited
        rw [parts, List.take_of_length_le (by simp; omega)]
        refine above.fill_place _ [segment] last (Grove.tops_places _ segment last ?_)
        rw [Grove.append_tops]
        exact List.mem_append_right _ List.mem_cons_self

end Spine

namespace Linked

def walkAlong (key : String) (kind : KeyKind) : Action V (List NodeId × List Char) := do
  finishWalk [] (← startWalk key kind)

end Linked

namespace LinkedTable

def Depth (linked : LinkedTable V) (id : NodeId) (depth : Nat) : Prop :=
  ∃ slot positions, linked.Reached slot positions id ∧ positions.length = depth

-- What a walk along a key comes to: the cells whose full paths the key extends, each one deeper
-- than the one before, and the rest of the key behind the full path of the last.
structure Visits (linked : LinkedTable V) (key : String) (nodes : List NodeId)
    (rest : List Char) : Prop where
  exact : ∀ id, id ∈ nodes ↔
    ∃ text, linked.Names id text ∧ linked.config.keyRules.Extends key text
  depths : ∀ (index : Nat) (id : NodeId), nodes[index]? = some id → linked.Depth id index
  whole : nodes = [] → rest = key.toList
  behind : ∀ last text, nodes.getLast? = some last → linked.Names last text →
    text.toList ++ rest = key.toList

structure Addressed (linked : LinkedTable V) : Prop where
  keyed : ∀ id here, linked.arena.cell? id = some here →
    ∃ key kind, linked.Names id key ∧ linked.config.keyRules.classify key = .ok kind ∧
      (kind = .literal ↔ here.segment.isLiteral = true) ∧
      Linked.Reads (Linked.findExact key kind) linked (some id)
  found : ∀ key kind, linked.config.keyRules.classify key = .ok kind →
    ∃ found, Linked.Reads (Linked.findExact key kind) linked found ∧
      ∀ id, found = some id ↔ linked.Names id key
  walked : ∀ key kind, linked.config.keyRules.classify key = .ok kind →
    ∃ nodes rest, Linked.Reads (Linked.walkAlong key kind) linked (nodes, rest) ∧
      linked.Visits key nodes rest

theorem trail_reached (linked : LinkedTable V) (slot : Nat) (spine : Spine V) (below : List NodeId)
    (around : linked.arena.HoldsAround spine below)
    (held : linked.directory.slots[slot]? = some (some spine.base)) (index : Nat) (id : NodeId)
    (visited : spine.trail[index]? = some id) : linked.Depth id index := by
  suffices found : ∃ positions, linked.Reached slot positions id ∧ positions.length = index by
    exact ⟨slot, found⟩
  induction spine generalizing below index id with
  | root top segment target =>
      obtain ⟨rfl, rfl⟩ : index = 0 ∧ top = id := by
        simpa [Spine.trail, List.getElem?_singleton] using visited
      exact ⟨[], .root top held, rfl⟩
  | node above last segment target before after ih =>
      obtain ⟨_, _, _, outer⟩ := around
      rw [Spine.trail] at visited
      by_cases upper : index < above.trail.length
      · rw [List.getElem?_append_left upper] at visited
        exact ih _ outer held index id visited
      · rw [List.getElem?_append_right (Nat.le_of_not_lt upper)] at visited
        obtain ⟨here, rfl⟩ : index - above.trail.length = 0 ∧ last = id := by
          simpa [List.getElem?_singleton] using visited
        have length : 0 < above.trail.length := by
          rw [above.trail_length]
          exact Nat.succ_pos _
        have end_ := above.trail_last
        rw [List.getLast?_eq_getElem?] at end_
        obtain ⟨positions, reached, deep⟩ := ih _ outer held _ _ end_
        have found := Arena.around_last linked.arena above _ outer
        exact ⟨_, .child positions before.heads.length above.last last _ reached found
          (by simp [Cell.ofNode]), by simp; omega⟩

section

variable (linked : LinkedTable V) (table : Table V) (layout : Layout V)
  (represents : linked.Represents table layout)
include represents

theorem place_spelled (path : Path) (id : NodeId) (placed : (path, id) ∈ (grove layout).places)
    (here : Cell V) (found : linked.arena.cell? id = some here) :
    table.config.keyRules.Spells path ∧ path.isLiteral = here.segment.isLiteral := by
  obtain ⟨own, slot, spine, below, isOwn, rfl, stands⟩ :=
    place_stands linked table layout represents path id placed
  cases found.symm.trans isOwn
  have spelled := represents.sound.spelled _ _ stands.node
  obtain ⟨front, cut, _⟩ := spine.path_last
  have last : here.segment = spine.segment := by
    rw [stands.cell]
    rfl
  refine ⟨spelled, ?_⟩
  rw [KeyRules.spells_literal _ _ spelled, cut, last]
  simp

theorem place_key (path : Path) (id : NodeId) (placed : (path, id) ∈ (grove layout).places)
    (here : Cell V) (found : linked.arena.cell? id = some here) :
    ∃ kind, table.config.keyRules.classify path.text = .ok kind ∧ kind.path path.text = path ∧
      (kind = .literal ↔ here.segment.isLiteral = true) := by
  obtain ⟨⟨kind, valid, isPath⟩, literal⟩ :=
    place_spelled linked table layout represents path id placed here found
  refine ⟨kind, valid, isPath, ?_⟩
  rw [← literal]
  cases kind with
  | literal =>
      rw [← isPath]
      simp [KeyKind.path, Path.isLiteral, Segment.isLiteral]
  | topic =>
      have topical := Path.topical_ofTopic path.text
      rw [← KeyKind.path, isPath] at topical
      simp [Path.topical_not_literal _ topical]

theorem names_iff (key : String) (kind : KeyKind)
    (valid : table.config.keyRules.classify key = .ok kind) (id : NodeId) :
    linked.Names id key ↔ (kind.path key, id) ∈ (grove layout).places := by
  constructor
  · intro names
    obtain ⟨path, placed, rfl⟩ := names_placed linked table layout represents id key names
    obtain ⟨here, found⟩ := (linked.arena.contains_iff id).mp names.used
    obtain ⟨own, isOwn, isPath, _⟩ := place_key linked table layout represents path id placed here
      found
    cases valid.symm.trans isOwn
    rwa [isPath]
  · intro placed
    have names := (place_names linked table layout represents _ id placed).1
    rwa [text_key_path] at names

omit represents in
theorem located_placed (path : Path) (slot : Nat) (spine : Spine V) (below : Grove V)
    (locates : linked.Locates layout path slot spine below) (index : Nat) (id : NodeId)
    (visited : spine.trail[index]? = some id) :
    (path.take (index + 1), id) ∈ (grove layout).places := by
  rw [← locates.path]
  exact slot_place layout slot _ locates.held _ id (spine.trail_place below index id visited)

omit represents in
theorem located_last (path : Path) (slot : Nat) (spine : Spine V) (below : Grove V)
    (locates : linked.Locates layout path slot spine below) :
    (path, spine.last) ∈ (grove layout).places := by
  have length := spine.trail_length
  have end_ := spine.trail_last
  rw [List.getLast?_eq_getElem?] at end_
  have placed := located_placed linked layout path slot spine below locates _ _ end_
  rwa [List.take_of_length_le (by rw [← locates.path]; omega)] at placed

theorem exact_found (key : String) (kind : KeyKind)
    (valid : table.config.keyRules.classify key = .ok kind) :
    ∃ found, Linked.Reads (Linked.findExact key kind) linked found ∧
      ∀ id, found = some id ↔ linked.Names id key := by
  have named := names_iff linked table layout represents key kind valid
  rcases find_exact_refines linked table layout represents key kind valid with
    ⟨missing, reads⟩ | ⟨slot, spine, below, locates, reads⟩
  · refine ⟨none, reads, fun id => ?_⟩
    rw [named]
    refine ⟨fun found => (nomatch found), fun placed => ?_⟩
    obtain ⟨_, _, here, _, found, _⟩ := place_names linked table layout represents _ id placed
    cases missing.symm.trans found
  · have placed := located_last linked layout _ slot spine below locates
    refine ⟨_, reads, fun id => ?_⟩
    rw [named]
    constructor
    · intro same
      cases same
      exact placed
    · intro other
      rw [place_number linked table layout represents _ _ _ placed other]

theorem extended_iff (key : String) (kind : KeyKind)
    (valid : table.config.keyRules.classify key = .ok kind) (id : NodeId) :
    (∃ text, linked.Names id text ∧ linked.config.keyRules.Extends key text) ↔
      ∃ front rest, front ++ rest = kind.path key ∧ (front, id) ∈ (grove layout).places := by
  have named := (Table.key_path_iff table key _).mpr ⟨kind, valid, rfl⟩
  simp only [represents_extends linked table layout represents, Table.extends_iff]
  constructor
  · rintro ⟨text, names, front, rest, namedFront, namedKey⟩
    obtain ⟨own, isOwn, rfl⟩ := (Table.key_path_iff table text front).mp namedFront
    refine ⟨_, rest, ?_, (names_iff linked table layout represents text own isOwn id).mp names⟩
    exact Except.ok.inj (namedKey.symm.trans named)
  · rintro ⟨front, rest, whole, placed⟩
    obtain ⟨names, cell, here, isCell, isHere, _⟩ :=
      place_names linked table layout represents front id placed
    have spelled := represents.sound.spelled front here isHere
    exact ⟨front.text, names, front, rest, (Table.key_path_spells table front).mpr spelled,
      by rw [whole, named]⟩

theorem trail_member (path : Path) (slot : Nat) (spine : Spine V) (below : Grove V)
    (locates : linked.Locates layout path slot spine below) (rest : Path)
    (stuck : ∀ head more, rest = head :: more → below.forest.child? head = none) (id : NodeId) :
    id ∈ spine.trail ↔
      ∃ front more, front ++ more = path ++ rest ∧ (front, id) ∈ (grove layout).places := by
  have length : spine.trail.length = path.length := by rw [spine.trail_length, locates.path]
  constructor
  · intro member
    obtain ⟨index, visited⟩ := List.mem_iff_getElem?.mp member
    refine ⟨_, path.drop (index + 1) ++ rest, ?_,
      located_placed linked layout path slot spine below locates index id visited⟩
    rw [← List.append_assoc, List.take_append_drop]
  · rintro ⟨front, more, whole, placed⟩
    have filled : 0 < front.length := by
      cases front with
      | nil => exact (Grove.places_nonempty _ _ placed).elim
      | cons segment front => exact Nat.succ_pos _
    obtain ⟨_, _, here, _, found, _⟩ := place_names linked table layout represents front id placed
    rcases List.append_eq_append_iff.mp whole with ⟨beyond, cut, _⟩ | ⟨beyond, cut, left⟩
    · have bound : front.length - 1 < spine.trail.length := by
        rw [length, cut, List.length_append]
        omega
      have visited := List.getElem?_eq_getElem bound
      have other := located_placed linked layout path slot spine below locates _ _
        visited
      have same : path.take (front.length - 1 + 1) = front := by
        rw [Nat.sub_add_cancel filled, cut, List.take_left]
      rw [same] at other
      rw [place_number linked table layout represents front _ _ placed other]
      exact List.getElem_mem bound
    · cases beyond with
      | nil =>
          rw [List.append_nil] at cut
          subst cut
          have last := located_last linked layout front slot spine below locates
          rw [place_number linked table layout represents front _ _ placed last]
          exact List.mem_of_getLast? spine.trail_last
      | cons head beyond =>
          have nothing := stuck_node linked table layout represents path slot spine below locates
            head beyond (stuck head _ left)
          rw [← cut, found] at nothing
          cases nothing

theorem walk_visits (key : String) (kind : KeyKind)
    (valid : table.config.keyRules.classify key = .ok kind) :
    ∃ nodes rest, Linked.Reads (Linked.walkAlong key kind) linked (nodes, rest) ∧
      linked.Visits key nodes rest := by
  have extended := extended_iff linked table layout represents key kind valid
  rcases walk_cases linked table layout represents key kind valid with
    ⟨head, rest, walk, named, absent, starts, ends⟩ |
    ⟨slot, spine, below, rest, walk, locates, whole, _, stuck, starts, ends⟩
  · refine ⟨[], key.toList, Linked.reads_bind _ starts ends, ?_, ?_, fun _ => rfl, ?_⟩
    · intro id
      rw [extended]
      refine ⟨fun visited => (nomatch visited), ?_⟩
      rintro ⟨front, more, cut, placed⟩
      obtain ⟨_, _, here, _, found, _⟩ :=
        place_names linked table layout represents front id placed
      cases front with
      | nil => exact (Grove.places_nonempty _ _ placed).elim
      | cons segment front =>
          rw [named, List.cons_append, List.cons.injEq] at cut
          rw [cut.1, Table.forest, table.roots.forest_rootless head front absent] at found
          cases found
    · intro index id visited
      cases visited
    · intro last text isLast
      cases isLast
  · refine ⟨spine.trail, rest.text.toList, Linked.reads_bind _ starts ends, ?_, ?_, ?_, ?_⟩
    · intro id
      rw [extended, ← whole]
      exact trail_member linked table layout represents _ slot spine below locates rest stuck id
    · intro index id visited
      have root := (slot_root linked table layout represents slot _).mpr ⟨_, locates.held, rfl⟩
      rw [Spine.fill_base] at root
      exact trail_reached linked slot spine _ locates.reaches.around root index id visited
    · intro empty
      have last := spine.trail_last
      rw [empty] at last
      cases last
    · intro last text isLast names
      cases isLast.symm.trans spine.trail_last
      have placed := located_last linked layout _ slot spine below locates
      have own := (place_names linked table layout represents _ _ placed).1
      rw [Linked.reads_unique _ linked _ _ names.path own.path, ← String.toList_append,
        ← Path.text_append, whole, text_key_path]

end

theorem paths_invert_nodes (linked : LinkedTable V) (reachable : linked.Reachable) :
    linked.Addressed := by
  obtain ⟨table, layout, represents⟩ := reachable_represents linked reachable
  have config := represents.config
  have found := exact_found linked table layout represents
  constructor
  · intro id here isHere
    obtain ⟨path, placed⟩ := used_placed linked table layout represents id
      ((linked.arena.contains_iff id).mpr ⟨here, isHere⟩)
    have names := (place_names linked table layout represents path id placed).1
    obtain ⟨kind, valid, _, literal⟩ :=
      place_key linked table layout represents path id placed here isHere
    obtain ⟨exact_, reads, only⟩ := found path.text kind valid
    rw [(only id).mpr names] at reads
    exact ⟨path.text, kind, names, by rwa [config], literal, reads⟩
  · rw [config]
    exact found
  · rw [config]
    exact walk_visits linked table layout represents

theorem paths_invert_nodes_nested :
    ∃ (linked : LinkedTable Nat) (literal outer inner : NodeId) (nodes : List NodeId)
      (rest : List Char), linked.Reachable ∧ linked.Names literal "_x.y." ∧
        Linked.Reads (Linked.findExact "_x.y." .literal) linked (some literal) ∧
        Linked.Reads (Linked.walkAlong "a.b.d" .topic) linked (nodes, rest) ∧
        linked.Names outer "a." ∧ outer ∈ nodes ∧ linked.Names inner "a.b." ∧ inner ∈ nodes := by
  obtain ⟨linked, layout, reachable, represents⟩ := run_represented {}
    (fun existing incoming => Nat.ble existing incoming)
    [.setRoute "a.b.c" 2, .setRoute "_x.y." 3, .setRoute "a.e" 1]
  have paths := represents_paths linked _ layout represents
  obtain ⟨literal, isLiteral⟩ := (paths "_x.y.").mpr ⟨[.literal "_x.y."], _, rfl, by decide⟩
  obtain ⟨outer, isOuter⟩ := (paths "a.").mpr ⟨[.branch "a"], _, rfl, by decide⟩
  obtain ⟨inner, isInner⟩ := (paths "a.b.").mpr ⟨[.branch "a", .branch "b"], _, rfl, by decide⟩
  have rules : linked.config.keyRules = ({} : TableConfig).keyRules :=
    congrArg TableConfig.keyRules represents.config
  have addressed := paths_invert_nodes linked reachable
  obtain ⟨found, finds, only⟩ := addressed.found "_x.y." .literal (by rw [rules]; decide)
  rw [(only literal).mpr isLiteral] at finds
  obtain ⟨nodes, rest, walks, visits⟩ := addressed.walked "a.b.d" .topic (by rw [rules]; decide)
  refine ⟨linked, literal, outer, inner, nodes, rest, reachable, isLiteral, finds, walks, isOuter,
    (visits.exact outer).mpr ⟨"a.", isOuter, ?_⟩, isInner,
    (visits.exact inner).mpr ⟨"a.b.", isInner, ?_⟩⟩ <;> rw [rules]
  · exact Or.inl ⟨by decide, by decide, by decide⟩
  · exact Or.inl ⟨by decide, by decide, by decide⟩

end LinkedTable

end TopicRouting
