import TopicRouting.Proofs.Linked.Integrity
import TopicRouting.Proofs.Table.Emptying

set_option autoImplicit false

namespace TopicRouting

open Layout

variable {V : Type}

namespace LinkedTable

structure Names (linked : LinkedTable V) (id : NodeId) (text : String) : Prop where
  used : linked.arena.contains id = true
  path : Linked.Reads (Linked.fullPath id) linked text

def Key (linked : LinkedTable V) (key : String) : Prop :=
  ∃ id here, linked.arena.cell? id = some here ∧ here.routed = true ∧ linked.Names id key

structure Spanned (linked : LinkedTable V) : Prop where
  named : ∀ id, linked.arena.contains id = true → ∃ text, linked.Names id text
  once : ∀ id other text, linked.Names id text → linked.Names other text → id = other
  paths : ∀ text, (∃ id, linked.Names id text) ↔
    linked.config.keyRules.Front linked.Key text ∨ linked.config.keyRules.Literal linked.Key text
  counts : ∃ stats heads fronts literals, Linked.Reads Linked.statistics linked stats ∧
    Enumerates heads (linked.config.keyRules.Head linked.Key) ∧
    Enumerates fronts (linked.config.keyRules.Front linked.Key) ∧
    Enumerates literals (linked.config.keyRules.Literal linked.Key) ∧
    stats.rootNodes = heads.length + literals.length ∧
    stats.totalNodes = fronts.length + literals.length
  empty : ∃ empty, Linked.Reads Linked.isEmpty linked empty ∧
    (empty = true ↔ ∀ key, ¬ linked.Key key)

section

variable (linked : LinkedTable V) (table : Table V) (layout : Layout V)
  (represents : linked.Represents table layout)
include represents

theorem place_names (path : Path) (id : NodeId) (placed : (path, id) ∈ (grove layout).places) :
    linked.Names id path.text ∧ ∃ cell here, linked.arena.cell? id = some cell ∧
      table.forest.node? path = some here ∧ cell.routed = here.target.isRoute := by
  obtain ⟨cell, slot, spine, below, found, rfl, stands⟩ :=
    place_stands linked table layout represents path id placed
  have upward := Linked.upward_spine linked spine _ stands.focused.around
  rw [← stands.last] at upward
  refine ⟨⟨(linked.arena.contains_iff id).mpr ⟨cell, found⟩, ?_⟩, cell, _, found, stands.node, ?_⟩
  · exact Linked.reads_full_path linked id spine.path upward
  · rw [stands.cell]
    rfl

theorem names_placed (id : NodeId) (text : String) (names : linked.Names id text) :
    ∃ path, (path, id) ∈ (grove layout).places ∧ path.text = text := by
  obtain ⟨path, placed⟩ := used_placed linked table layout represents id names.used
  have own := (place_names linked table layout represents path id placed).1
  exact ⟨path, placed, Linked.reads_unique _ linked _ _ own.path names.path⟩

theorem names_once (id other : NodeId) (text : String) (first : linked.Names id text)
    (second : linked.Names other text) : id = other := by
  obtain ⟨path, placed, rfl⟩ := names_placed linked table layout represents id text first
  obtain ⟨place, placedOther, same⟩ := names_placed linked table layout represents other _ second
  obtain ⟨_, _, here, _, found, _⟩ := place_names linked table layout represents path id placed
  obtain ⟨_, _, there, _, foundOther, _⟩ :=
    place_names linked table layout represents place other placedOther
  have paths := KeyRules.spells_once _ _ _ (represents.sound.spelled path here found)
    (represents.sound.spelled place there foundOther) same.symm
  have mirrors := represents_mirrors linked table layout represents
  exact congrArg Prod.snd (place_same linked table layout mirrors (path, id) (place, other) placed
    placedOther (Or.inl paths))

theorem represents_key : linked.Key = table.Key := by
  have sound := represents.sound
  have mirrors := represents_mirrors linked table layout represents
  funext key
  apply propext
  constructor
  · rintro ⟨id, cell, found, routed, names⟩
    obtain ⟨path, placed, rfl⟩ := names_placed linked table layout represents id key names
    obtain ⟨_, own, here, isCell, isHere, same⟩ :=
      place_names linked table layout represents path id placed
    cases found.symm.trans isCell
    rw [routed] at same
    cases target : here.target with
    | undecided => rw [target] at same; cases same
    | collapsed value => rw [target] at same; cases same
    | route value =>
        exact ⟨value, path, (Forest.routes_iff _ sound.regular path value).mpr
          ⟨here, isHere, target⟩, rfl⟩
  · rintro ⟨value, path, member, rfl⟩
    obtain ⟨here, isHere, target⟩ := (Forest.routes_iff _ sound.regular path value).mp member
    obtain ⟨id, placed⟩ := place_of_node linked table layout mirrors path here isHere
    obtain ⟨names, cell, own, isCell, isOwn, same⟩ :=
      place_names linked table layout represents path id placed
    cases isHere.symm.trans isOwn
    exact ⟨id, cell, isCell, by rw [same, target]; rfl, names⟩

theorem represents_paths (text : String) :
    (∃ id, linked.Names id text) ↔
      ∃ path here, table.forest.node? path = some here ∧ path.text = text := by
  have mirrors := represents_mirrors linked table layout represents
  constructor
  · rintro ⟨id, names⟩
    obtain ⟨path, placed, rfl⟩ := names_placed linked table layout represents id text names
    obtain ⟨_, _, here, _, found, _⟩ := place_names linked table layout represents path id placed
    exact ⟨path, here, found, rfl⟩
  · rintro ⟨path, here, found, rfl⟩
    obtain ⟨id, placed⟩ := place_of_node linked table layout mirrors path here found
    exact ⟨id, (place_names linked table layout represents path id placed).1⟩

theorem reads_is_empty : Linked.Reads Linked.isEmpty linked (table.nodeCount == 0) := by
  refine Linked.reads_bind _ (Linked.reads_table linked) ?_
  rw [represents_nodes linked table layout represents]
  exact Linked.reads_pure linked _

theorem represents_spanned : linked.Spanned := by
  have sound := represents.sound
  have keys := represents_key linked table layout represents
  refine ⟨?_, names_once linked table layout represents, ?_, ?_, ?_⟩
  · intro id used
    obtain ⟨path, placed⟩ := used_placed linked table layout represents id used
    exact ⟨_, (place_names linked table layout represents path id placed).1⟩
  · intro text
    rw [represents_paths linked table layout represents, keys, represents.config,
      Table.node_text_iff table sound]
  · rw [keys, represents.config]
    obtain ⟨heads, fronts, literals, isHead, isFront, isLiteral, roots, nodes⟩ :=
      Table.counts_enumerated table sound
    exact ⟨_, heads, fronts, literals, reads_statistics linked table layout represents, isHead,
      isFront, isLiteral, roots, (Roots.size_count table.roots).symm.trans nodes⟩
  · refine ⟨_, reads_is_empty linked table layout represents, ?_⟩
    rw [keys, beq_iff_eq, Table.keyless_iff table sound]

end

def Serves (linked : LinkedTable V) (requests : List (Request V)) (answers : List (Answer V))
    (next : LinkedTable V) : Prop :=
  ∃ notices,
    Linked.run (Linked.serveAll requests) linked = some (.ok (.ok answers, ⟨next, notices⟩))

theorem represents_serves (linked : LinkedTable V) (table : Table V) (layout : Layout V)
    (represents : linked.Represents table layout) (requests : List (Request V)) :
    ∃ next left, linked.Serves requests (table.serveEach requests).result next ∧
      next.Represents (table.serveEach requests).state left := by
  obtain ⟨next, left, ends, later⟩ := serve_all_refines requests linked table layout represents
  exact ⟨next, left, ⟨_, Linked.run_ends _ _ _ _ _ ends⟩, later⟩

theorem serves_represented (linked next : LinkedTable V) (table : Table V) (layout : Layout V)
    (represents : linked.Represents table layout) (requests : List (Request V))
    (answers : List (Answer V)) (serves : linked.Serves requests answers next) :
    answers = (table.serveEach requests).result ∧
      ∃ left, next.Represents (table.serveEach requests).state left := by
  obtain ⟨last, left, ⟨_, ran⟩, later⟩ :=
    represents_serves linked table layout represents requests
  obtain ⟨_, same⟩ := serves
  cases same.symm.trans ran
  exact ⟨rfl, left, later⟩

theorem nodes_span_keys :
    (∀ linked : LinkedTable V, linked.Reachable → linked.Spanned) ∧
    ∀ (config : TableConfig) (eqv : Comparator V) (routes : List (String × V))
      (answers : List (Answer V)) (filled : LinkedTable V) (order : List String),
      (withComparator config eqv).Serves (routes.map Request.ofRoute) answers filled →
      (∀ key, key ∈ order ↔ key ∈ acceptedKeys routes answers) →
      ∃ replies emptied, filled.Serves (order.map Request.removeRoute) replies emptied ∧
        (∀ reply ∈ replies,
          reply = .done (.ok ()) ∨ ∃ key ∈ order, reply = .done (.error (.notFound key))) ∧
        Linked.Reads Linked.isEmpty emptied true ∧
        ∃ stats, Linked.Reads Linked.statistics emptied stats ∧ stats.totalNodes = 0 := by
  constructor
  · intro linked reachable
    obtain ⟨table, layout, represents⟩ := reachable_represents linked reachable
    exact represents_spanned linked table layout represents
  · intro config eqv routes answers filled order serves accepted
    have start := start_represents config eqv
    have sound := start.sound
    obtain ⟨rfl, layout, represents⟩ :=
      serves_represented _ filled _ _ start (routes.map Request.ofRoute) answers serves
    obtain ⟨emptied, left, removes, represented⟩ :=
      represents_serves filled _ layout represents (order.map Request.removeRoute)
    have whole : ∀ key, ((Table.withComparator config eqv).serveEach
        (routes.map Request.ofRoute)).state.Key key → key ∈ order := by
      rintro key ⟨own, registered⟩
      rcases Table.set_routes_source routes _ sound key own registered with granted | ⟨path, none, _⟩
      · exact (accepted key).mpr granted
      · cases none
    have nodeless := Table.remove_routes_empty order _ represents.sound whole
    refine ⟨_, emptied, removes, ?_, ?_, _, reads_statistics emptied _ left represented, ?_⟩
    · intro reply replied
      refine Table.remove_routes_answers order _ ?_ reply replied
      intro key member
      rw [Table.key_path_config _ _ (Table.set_routes_config routes _)]
      exact Table.set_routes_named routes _ key ((accepted key).mp member)
    · have empty := reads_is_empty emptied _ left represented
      rwa [nodeless] at empty
    · exact (Roots.size_count _).symm.trans nodeless

theorem nodes_span_keys_nested :
    let routes := [("a.b", 1), ("_x", 2), ("a.c.d", 3)]
    let eqv : Comparator Nat := fun existing incoming => decide (existing ≤ incoming)
    ∃ answers replies filled emptied,
      (withComparator {} eqv).Serves (routes.map Request.ofRoute) answers filled ∧
        (∃ id, filled.Names id "a.c.") ∧
        filled.Serves [.removeRoute "_x", .removeRoute "a.b", .removeRoute "a.c.d"] replies emptied ∧
        Linked.Reads Linked.isEmpty emptied true := by
  intro routes eqv
  obtain ⟨filled, layout, serves, represents⟩ :=
    represents_serves _ _ _ (start_represents {} eqv) (routes.map Request.ofRoute)
  have granted : acceptedKeys routes ((Table.withComparator {} eqv).serveEach
      (routes.map Request.ofRoute)).result = ["a.b", "_x", "a.c.d"] := by decide
  obtain ⟨replies, emptied, removes, _, empty, _⟩ := nodes_span_keys.2 {} eqv routes _ filled
    ["_x", "a.b", "a.c.d"] serves (by rw [granted]; grind)
  refine ⟨_, replies, filled, emptied, serves, ?_, removes, empty⟩
  obtain ⟨notices, ran⟩ := serves
  have registered : filled.Key "a.c.d" := by
    rw [represents_key filled _ layout represents]
    exact ⟨3, [.branch "a", .branch "c", .leaf "d"], by decide, by decide⟩
  have config := represents.config.trans (Table.set_routes_config routes _)
  have isTopic : (Table.withComparator {} eqv).config.keyRules.classify "a.c.d" = .ok .topic := rfl
  rw [(nodes_span_keys.1 filled ⟨{}, eqv, _, _, notices, ran⟩).paths "a.c.", config]
  exact Or.inl ⟨_, registered, isTopic, [.branch "a", .branch "c"], [.leaf "d"], by decide, by simp,
    by decide⟩

end LinkedTable

end TopicRouting
