import TopicRouting.Proofs.Linked.Naming
import TopicRouting.Proofs.Text.BytePrefix

set_option autoImplicit false

namespace TopicRouting

open Layout

namespace QuickMatch

universe u

variable {V : Type u}

def coversBytes (entry : QuickMatch V) (key : String) : Bool :=
  (bytes entry.path).isPrefixOf (bytes key) &&
    ((bytes key).length == (bytes entry.path).length ||
      (!entry.isLiteral && (bytes entry.path).getLast? == some separatorByte))

theorem covers_bytes (entry : QuickMatch V) (key : String) :
    entry.coversBytes key = entry.covers key := by
  rw [Bool.eq_iff_iff]
  simp only [coversBytes, covers, Bool.and_eq_true, Bool.or_eq_true, beq_iff_eq,
    List.isPrefixOf_iff_prefix, bytes_start, bytes_length, bytes_last]

end QuickMatch

variable {V : Type}

namespace LinkedTable

theorem place_covered_iff (linked : LinkedTable V) (table : Table V) (layout : Layout V)
    (represents : linked.Represents table layout) (path : Path) (id : NodeId)
    (placed : (path, id) ∈ (grove layout).places) (here : Cell V)
    (found : linked.arena.cell? id = some here) (value : V) (key : String) (kind : KeyKind)
    (valid : table.config.keyRules.classify key = .ok kind) :
    (QuickMatch.mk path.text value here.segment.isLiteral).covers key = true ↔
      path <+: kind.path key := by
  obtain ⟨spelled, literal⟩ :=
    place_spelled linked table layout represents path id placed here found
  rw [← literal]
  exact QuickMatch.covers_path_iff table.config.keyRules path value spelled key kind valid

-- Nothing is asked of the cell: it may have a value or not, and stand for a branch, a leaf or a
-- literal key.
theorem covered_iff_visited (linked : LinkedTable V) (reachable : linked.Reachable) (id : NodeId)
    (here : Cell V) (found : linked.arena.cell? id = some here) (value : V) (key : String)
    (kind : KeyKind) (valid : linked.config.keyRules.classify key = .ok kind) :
    ∃ path nodes rest, Linked.Reads (Linked.fullPath id) linked path ∧
      Linked.Reads (Linked.walkAlong key kind) linked (nodes, rest) ∧
      ((QuickMatch.mk path value here.segment.isLiteral).covers key = true ↔ id ∈ nodes) ∧
      ((QuickMatch.mk path value here.segment.isLiteral).coversBytes key = true ↔ id ∈ nodes) := by
  obtain ⟨table, layout, represents⟩ := reachable_represents linked reachable
  rw [represents.config] at valid
  obtain ⟨path, placed⟩ := cell_placed linked table layout represents id here found
  have names := (place_names linked table layout represents path id placed).1
  obtain ⟨nodes, rest, walks, visits⟩ := walk_visits linked table layout represents key kind valid
  have covered : (QuickMatch.mk path.text value here.segment.isLiteral).covers key = true ↔
      id ∈ nodes := by
    rw [place_covered_iff linked table layout represents path id placed here found value key kind
      valid, visits.exact id, extended_iff linked table layout represents key kind valid id]
    constructor
    · rintro ⟨below, whole⟩
      exact ⟨path, below, whole, placed⟩
    · rintro ⟨front, below, whole, other⟩
      rw [place_path linked table layout represents path front id placed other]
      exact ⟨below, whole⟩
  refine ⟨path.text, nodes, rest, names.path, walks, covered, ?_⟩
  rw [QuickMatch.covers_bytes]
  exact covered

theorem covered_iff_visited_undecided :
    ∃ (linked : LinkedTable Nat) (id : NodeId) (here : Cell Nat) (nodes : List NodeId)
      (rest : List Char), linked.Reachable ∧ linked.arena.cell? id = some here ∧
        here.value = none ∧ Linked.Reads (Linked.fullPath id) linked "a.ü." ∧
        Linked.Reads (Linked.walkAlong "a.ü.d" .topic) linked (nodes, rest) ∧ id ∈ nodes := by
  obtain ⟨linked, layout, reachable, represents⟩ := run_represented
    { literalMarker := 'é', literalMarker_ne_separator := by decide }
    (fun existing incoming => Nat.ble existing incoming)
    [.setRoute "a.ü.b" 2, .setRoute "éa.ü." 3, .setRoute "a.ü.c" 1]
  have bare : ∃ node, (Table.serveAll (Table.withComparator
      { literalMarker := 'é', literalMarker_ne_separator := by decide }
      (fun existing incoming => Nat.ble existing incoming))
        [.setRoute "a.ü.b" 2, .setRoute "éa.ü." 3, .setRoute "a.ü.c" 1]).forest.node?
          [.branch "a", .branch "ü"] = some node ∧ node.target.value? = none := ⟨_, rfl, rfl⟩
  have rules : linked.config.keyRules = { maxLength := 512, literalMarker := 'é' } :=
    congrArg TableConfig.keyRules represents.config
  generalize Table.serveAll _ _ = table at represents bare
  obtain ⟨node, isNode, undecided⟩ := bare
  obtain ⟨id, placed⟩ := place_of_node linked table layout
    (represents_mirrors linked table layout represents) _ node isNode
  obtain ⟨here, other, _, found, isOther, _, valued, _⟩ :=
    place_cell linked table layout represents _ id placed
  cases isNode.symm.trans isOther
  have literal := (place_spelled linked table layout represents _ id placed here found).2
  have names := (place_names linked table layout represents _ id placed).1
  obtain ⟨path, nodes, rest, reads, walks, covered, _⟩ := covered_iff_visited linked reachable id
    here found 0 "a.ü.d" .topic (by rw [rules]; decide)
  rw [← literal, Linked.reads_unique _ linked _ _ reads names.path] at covered
  exact ⟨linked, id, here, nodes, rest, reachable, found, valued.trans undecided, names.path, walks,
    covered.mp (by decide)⟩

end LinkedTable

end TopicRouting
