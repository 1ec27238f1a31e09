import TopicRouting.Proofs.Forest.Sketch
import TopicRouting.Proofs.Linked.Spanning

/-!
The trace of linked nodes as an encoding of them. Registered keys may contain blanks, brackets and
whatever else a line of the trace has; as long as none of them breaks a line, the trace gives back
the roots and all that is below them but for the values, the numbers and the routes.
-/

set_option autoImplicit false

namespace TopicRouting

open Layout

variable {V W : Type}

namespace LinkedTable

inductive Drawn (linked : LinkedTable V) : List NodeId → Sketch → Prop where
  | nil : Drawn linked [] .nil
  | node (id : NodeId) (here : Cell V) (others : List NodeId) (children siblings : Sketch)
      (found : linked.arena.cell? id = some here) (below : Drawn linked here.children children)
      (beside : Drawn linked others siblings) :
      Drawn linked (id :: others)
        (.node here.segment.text here.value.isSome children siblings)

inductive Alike (linked : LinkedTable V) (other : LinkedTable W) :
    List NodeId → List NodeId → Prop where
  | nil : Alike linked other [] []
  | node (id twin : NodeId) (here : Cell V) (there : Cell W) (others twins : List NodeId)
      (found : linked.arena.cell? id = some here) (matched : other.arena.cell? twin = some there)
      (text : here.segment.text = there.segment.text)
      (valued : here.value.isSome = there.value.isSome)
      (below : Alike linked other here.children there.children)
      (beside : Alike linked other others twins) :
      Alike linked other (id :: others) (twin :: twins)

def Unbroken (linked : LinkedTable V) : Prop := ∀ key, linked.Key key → '\n' ∉ key.toList

structure Traced (linked : LinkedTable V) (text : String) : Prop where
  printed : Linked.Reads Linked.traceTree linked text
  lines : ∃ stats, Linked.Reads Linked.statistics linked stats ∧
    (lines text).length = stats.totalNodes
  drawn : linked.Drawn linked.directory.ids (Sketch.ofTrace text)

theorem drawn_alike (linked : LinkedTable V) (other : LinkedTable W) (sketch : Sketch)
    (ids twins : List NodeId) (first : linked.Drawn ids sketch)
    (second : other.Drawn twins sketch) : linked.Alike other ids twins := by
  induction first generalizing twins with
  | nil =>
      cases second
      exact .nil
  | node id here others children siblings found _ _ below beside =>
      generalize isText : here.segment.text = text at second
      generalize isValued : here.value.isSome = valued at second
      cases second with
      | node twin there twins _ _ matched lower later =>
          exact .node id twin here there others twins found matched isText isValued
            (below _ lower) (beside _ later)

theorem holds_drawn (linked : LinkedTable V) (parent : Option NodeId) (grove : Grove V)
    (holds : linked.arena.Holds parent grove) : linked.Drawn grove.heads grove.forest.sketch := by
  induction grove generalizing parent with
  | nil => exact .nil
  | node id segment target children siblings below beside =>
      obtain ⟨found, lower, later⟩ := holds
      exact .node id _ siblings.heads _ _ found (below (some id) lower) (beside parent later)

section

variable (linked : LinkedTable V) (table : Table V) (layout : Layout V)
  (represents : linked.Represents table layout)
include represents

theorem unbroken_iff :
    linked.Unbroken ↔ ∀ route ∈ table.routes, '\n' ∉ route.1.text.toList := by
  rw [Unbroken, represents_key linked table layout represents]
  constructor
  · intro unbroken route member
    exact unbroken _ ⟨route.2, route.1, member, rfl⟩
  · rintro clear key ⟨value, path, member, rfl⟩
    exact clear _ member

theorem nodes_unbroken (unbroken : linked.Unbroken) (path : Path) (here : Node V)
    (member : (path, here) ∈ table.forest.nodes) : '\n' ∉ path.text.toList := by
  have regular := represents.sound.regular
  have found := (Forest.nodes_iff _ regular path here).mp member
  have nonempty := Forest.node_nonempty _ path here found
  obtain ⟨rest, value, route⟩ :=
    (Forest.node_of_route _ regular path nonempty).mp ⟨here, found⟩
  have whole := (unbroken_iff linked table layout represents).mp unbroken _ route
  rw [Path.text_append, String.toList_append] at whole
  exact fun broken => whole (List.mem_append_left _ broken)

theorem represents_traced (unbroken : linked.Unbroken) : linked.Traced table.traceTree := by
  have clear := nodes_unbroken linked table layout represents unbroken
  refine ⟨reads_trace_tree linked table layout represents,
    ⟨_, reads_statistics linked table layout represents, ?_⟩, ?_⟩
  · rw [Table.traceTree, Table.traceLines, lines_unlines _ (Forest.outline_single _ 1 clear),
      Forest.outline_length]
    exact table.node_count
  · rw [Table.traceTree, Table.traceLines, Sketch.trace_sketch _ clear,
      ← represents_forest linked table layout represents,
      Directory.indexes_ids _ layout represents.indexes]
    exact holds_drawn linked none (grove layout) represents.stocked.holds

end

theorem trace_faithful (linked : LinkedTable V) (reachable : linked.Reachable)
    (unbroken : linked.Unbroken) :
    ∃ text, linked.Traced text ∧
      ∀ (W : Type) (other : LinkedTable W), other.Reachable → other.Unbroken →
        Linked.Reads Linked.traceTree other text →
        linked.Alike other linked.directory.ids other.directory.ids := by
  obtain ⟨table, layout, represents⟩ := reachable_represents linked reachable
  have traced := represents_traced linked table layout represents unbroken
  refine ⟨_, traced, fun W other reachableToo unbrokenToo printed => ?_⟩
  obtain ⟨copy, layoutToo, representsToo⟩ := reachable_represents other reachableToo
  have tracedToo := represents_traced other copy layoutToo representsToo unbrokenToo
  rw [Linked.reads_unique _ other _ _ printed tracedToo.printed] at traced
  exact drawn_alike linked other _ _ _ traced.drawn tracedToo.drawn

theorem trace_faithful_brackets :
    ∃ (linked : LinkedTable Nat) (other : LinkedTable String) (text : String),
      linked.Reachable ∧ other.Reachable ∧ linked.Unbroken ∧ other.Unbroken ∧
        linked.Traced text ∧ Linked.Reads Linked.traceTree other text ∧
        linked.Alike other linked.directory.ids other.directory.ids := by
  obtain ⟨linked, layout, reachable, represents⟩ := run_represented {}
    (fun existing incoming => Nat.ble existing incoming)
    [.setRoute "  <a> children:1 optimized? Y.b" 1, .setRoute "_<>" 2]
  obtain ⟨other, layoutToo, reachableToo, representsToo⟩ := run_represented {}
    Comparator.sameHost
    [.setRoute "  <a> children:1 optimized? Y.b" "h:1", .setRoute "_<>" "h:2"]
  have unbroken : linked.Unbroken := by
    rw [unbroken_iff linked _ layout represents]
    decide
  have unbrokenToo : other.Unbroken := by
    rw [unbroken_iff other _ layoutToo representsToo]
    decide
  obtain ⟨text, traced, alike⟩ := trace_faithful linked reachable unbroken
  have printed : Linked.Reads Linked.traceTree other text := by
    rw [Linked.reads_unique _ linked _ _ traced.printed
      (reads_trace_tree linked _ layout represents)]
    have same := reads_trace_tree other _ layoutToo representsToo
    exact same
  exact ⟨linked, other, text, reachable, reachableToo, unbroken, unbrokenToo, traced, printed,
    alike String other reachableToo unbrokenToo printed⟩

end LinkedTable

end TopicRouting
