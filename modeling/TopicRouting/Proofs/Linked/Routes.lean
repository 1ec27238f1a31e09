import TopicRouting.Proofs.Linked.Spanning
import TopicRouting.Proofs.Table.Listing

set_option autoImplicit false

namespace TopicRouting

open Layout

variable {V : Type}

theorem Target.route_marked_iff (target : Target V) (value : V) :
    target.isRoute = true ∧ target.value? = some value ↔ target = .route value := by
  cases target <;> simp [isRoute, value?]

namespace LinkedTable

def Registered (linked : LinkedTable V) (key : String) (value : V) : Prop :=
  ∃ id here, linked.arena.cell? id = some here ∧ here.routed = true ∧ here.value = some value ∧
    linked.Names id key

def Resolves (linked : LinkedTable V) (key : String) (value : V) : Prop :=
  Linked.Ends (Linked.lookupExhaustive key) linked (.ok value) linked []

section

variable (linked : LinkedTable V) (table : Table V) (layout : Layout V)
  (represents : linked.Represents table layout)
include represents

theorem place_path (a b : Path) (id : NodeId) (first : (a, id) ∈ (grove layout).places)
    (second : (b, id) ∈ (grove layout).places) : a = b :=
  congrArg Prod.fst (place_same linked table layout
    (represents_mirrors linked table layout represents) (a, id) (b, id) first second (Or.inr rfl))

theorem place_number (path : Path) (a b : NodeId) (first : (path, a) ∈ (grove layout).places)
    (second : (path, b) ∈ (grove layout).places) : a = b :=
  congrArg Prod.snd (place_same linked table layout
    (represents_mirrors linked table layout represents) (path, a) (path, b) first second
    (Or.inl rfl))

theorem place_cell (path : Path) (id : NodeId) (placed : (path, id) ∈ (grove layout).places) :
    ∃ (here : Cell V) (node : Node V) (tops : List (Segment × NodeId)),
      linked.arena.cell? id = some here ∧ table.forest.node? path = some node ∧
      here.routed = node.target.isRoute ∧ here.value = node.target.value? ∧
      here.children = tops.map Prod.snd ∧ node.children.segments = tops.map Prod.fst ∧
      ∀ segment child, (segment, child) ∈ tops →
        (path ++ [segment], child) ∈ (grove layout).places := by
  obtain ⟨here, slot, spine, below, found, rfl, stands⟩ :=
    place_stands linked table layout represents path id placed
  refine ⟨here, _, below.tops, found, stands.node, ?_, ?_, ?_, below.tops_segments.symm, ?_⟩
  · rw [stands.cell]
    rfl
  · rw [stands.cell]
    rfl
  · rw [stands.cell]
    exact below.tops_heads.symm
  · intro segment child member
    exact slot_place layout slot _ stands.held _ child
      (spine.fill_place below [segment] child (below.tops_places segment child member))

theorem represents_registered : linked.Registered = table.Registered := by
  have sound := represents.sound
  have mirrors := represents_mirrors linked table layout represents
  funext key value
  apply propext
  constructor
  · intro registered
    obtain ⟨id, here, found, routed, valued, names⟩ := registered
    obtain ⟨path, placed, rfl⟩ := names_placed linked table layout represents id key names
    obtain ⟨own, node, _, isOwn, isNode, sameRoute, sameValue, _⟩ :=
      place_cell linked table layout represents path id placed
    cases found.symm.trans isOwn
    rw [routed] at sameRoute
    rw [valued] at sameValue
    have target := (node.target.route_marked_iff value).mp ⟨sameRoute.symm, sameValue.symm⟩
    exact ⟨path, (Forest.routes_iff _ sound.regular path value).mpr ⟨node, isNode, target⟩, rfl⟩
  · intro registered
    obtain ⟨path, member, rfl⟩ := registered
    obtain ⟨node, isNode, target⟩ := (Forest.routes_iff _ sound.regular path value).mp member
    obtain ⟨id, placed⟩ := place_of_node linked table layout mirrors path node isNode
    obtain ⟨here, other, _, found, isOther, sameRoute, sameValue, _⟩ :=
      place_cell linked table layout represents path id placed
    cases isNode.symm.trans isOther
    obtain ⟨routed, valued⟩ := (node.target.route_marked_iff value).mpr target
    have names := (place_names linked table layout represents path id placed).1
    exact ⟨id, here, found, sameRoute.trans routed, sameValue.trans valued, names⟩

theorem represents_resolves :
    linked.Resolves = fun key value => table.lookupExhaustive key = .ok value := by
  funext key value
  have ends := ends_lookup_exhaustive linked table layout represents key
  apply propext
  constructor
  · intro resolves
    exact (Linked.ends_unique resolves ends).1
  · intro found
    rw [found] at ends
    exact ends

theorem represents_extends (longer key : String) :
    linked.config.keyRules.Extends longer key ↔ table.Extends longer key := by
  rw [represents.config, Table.extends_rules]

end

theorem reachable_sources (linked : LinkedTable V) (reachable : linked.Reachable) :
    ∃ (table : Table V) (layout : Layout V), linked.Represents table layout ∧
      Table.Reachable (fun _ => True) table := by
  obtain ⟨config, eqv, requests, result, notices, ran⟩ := reachable
  obtain ⟨next, left, ends, represents⟩ :=
    serve_all_refines requests _ _ _ (start_represents config eqv)
  rw [Linked.run_ends _ _ _ _ _ ends] at ran
  cases ran
  refine ⟨_, left, represents, ?_⟩
  rw [Table.serve_each_state]
  exact Table.reachable_serve_all _ _ (.start config eqv trivial) requests
    fun request _ => by cases request <;> trivial

end LinkedTable

end TopicRouting
