import TopicRouting.Linked.Action
import TopicRouting.Proofs.Linked.Layout
import TopicRouting.Proofs.Linked.Walking
import TopicRouting.Proofs.Table.Invariants

/-!
Which linked table stands for which table. The linked nodes spell out the trees of the root slots,
the directory lists the roots, and the arena has no other nodes; everything else is the same.
-/

set_option autoImplicit false

namespace TopicRouting

open Layout

namespace Roots

universe u

variable {V : Type u}

-- The slots with the vacant ones up to the capacity.
def padded (roots : Roots V) : List (Option (Tree V)) :=
  roots.slots ++ List.replicate (roots.capacity - roots.slots.length) none

theorem padded_trees (roots : Roots V) : roots.padded.filterMap id = roots.trees := by
  simp [padded, trees, List.filterMap_append]

theorem padded_length (roots : Roots V) (fits : roots.slots.length ≤ roots.capacity) :
    roots.padded.length = roots.capacity := by
  rw [padded, List.length_append, List.length_replicate]
  omega

theorem padded_modify (roots : Roots V) (segment : Segment) (f : Tree V → Option (Tree V)) :
    (roots.modify segment f).padded = roots.padded.map fun slot =>
      slot.bind fun tree => if tree.segment = segment then f tree else some tree := by
  simp [padded, modify]

theorem padded_map (roots : Roots V) (f : Tree V → Tree V) :
    (roots.map f).padded = roots.padded.map (Option.map f) := by
  simp [padded, map]

theorem place_set (tree : Tree V) (slots : List (Option (Tree V))) (vacant : none ∈ slots) :
    place tree slots = slots.set (slots.findIdx Option.isNone) (some tree) := by
  induction slots with
  | nil => cases vacant
  | cons held slots ih =>
      cases held with
      | none => rfl
      | some other =>
          have later : none ∈ slots := by simpa using vacant
          simp [place, ih later, List.findIdx_cons]

theorem place_padded (tree : Tree V) (slots : List (Option (Tree V))) (capacity : Nat)
    (fits : slots.length ≤ capacity) (room : (slots.filterMap id).length < capacity) :
    place tree slots ++ List.replicate (capacity - (place tree slots).length) none =
      place tree (slots ++ List.replicate (capacity - slots.length) none) := by
  induction slots generalizing capacity with
  | nil =>
      obtain ⟨more, rfl⟩ : ∃ more, capacity = more + 1 := ⟨capacity - 1, by simp at room; omega⟩
      simp [place, List.replicate_succ]
  | cons held slots ih =>
      cases held with
      | none => simp [place]
      | some other =>
          obtain ⟨more, rfl⟩ : ∃ more, capacity = more + 1 :=
            ⟨capacity - 1, by simp at fits; omega⟩
          have later := ih more (by simpa using fits) (by simpa using room)
          simpa [place] using later

theorem padded_vacancy (roots : Roots V) :
    roots.padded.findIdx Option.isNone = roots.vacancy := by
  have first : ∀ count, (List.replicate count (none : Option (Tree V))).findIdx Option.isNone = 0 := by
    intro count
    cases count <;> simp [List.replicate_succ, List.findIdx_cons]
  have bound : roots.slots.findIdx Option.isNone ≤ roots.slots.length := List.findIdx_le_length
  rw [padded, List.findIdx_append, first, vacancy]
  by_cases found : roots.slots.findIdx Option.isNone < roots.slots.length
  · rw [if_pos found]
  · rw [if_neg found]
    omega

section

variable (roots : Roots V) (fits : roots.slots.length ≤ roots.capacity)
  (room : roots.count < roots.capacity)
include fits room

theorem padded_vacant : none ∈ roots.padded := by
  have counted := congrArg List.length roots.padded_trees
  have length := roots.padded_length fits
  by_cases vacant : none ∈ roots.padded
  · exact vacant
  · have full : (roots.padded.filterMap id).length = roots.padded.length := by
      rw [List.length_filterMap_eq_countP, List.countP_eq_length]
      intro held member
      cases held with
      | none => exact absurd member vacant
      | some tree => rfl
    rw [count] at room
    omega

theorem padded_add (tree : Tree V) :
    (roots.add tree).padded = roots.padded.set roots.vacancy (some tree) := by
  rw [← padded_vacancy, ← place_set tree _ (padded_vacant roots fits room)]
  exact place_padded tree roots.slots roots.capacity fits room

end

end Roots

variable {V : Type}

structure LinkedTable.Represents (linked : LinkedTable V) (table : Table V) (layout : Layout V) :
    Prop where
  config : linked.config = table.config
  eqv : linked.eqv = table.eqv
  strategy : linked.strategy = table.strategy
  cache : linked.cache = table.cache
  trees : layout.map (Option.map Plant.tree) = table.roots.padded
  indexes : linked.directory.Indexes layout
  stocked : linked.arena.Stocked (grove layout)
  sound : table.Sound
  fits : table.Fits

namespace LinkedTable

section

variable (linked : LinkedTable V) (table : Table V) (layout : Layout V)
  (represents : linked.Represents table layout)
include represents

theorem represents_trees : (plants layout).map Plant.tree = table.roots.trees := by
  rw [← table.roots.padded_trees, ← represents.trees, plants, List.filterMap_map,
    List.map_filterMap]
  rfl

theorem represents_forest : (grove layout).forest = table.forest := by
  rw [Layout.grove_forest, represents.trees, table.roots.padded_trees]
  rfl

theorem represents_length : layout.length = table.roots.capacity := by
  rw [← table.roots.padded_length represents.fits.slots, ← represents.trees, List.length_map]

theorem represents_count : linked.directory.count = table.roots.count := by
  rw [Directory.indexes_count _ layout represents.indexes, Roots.count,
    ← represents_trees linked table layout represents, List.length_map]

theorem represents_capacity : linked.directory.capacity = table.roots.capacity := by
  rw [Directory.indexes_capacity _ layout represents.indexes,
    represents_length linked table layout represents]

theorem represents_nodes : linked.arena.live = table.nodeCount := by
  rw [represents.stocked.tallies.live, Grove.ids_length,
    represents_forest linked table layout represents]
  rfl

theorem held_root (slot : Nat) (plant : Plant V) (held : layout[slot]? = some (some plant)) :
    table.roots.find? plant.segment = some plant.tree := by
  have member : plant.tree ∈ table.roots.trees := by
    rw [← represents_trees linked table layout represents]
    exact List.mem_map.mpr ⟨plant, (plants_member layout plant).mpr ⟨slot, held⟩, rfl⟩
  have top : (plant.segment, plant.tree.node) ∈ table.forest.tops := by
    rw [Table.forest, Roots.forest_tops]
    exact List.mem_map.mpr ⟨plant.tree, member, rfl⟩
  rw [Forest.tops_iff _ _ _ represents.sound.regular.distinct, Table.forest, Roots.forest_child,
    Option.map_eq_some_iff] at top
  obtain ⟨tree, found, same⟩ := top
  have segment := Roots.found_segment _ _ _ found
  rw [found]
  cases tree
  cases segment
  cases same
  rfl

theorem held_child (slot : Nat) (plant : Plant V) (held : layout[slot]? = some (some plant)) :
    table.forest.child? plant.segment = some plant.tree.node := by
  rw [Table.forest, Roots.forest_child,
    held_root linked table layout represents slot plant held]
  rfl

theorem root_held (segment : Segment) (tree : Tree V)
    (found : table.roots.find? segment = some tree) :
    ∃ (slot : Nat) (plant : Plant V), layout[slot]? = some (some plant) ∧ plant.tree = tree ∧
      plant.segment = segment := by
  have member := List.mem_of_find?_eq_some found
  rw [← represents_trees linked table layout represents] at member
  obtain ⟨plant, listed, rfl⟩ := List.mem_map.mp member
  obtain ⟨slot, held⟩ := (plants_member layout plant).mp listed
  exact ⟨slot, plant, held, rfl, Roots.found_segment _ _ _ found⟩

theorem root_spelled (slot : Nat) (plant : Plant V) (held : layout[slot]? = some (some plant)) :
    table.config.keyRules.Spells [plant.segment] := by
  refine represents.sound.spelled [plant.segment] plant.tree.node ?_
  exact held_child linked table layout represents slot plant held

theorem root_slot (segment : Segment) (spelled : table.config.keyRules.Spells [segment])
    (slot : Nat) :
    linked.directory.slot? segment.text = some slot ↔
      ∃ plant, layout[slot]? = some (some plant) ∧ plant.segment = segment := by
  rw [Directory.indexes_slot _ layout represents.indexes]
  constructor
  · rintro ⟨plant, held, same⟩
    refine ⟨plant, held, ?_⟩
    exact KeyRules.spells_text _ _ _ (root_spelled linked table layout represents slot plant held)
      spelled same
  · rintro ⟨plant, held, rfl⟩
    exact ⟨plant, held, rfl⟩

theorem reads_find_root (slot : Nat) (plant : Plant V)
    (held : layout[slot]? = some (some plant)) :
    Linked.Reads (Linked.findRoot plant.segment.text) linked (some plant.id) := by
  have lists := Directory.indexes_lists _ layout represents.indexes slot plant held
  refine Linked.reads_bind _ (Linked.reads_table linked) ?_
  simp only [lists.indexed]
  exact Linked.reads_slot linked _ slot _ lists

theorem reads_no_root (segment : Segment) (spelled : table.config.keyRules.Spells [segment])
    (absent : table.roots.find? segment = none) :
    Linked.Reads (Linked.findRoot segment.text) linked none := by
  have missing : linked.directory.slot? segment.text = none := by
    cases found : linked.directory.slot? segment.text with
    | none => rfl
    | some slot =>
        obtain ⟨plant, held, rfl⟩ :=
          (root_slot linked table layout represents segment spelled slot).mp found
        exact nomatch (held_root linked table layout represents slot plant held).symm.trans absent
  refine Linked.reads_bind _ (Linked.reads_table linked) ?_
  simp only [missing]
  exact Linked.reads_pure linked none

theorem root_topical (slot : Nat) (plant : Plant V) (held : layout[slot]? = some (some plant)) :
    plant.children.forest.Topical := by
  have found := held_child linked table layout represents slot plant held
  have regular : plant.children.forest.Regular :=
    (Forest.regular_child _ represents.sound.regular _ _ found).2
  refine Forest.topical_nodes [plant.segment] _ ?_
  intro path here member
  rw [Forest.nodes_iff _ regular] at member
  have below : table.forest.node? (plant.segment :: path) = some here := by
    rw [Forest.node_cons, found]
    cases path with
    | nil => cases member
    | cons next path => exact member
  rcases KeyRules.spells_cases _ _ (represents.sound.spelled _ _ below) with ⟨key, single, _⟩ | ⟨topical, _⟩
  · cases path with
    | nil => cases member
    | cons next path => simp at single
  · exact topical

theorem root_reaches (slot : Nat) (plant : Plant V) (held : layout[slot]? = some (some plant)) :
    linked.arena.Reaches (.root plant.id plant.segment plant.target) plant.children := by
  have whole := represents.stocked
  obtain ⟨bound, isHeld⟩ := List.getElem?_eq_some_iff.mp held
  have same : layout.set slot (some plant) = layout := by rw [← isHeld, List.set_getElem_self]
  rw [← same, stocked_set layout slot bound] at whole
  obtain ⟨here, lower, _⟩ := ((Arena.holds_append ..).mp whole.holds).1
  exact ⟨here, lower, trivial, root_topical linked table layout represents slot plant held⟩

end

-- An action gives the result, the events and the table that an operation of the table gives.
def Follows {α : Type} (linked : LinkedTable V) (action : Action V α) (result : Except RouteError α)
    (state : Table V) (events : List Event) : Prop :=
  ∃ (next : LinkedTable V) (left : Layout V),
    Linked.Ends action linked result next events ∧ next.Represents state left

section

variable {α β : Type} (linked : LinkedTable V)

theorem follows_bind (action : Action V α) (f : α → Action V β) (result : α)
    (ending : Except RouteError β) (mid state : Table V) (front back : List Event)
    (first : linked.Follows action (.ok result) mid front)
    (later : ∀ (next : LinkedTable V) (left : Layout V), next.Represents mid left →
      next.Follows (f result) ending state back) :
    linked.Follows (action >>= f) ending state (front ++ back) := by
  obtain ⟨next, left, ends, represents⟩ := first
  obtain ⟨last, remains, endsLater, representsLater⟩ := later next left represents
  exact ⟨last, remains, Linked.ends_bind ends endsLater, representsLater⟩

theorem follows_last (action : Action V α) (output : α → β) (result : α) (state : Table V)
    (events : List Event) (follows : linked.Follows action (.ok result) state events) :
    linked.Follows (do pure (output (← action))) (.ok (output result)) state events := by
  obtain ⟨next, left, ends, represents⟩ := follows
  exact ⟨next, left, Linked.ends_last _ ends (Linked.reads_pure next _), represents⟩

theorem follows_attempt (action : Action V α) (result : Except RouteError α) (state : Table V)
    (events : List Event) (follows : linked.Follows action result state events) :
    linked.Follows (Linked.attempt action) (.ok result) state events := by
  obtain ⟨next, left, ends, represents⟩ := follows
  exact ⟨next, left, Linked.ends_attempt ends, represents⟩

end

end LinkedTable

end TopicRouting
