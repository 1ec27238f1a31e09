import TopicRouting.Proofs.Linked.Runs

/-!
The shape of linked tables. Arena, directory and links are described by themselves, without the
forest they stand for: every cell in use is reached in exactly one way from exactly one root slot,
and the index, the free list and the counts say what the slots hold.
-/

set_option autoImplicit false

namespace TopicRouting

open Layout

variable {V : Type}

/-! ## Cells of a grove -/

theorem Spine.path_last (spine : Spine V) :
    ∃ front, spine.path = front ++ [spine.segment] ∧ (front = [] ↔ spine.parent? = none) := by
  cases spine with
  | root id segment target => exact ⟨[], rfl, by simp [parent?]⟩
  | node above id segment target before after =>
      exact ⟨above.path, by simp [path, first, later, Spine.segment], by simp [parent?, path]⟩

theorem Target.route_valued (target : Target V) (routed : target.isRoute = true) :
    target.value?.isSome = true := by
  cases target with
  | undecided => cases routed
  | collapsed value => cases routed
  | route value => rfl

namespace Arena

theorem holds_head (arena : Arena V) (parent : Option NodeId) (grove : Grove V)
    (holds : arena.Holds parent grove) (id : NodeId) (member : id ∈ grove.heads) :
    ∃ here, arena.cell? id = some here ∧ here.parent = parent := by
  induction grove with
  | nil => cases member
  | node first segment target children siblings _ ih =>
      obtain ⟨here, _, later⟩ := holds
      rcases List.mem_cons.mp member with rfl | other
      · exact ⟨_, here, rfl⟩
      · exact ih later other

theorem holds_segments (arena : Arena V) (parent : Option NodeId) (grove : Grove V)
    (holds : arena.Holds parent grove) :
    (grove.heads.map fun id => (arena.cell? id).map Cell.segment) =
      grove.forest.segments.map some := by
  induction grove with
  | nil => rfl
  | node id segment target children siblings _ ih =>
      obtain ⟨here, _, later⟩ := holds
      simp [Grove.heads, Grove.forest, Forest.segments_node, here, ih later, Cell.ofNode]

theorem holds_distinct (arena : Arena V) (parent : Option NodeId) (grove : Grove V)
    (holds : arena.Holds parent grove) (distinct : grove.forest.segments.Nodup) :
    (grove.heads.map fun id => (arena.cell? id).map Cell.segment).Nodup := by
  rw [holds_segments arena parent grove holds]
  exact List.Pairwise.map some (fun _ _ different same => different (Option.some.inj same)) distinct

theorem vacant_slot (arena : Arena V) (id : NodeId) :
    (id < arena.slots.length ∧ arena.cell? id = none) ↔ arena.slots[id]? = some none := by
  by_cases bound : id < arena.slots.length
  · simp [cell?, bound]
  · simp [bound]

theorem tallies_occupied (arena : Arena V) (ids : List NodeId) (tallies : arena.Tallies ids) :
    arena.live = arena.slots.countP Option.isSome := by
  have once : ((arena.slots.zipIdx.filter fun entry => entry.1.isSome).map Prod.snd).Nodup := by
    refine List.Nodup.sublist (List.filter_sublist.map Prod.snd) ?_
    rw [List.zipIdx_map_snd]
    exact List.nodup_range'
  have same : ids.Perm ((arena.slots.zipIdx.filter fun entry => entry.1.isSome).map Prod.snd) := by
    rw [List.perm_ext_iff_of_nodup tallies.distinct once]
    intro id
    rw [← tallies.used id, contains_iff]
    cases held : arena.slots[id]? with
    | none => simp [cell?, held, List.mem_zipIdx_iff_getElem?]
    | some content => simp [cell?, held, List.mem_zipIdx_iff_getElem?, Option.isSome_iff_exists]
  have fronts : arena.slots.zipIdx.map Prod.fst = arena.slots := by simp
  rw [tallies.live, same.length_eq, List.length_map, ← List.countP_eq_length_filter]
  conv => rhs; rw [← fronts, List.countP_map]
  rfl

end Arena

theorem Layout.entries_slots (layout : Layout V) (first : Nat) :
    ((entries first layout).map Prod.snd).Nodup := by
  induction layout generalizing first with
  | nil => exact List.nodup_nil
  | cons held layout ih =>
      cases held with
      | none => exact ih (first + 1)
      | some plant =>
          rw [entries, List.map_cons, List.nodup_cons]
          refine ⟨?_, ih (first + 1)⟩
          intro member
          obtain ⟨⟨text, slot⟩, listed, same⟩ := List.mem_map.mp member
          have later := ((entries_iff layout (first + 1) slot text).mp listed).1
          simp only at same
          omega

namespace LinkedTable

/-! ## What is said of a table -/

-- A node that child positions lead to, one after the other, from the root in a slot.
inductive Reached (linked : LinkedTable V) (slot : Nat) : List Nat → NodeId → Prop where
  | root (id : NodeId) (held : linked.directory.slots[slot]? = some (some id)) :
      Reached linked slot [] id
  | child (positions : List Nat) (position : Nat) (parent id : NodeId) (here : Cell V)
      (above : Reached linked slot positions parent)
      (found : linked.arena.cell? parent = some here)
      (listed : here.children[position]? = some id) :
      Reached linked slot (positions ++ [position]) id

def segments (linked : LinkedTable V) (ids : List NodeId) : List (Option Segment) :=
  ids.map fun id => (linked.arena.cell? id).map Cell.segment

structure Linking (linked : LinkedTable V) : Prop where
  down : ∀ id here, linked.arena.cell? id = some here → ∀ child ∈ here.children,
    ∃ below, linked.arena.cell? child = some below ∧ below.parent = some id
  up : ∀ id here parent, linked.arena.cell? id = some here → here.parent = some parent →
    ∃ above, linked.arena.cell? parent = some above ∧ id ∈ above.children
  children : ∀ id here, linked.arena.cell? id = some here → here.children.Nodup
  roots : ∀ id, (∃ slot : Nat, linked.directory.slots[slot]? = some (some id)) ↔
    ∃ here, linked.arena.cell? id = some here ∧ here.parent = none
  slots : ∀ (id : NodeId) (slot other : Nat), linked.directory.slots[slot]? = some (some id) →
    linked.directory.slots[other]? = some (some id) → slot = other

structure Shaped (linked : LinkedTable V) (here : Cell V) : Prop where
  siblings : (linked.segments here.children).Nodup
  branch : here.children ≠ [] → here.segment.isBranch = true
  literal : here.segment.isLiteral = true → here.parent = none
  routed : here.routed = true → here.value.isSome = true
  childless : here.children = [] → here.routed = true

structure Listing (linked : LinkedTable V) : Prop where
  index : ∀ text slot, (text, slot) ∈ linked.directory.index ↔
    ∃ id here, linked.directory.slots[slot]? = some (some id) ∧
      linked.arena.cell? id = some here ∧ here.segment.text = text
  texts : (linked.directory.index.map Prod.fst).Nodup
  slots : (linked.directory.index.map Prod.snd).Nodup
  occupied : linked.directory.index.length = linked.directory.slots.countP Option.isSome
  bounded : linked.directory.index.length ≤ linked.config.rootCapacity
  capacity : linked.directory.slots.length = linked.config.rootCapacity

structure Counting (linked : LinkedTable V) : Prop where
  once : linked.arena.free.Nodup
  vacant : ∀ id, id ∈ linked.arena.free ↔ linked.arena.slots[id]? = some none
  live : linked.arena.live = linked.arena.slots.countP Option.isSome

-- The cells in use are one forest: each is reached from one root slot in one way, and nothing else
-- is reached.
structure Integral (linked : LinkedTable V) : Prop where
  live : ∀ slot positions id, linked.Reached slot positions id → linked.arena.contains id = true
  reached : ∀ id, linked.arena.contains id = true →
    ∃ slot positions, linked.Reached slot positions id ∧
      ∀ other route, linked.Reached other route id → other = slot ∧ route = positions
  linking : linked.Linking
  roots : (linked.segments linked.directory.ids).Nodup
  shaped : ∀ id here, linked.arena.cell? id = some here → linked.Shaped here
  listing : linked.Listing
  counting : linked.Counting

/-! ## Following the links -/

section

variable (linked : LinkedTable V) (linking : linked.Linking)
include linking

theorem reached_live (slot : Nat) (positions : List Nat) (id : NodeId)
    (reached : linked.Reached slot positions id) : linked.arena.contains id = true := by
  rw [Arena.contains_iff]
  cases reached with
  | root _ held =>
      obtain ⟨here, found, _⟩ := (linking.roots id).mp ⟨slot, held⟩
      exact ⟨here, found⟩
  | child positions position parent _ here above found listed =>
      obtain ⟨below, isBelow, _⟩ := linking.down parent here found id (List.mem_of_getElem? listed)
      exact ⟨below, isBelow⟩

theorem child_rootless (parent id : NodeId) (here : Cell V)
    (found : linked.arena.cell? parent = some here) (member : id ∈ here.children) (slot : Nat) :
    linked.directory.slots[slot]? ≠ some (some id) := by
  intro held
  obtain ⟨below, isBelow, isParent⟩ := linking.down parent here found id member
  obtain ⟨root, isRoot, parentless⟩ := (linking.roots id).mp ⟨slot, held⟩
  rw [isBelow] at isRoot
  cases isRoot
  exact nomatch isParent.symm.trans parentless

theorem child_parent (parent other id : NodeId) (here there : Cell V)
    (found : linked.arena.cell? parent = some here) (member : id ∈ here.children)
    (foundOther : linked.arena.cell? other = some there) (memberOther : id ∈ there.children) :
    other = parent ∧ there = here := by
  obtain ⟨below, isBelow, isParent⟩ := linking.down parent here found id member
  obtain ⟨same, isSame, isOther⟩ := linking.down other there foundOther id memberOther
  rw [isBelow] at isSame
  cases isSame
  rw [isParent] at isOther
  cases isOther
  rw [found] at foundOther
  cases foundOther
  exact ⟨rfl, rfl⟩

theorem reached_once (slot other : Nat) (positions route : List Nat) (id : NodeId)
    (first : linked.Reached slot positions id) (second : linked.Reached other route id) :
    other = slot ∧ route = positions := by
  -- The parent that a cell names decides how both ways end: at a root, or with a step from that
  -- parent, where the cell has one position only.
  induction first generalizing route with
  | root id held =>
      cases second with
      | root _ heldOther => exact ⟨linking.slots id other slot heldOther held, rfl⟩
      | child route position parent _ here above found listed =>
          have member := List.mem_of_getElem? listed
          exact absurd held (child_rootless linked linking parent id here found member slot)
  | child positions position parent id here above found listed ih =>
      have member := List.mem_of_getElem? listed
      cases second with
      | root _ heldOther =>
          exact absurd heldOther (child_rootless linked linking parent id here found member other)
      | child route place outer _ there way isThere isListed =>
          obtain ⟨rfl, rfl⟩ := child_parent linked linking parent outer id here there found member
            isThere (List.mem_of_getElem? isListed)
          obtain ⟨rfl, rfl⟩ := ih route way
          have bound := (List.getElem?_eq_some_iff.mp listed).1
          have once := linking.children outer there found
          rw [(List.getElem?_inj bound once).mp (listed.trans isListed.symm)]
          exact ⟨rfl, rfl⟩

end

theorem spine_reached (linked : LinkedTable V) (slot : Nat) (spine : Spine V)
    (below : List NodeId) (around : linked.arena.HoldsAround spine below)
    (held : linked.directory.slots[slot]? = some (some spine.base)) :
    ∃ positions, linked.Reached slot positions spine.last := by
  induction spine generalizing below with
  | root id segment target => exact ⟨[], .root id held⟩
  | node above id segment target before after ih =>
      obtain ⟨_, _, _, outer⟩ := around
      obtain ⟨positions, reached⟩ := ih _ outer held
      have found := Arena.around_last linked.arena above _ outer
      exact ⟨_, .child positions before.heads.length above.last id _ reached found (by simp [Cell.ofNode])⟩

/-! ## Tables of runs -/

structure Stands (linked : LinkedTable V) (table : Table V) (layout : Layout V) (id : NodeId)
    (here : Cell V) (slot : Nat) (spine : Spine V) (below : Grove V) : Prop where
  held : layout[slot]? = some (some (spine.fill below))
  focused : linked.arena.Focused spine below (grove (layout.set slot none))
  node : table.forest.node? spine.path = some ⟨spine.target, below.forest⟩
  last : id = spine.last
  cell : here = .ofNode spine.segment spine.target spine.parent? below.heads

section

variable (linked : LinkedTable V) (table : Table V) (layout : Layout V)
  (represents : linked.Represents table layout)
include represents

theorem place_stands (path : Path) (id : NodeId) (placed : (path, id) ∈ (grove layout).places) :
    ∃ here slot spine below, linked.arena.cell? id = some here ∧ spine.path = path ∧
      linked.Stands table layout id here slot spine below := by
  have mirrors := represents_mirrors linked table layout represents
  obtain ⟨slot, spine, below, held, isPath, isLast, apart⟩ :=
    place_reached linked table layout mirrors path id placed
  have focused := represents_focused linked table layout represents slot spine below held
  have last := Arena.focused_last _ spine below _ focused
  rw [isLast] at last
  exact ⟨_, slot, spine, below, last, isPath, held, focused,
    mirrored_node linked table layout mirrors slot spine below held apart, isLast.symm, rfl⟩

theorem used_placed (id : NodeId) (used : linked.arena.contains id = true) :
    ∃ path, (path, id) ∈ (grove layout).places := by
  rw [represents.stocked.tallies.used, ← Grove.places_ids] at used
  obtain ⟨⟨path, _⟩, placed, rfl⟩ := List.mem_map.mp used
  exact ⟨path, placed⟩

theorem place_used (path : Path) (id : NodeId) (placed : (path, id) ∈ (grove layout).places) :
    linked.arena.contains id = true := by
  rw [represents.stocked.tallies.used, ← Grove.places_ids]
  exact List.mem_map_of_mem placed

theorem cell_placed (id : NodeId) (here : Cell V) (found : linked.arena.cell? id = some here) :
    ∃ path, (path, id) ∈ (grove layout).places :=
  used_placed linked table layout represents id ((linked.arena.contains_iff id).mpr ⟨here, found⟩)

theorem cell_stands (id : NodeId) (here : Cell V) (found : linked.arena.cell? id = some here) :
    ∃ slot spine below, linked.Stands table layout id here slot spine below := by
  obtain ⟨path, placed⟩ := cell_placed linked table layout represents id here found
  obtain ⟨held, slot, spine, below, isHeld, _, stands⟩ :=
    place_stands linked table layout represents path _ placed
  cases found.symm.trans isHeld
  exact ⟨slot, spine, below, stands⟩

theorem root_cell (slot : Nat) (plant : Plant V) (held : layout[slot]? = some (some plant)) :
    linked.arena.cell? plant.id =
      some (.ofNode plant.segment plant.target none plant.children.heads) :=
  (root_reaches linked table layout represents slot plant held).around

theorem slot_root (slot : Nat) (id : NodeId) :
    linked.directory.slots[slot]? = some (some id) ↔
      ∃ plant, layout[slot]? = some (some plant) ∧ plant.id = id := by
  rw [represents.indexes.slots, List.getElem?_map]
  cases layout[slot]? with
  | none => simp
  | some held => cases held <;> simp

theorem represents_linking : linked.Linking where
  down id here found child member := by
    obtain ⟨slot, spine, below, stands⟩ := cell_stands linked table layout represents id here found
    rw [stands.cell] at member
    rw [stands.last]
    exact Arena.holds_head linked.arena _ below stands.focused.held child member
  up id here parent found isParent := by
    obtain ⟨slot, spine, below, stands⟩ := cell_stands linked table layout represents id here found
    have around := stands.focused.around
    have last := stands.last
    rw [stands.cell] at isParent
    cases spine with
    | root _ segment target => cases isParent
    | node above _ segment target before after =>
        cases isParent
        cases last
        refine ⟨_, Arena.around_last linked.arena above _ around.2.2.2, ?_⟩
        simp [Cell.ofNode, Spine.last]
  children id here found := by
    obtain ⟨slot, spine, below, stands⟩ := cell_stands linked table layout represents id here found
    have distinct := (List.nodup_append.mp stands.focused.tallies.distinct).2.1
    rw [stands.cell]
    exact below.heads_sublist.nodup (List.nodup_append.mp distinct).1
  roots id := by
    constructor
    · rintro ⟨slot, isHeld⟩
      obtain ⟨plant, held, rfl⟩ := (slot_root linked table layout represents slot id).mp isHeld
      exact ⟨_, root_cell linked table layout represents slot plant held, rfl⟩
    · rintro ⟨here, found, parentless⟩
      obtain ⟨slot, spine, below, stands⟩ := cell_stands linked table layout represents id here found
      rw [stands.cell] at parentless
      refine ⟨slot, (slot_root linked table layout represents slot _).mpr ⟨_, stands.held, ?_⟩⟩
      rw [stands.last]
      cases spine with
      | root _ segment target => rfl
      | node above _ segment target before after => cases parentless
  slots id slot other isHeld isOther := by
    obtain ⟨plant, held, rfl⟩ := (slot_root linked table layout represents slot id).mp isHeld
    obtain ⟨another, heldOther, same⟩ := (slot_root linked table layout represents other _).mp isOther
    have cell := root_cell linked table layout represents slot plant held
    rw [← same, root_cell linked table layout represents other another heldOther] at cell
    simp only [Option.some.injEq, Cell.ofNode, Cell.mk.injEq] at cell
    exact held_once linked table layout represents slot other plant another held heldOther cell.1.symm

section

variable (id : NodeId) (here : Cell V) (slot : Nat) (spine : Spine V) (below : Grove V)
  (stands : linked.Stands table layout id here slot spine below)
include stands

theorem stands_branch (parental : below.heads ≠ []) : spine.segment.isBranch = true := by
  obtain ⟨front, path, _⟩ := spine.path_last
  have node := stands.node
  cases below with
  | nil => exact absurd rfl parental
  | node first segment target children siblings =>
      have lower : table.forest.node? (spine.path ++ [segment]) =
          some ⟨target, children.forest⟩ := by
        rw [Forest.node_append _ _ _ (by simp [path]), node, Option.bind_some, Node.below?]
        simp [Grove.forest, Forest.node?, Forest.child?]
      have spelled := represents.sound.spelled _ _ lower
      rw [path, List.append_assoc] at spelled
      exact KeyRules.spells_below_branch _ front spine.segment segment [] spelled

theorem stands_literal (literal : spine.segment.isLiteral = true) : spine.parent? = none := by
  obtain ⟨front, path, isRoot⟩ := spine.path_last
  have spelled := represents.sound.spelled _ _ stands.node
  rw [path] at spelled
  rcases KeyRules.spells_cases _ _ spelled with ⟨key, single, _⟩ | ⟨topical, _⟩
  · refine isRoot.mp ?_
    simpa using congrArg List.length single
  · have last := Path.topical_not_literal _ (Path.topical_back front [spine.segment] topical)
    exact nomatch last.symm.trans literal

theorem stands_shaped : linked.Shaped here := by
  have regular := (Forest.regular_node _ represents.sound.regular _ _ stands.node).1
  rw [stands.cell]
  constructor
  · exact Arena.holds_distinct _ _ _ stands.focused.held regular.distinct
  · exact stands_branch linked table layout represents id here slot spine below stands
  · exact stands_literal linked table layout represents id here slot spine below stands
  · exact Target.route_valued spine.target
  · intro childless
    refine regular.ends ?_
    cases below with
    | nil => rfl
    | node first segment target children siblings => cases childless

end

theorem represents_listing : linked.Listing where
  index text slot := by
    simp only [represents.indexes.index.mem_iff, entries_iff, slot_root linked table layout represents]
    constructor
    · rintro ⟨_, plant, held, rfl⟩
      have cell := root_cell linked table layout represents slot plant held
      exact ⟨plant.id, _, ⟨plant, held, rfl⟩, cell, rfl⟩
    · rintro ⟨id, here, ⟨plant, held, rfl⟩, found, rfl⟩
      rw [root_cell linked table layout represents slot plant held, Option.some.injEq] at found
      exact ⟨Nat.zero_le _, plant, held, congrArg (fun cell => cell.segment.text) found⟩
  texts := Directory.indexes_keys _ layout represents.indexes
  slots := by
    rw [(represents.indexes.index.map Prod.snd).nodup_iff]
    exact entries_slots layout 0
  occupied := by
    rw [represents.indexes.index.length_eq, entries_length, represents.indexes.slots, plants,
      List.length_filterMap_eq_countP, List.countP_map]
    congr 1
    funext held
    cases held <;> rfl
  bounded := by
    rw [represents.config]
    have count := represents_count linked table layout represents
    exact Nat.le_trans (Nat.le_of_eq count) (Table.fits_count table represents.fits)
  capacity := by
    rw [represents.config, ← represents.fits.capacity]
    exact represents_capacity linked table layout represents

theorem represents_counting : linked.Counting where
  once := represents.stocked.tallies.once
  vacant id := by rw [represents.stocked.tallies.vacant, linked.arena.vacant_slot]
  live := linked.arena.tallies_occupied _ represents.stocked.tallies

theorem represents_reached (id : NodeId) (used : linked.arena.contains id = true) :
    ∃ slot positions, linked.Reached slot positions id ∧
      ∀ other route, linked.Reached other route id → other = slot ∧ route = positions := by
  have linking := represents_linking linked table layout represents
  obtain ⟨here, found⟩ := (linked.arena.contains_iff id).mp used
  obtain ⟨slot, spine, below, stands⟩ := cell_stands linked table layout represents id here found
  have root := (slot_root linked table layout represents slot _).mpr ⟨_, stands.held, rfl⟩
  rw [Spine.fill_base] at root
  obtain ⟨positions, reached⟩ := spine_reached linked slot spine _ stands.focused.around root
  rw [← stands.last] at reached
  exact ⟨slot, positions, reached, fun other route again =>
    reached_once linked linking slot other positions route id reached again⟩

theorem represents_integral : linked.Integral where
  live := reached_live linked (represents_linking linked table layout represents)
  reached := represents_reached linked table layout represents
  linking := represents_linking linked table layout represents
  roots := by
    rw [segments, Directory.indexes_ids _ layout represents.indexes]
    refine Arena.holds_distinct _ _ _ represents.stocked.holds ?_
    rw [represents_forest linked table layout represents]
    exact represents.sound.regular.distinct
  shaped id here found := by
    obtain ⟨slot, spine, below, stands⟩ := cell_stands linked table layout represents id here found
    exact stands_shaped linked table layout represents id here slot spine below stands
  listing := represents_listing linked table layout represents
  counting := represents_counting linked table layout represents

end

theorem integral_always (linked : LinkedTable V) (reachable : linked.Reachable) :
    linked.Integral := by
  obtain ⟨table, layout, represents⟩ := reachable_represents linked reachable
  exact represents_integral linked table layout represents

theorem integral_after_removal :
    ∃ linked : LinkedTable Nat, linked.Reachable ∧ linked.arena.live = 3 ∧
      linked.directory.count = 2 ∧ linked.Integral := by
  obtain ⟨linked, layout, reachable, represents⟩ := run_represented {} Comparator.equality
    [.setRoute "a.b.c" 1, .setRoute "_x" 2, .setRoute "a.d" 3, .removeRoute "a.b.c"]
  have nodes := (represents_nodes linked _ layout represents).trans rfl
  have roots := represents_count linked _ layout represents
  exact ⟨linked, reachable, nodes, roots, integral_always linked reachable⟩

end LinkedTable

end TopicRouting
