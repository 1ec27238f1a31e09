import TopicRouting.Proofs.Linked.Planting
import TopicRouting.Proofs.Linked.Settling
import TopicRouting.Proofs.Table.Growth

set_option autoImplicit false

namespace TopicRouting

open Layout

variable {V : Type}

theorem Table.register_root (table : Table V) (segment : Segment) (rest : Path) (value : V)
    (tree : Tree V) (root : table.roots.find? segment = some tree) :
    table.register (segment :: rest) value =
      ⟨(), { table with
          roots := table.roots.modify segment fun _ =>
            (tree.toForest.register table.eqv value segment rest false).forest.firstTree?
          cache := table.cache.invalidate },
        (tree.toForest.register table.eqv value segment rest false).events⟩ := by
  simp [register, Roots.register, root]

namespace LinkedTable

section

variable (linked : LinkedTable V) (table : Table V) (layout : Layout V)
  (represents : linked.Represents table layout)
include represents

theorem registered_mirrors (slot : Nat) (plant : Plant V)
    (held : layout[slot]? = some (some plant)) (rest : Path) (value : V) (left : Plant V)
    (arena : Arena V) (id : left.id = plant.id) (segment : left.segment = plant.segment)
    (tree : some left.tree =
      (plant.tree.toForest.register table.eqv value plant.segment rest false).forest.firstTree?)
    (stocked : arena.Stocked (left.grove.append (grove (layout.set slot none))))
    (sound : (table.register (plant.segment :: rest) value).state.Sound)
    (fits : (table.register (plant.segment :: rest) value).state.Fits) :
    { linked with arena }.Mirrors (table.register (plant.segment :: rest) value).state
      (layout.set slot (some left)) := by
  have mirrors := represents_mirrors linked table layout represents
  have root := held_root linked table layout represents slot plant held
  rw [table.register_root plant.segment rest value plant.tree root, ← tree] at sound fits ⊢
  refine settle_mirrors linked table layout mirrors slot plant held (some left) arena ?_ stocked _ rfl
    sound fits
  rintro remains same
  cases same
  exact ⟨id, segment⟩

theorem rise_refines (slot : Nat) (spine : Spine V) (below grown : Grove V)
    (held : layout[slot]? = some (some (spine.fill below))) (apart : spine.Apart) (value : V)
    (segment : Segment) (rest : Path) (cleared : Spine.Cleared V)
    (clears : spine.clear table.eqv value = cleared)
    (registers : below.forest.register table.eqv value segment rest cleared.settled =
      ⟨grown.forest, true, []⟩)
    (arena : Arena V)
    (focused : arena.Focused cleared.spine grown (grove (layout.set slot none)))
    (sound : (table.register (spine.path ++ segment :: rest) value).state.Sound)
    (fits : (table.register (spine.path ++ segment :: rest) value).state.Fits) :
    ∃ (next : LinkedTable V) (left : Layout V) (events : List Event),
      Linked.Ends (Linked.revise (some spine.last)) { linked with arena } (.ok ()) next events ∧
      (table.register (spine.path ++ segment :: rest) value).events = cleared.events ++ events ∧
      next.Mirrors (table.register (spine.path ++ segment :: rest) value).state left := by
  have eqv := represents.eqv
  rw [← eqv] at clears registers
  have same : cleared.spine.last = spine.last ∧ cleared.spine.first = spine.first ∧
      cleared.spine.base = spine.base := by
    rw [← clears]
    exact ⟨spine.clear_last .., spine.clear_first .., spine.clear_base ..⟩
  obtain ⟨sameLast, sameFirst, sameBase⟩ := same
  have lists := represents_lists linked table layout represents slot spine below held
  rw [← sameFirst, ← sameBase] at lists
  obtain ⟨left, last, leaves, ends⟩ :=
    Linked.revise_refines { linked with arena } cleared.spine grown _ focused slot lists
  rw [sameLast] at ends
  -- What is registered below the cleared spine is registered in the whole tree.
  have filled := spine.register_fill linked.eqv value apart below segment rest
  simp only [clears, registers] at filled
  obtain ⟨changed, single, _⟩ := Roots.register_tree (spine.fill below).tree linked.eqv value
    (spine.later ++ segment :: rest)
  have root := held_root linked table layout represents slot _ held
  have path : spine.path ++ segment :: rest =
      (spine.fill below).segment :: (spine.later ++ segment :: rest) := by
    rw [Spine.path, Spine.fill_segment, List.cons_append]
  rw [show (spine.fill below).tree.segment = spine.first from spine.fill_segment below] at single
  have tree := leaves.tree
  rw [filled] at single
  rw [single] at tree
  cases left with
  | none => cases tree
  | some remains =>
      obtain ⟨id, isSegment⟩ := leaves_root _ _ _ _ _ leaves
      rw [Spine.fill_base, sameBase, ← Spine.fill_base spine below] at id
      rw [Spine.fill_segment, sameFirst, ← Spine.fill_segment spine below] at isSegment
      rw [path] at sound fits ⊢
      refine ⟨_, layout.set slot (some remains), _, ends, ?_, ?_⟩
      · rw [table.register_root _ _ value _ root, ← eqv, Spine.fill_segment, filled]
        simp [Journal.settled]
      · refine registered_mirrors linked table layout represents slot _ held _ value remains last id
          isSegment ?_ leaves.stocked sound fits
        rw [← eqv, Spine.fill_segment, filled, single]
        exact tree

/-! ## Nodes that exist -/

theorem root_value_refines (slot : Nat) (plant : Plant V)
    (held : layout[slot]? = some (some plant)) (value : V)
    (sound : (table.register [plant.segment] value).state.Sound)
    (fits : (table.register [plant.segment] value).state.Fits) :
    ∃ (next : LinkedTable V) (left : Layout V),
      Linked.Ends (Linked.setValue plant.id value) linked (.ok ()) next
        (table.register [plant.segment] value).events ∧
      next.Mirrors (table.register [plant.segment] value).state left := by
  have focused := represents_focused linked table layout represents slot
    (.root plant.id plant.segment plant.target) plant.children held
  have root := held_root linked table layout represents slot plant held
  have ends := Linked.ends_set_value linked _ _ _ focused value
  have changed : plant.tree.toForest.register table.eqv value plant.segment [] false =
      ⟨.node plant.segment (.route value) plant.children.forest .nil, true, []⟩ := by
    simp [Plant.tree, Tree.toForest, Forest.register]
  have silent : (table.register [plant.segment] value).events = [] := by
    rw [table.register_root plant.segment [] value _ root, changed]
  rw [silent]
  refine ⟨_, layout.set slot (some ⟨plant.id, plant.segment, .route value, plant.children⟩), ends, ?_⟩
  refine registered_mirrors linked table layout represents slot plant held [] value _ _ rfl rfl ?_
    ?_ sound fits
  · rw [changed]
    rfl
  · exact (Arena.focused_iff ..).mp (Arena.focused_retarget _ _ _ _ focused (.route value))

section

variable (key : String) (value : V) (slot : Nat) (spine : Spine V) (below : Grove V)
  (locates : linked.Locates layout spine.path slot spine below)
include locates

theorem proceeds_route_existing (open_ : spine.target.value? = none) :
    Linked.Proceeds (Linked.routeExisting key spine.trail value) linked
      (if below.forest.agreesWith table.eqv value then do
        Linked.relax value spine.trail.dropLast
        let parent := (← Linked.cell spine.last).parent
        Linked.setValue spine.last value
        Linked.revise parent
      else Linked.refuse (.conflictingRoute key)) linked [] := by
  have last := Arena.around_last linked.arena spine _ locates.reaches.around
  have agrees := Linked.reads_children_agree linked spine.last _ value below last rfl locates.reaches.held
  rw [represents.eqv] at agrees
  rw [Linked.routeExisting, spine.trail_last]
  refine Linked.proceeds_silent (Linked.proceeds_read (Linked.reads_cell linked _ _ last)) ?_
  simp only [Cell.ofNode, open_, Option.isSome_none]
  refine Linked.proceeds_silent (Linked.proceeds_read agrees) ?_
  cases below with
  | nil => exact Linked.proceeds_refl
  | node => cases Forest.agreesWith table.eqv value _ <;> exact Linked.proceeds_refl

theorem route_existing_refused (open_ : spine.target.value? = none)
    (differs : below.forest.agreesWith table.eqv value = false) :
    Linked.Ends (Linked.routeExisting key spine.trail value) linked
      (.error (.conflictingRoute key)) linked [] := by
  have asked := proceeds_route_existing linked table layout represents key value slot spine below
    locates open_
  rw [differs] at asked
  exact Linked.silent_ends asked (Linked.ends_refuse linked _)

theorem route_existing_refines (open_ : spine.target.value? = none)
    (agrees : below.forest.agreesWith table.eqv value = true)
    (sound : (table.register spine.path value).state.Sound)
    (fits : (table.register spine.path value).state.Fits) :
    ∃ (next : LinkedTable V) (left : Layout V),
      Linked.Ends (Linked.routeExisting key spine.trail value) linked (.ok ()) next
        (table.register spine.path value).events ∧
      next.Mirrors (table.register spine.path value).state left := by
  have asked := proceeds_route_existing linked table layout represents key value slot spine below
    locates open_
  rw [agrees, if_pos rfl] at asked
  have focused := represents_focused linked table layout represents slot spine below locates.held
  have last := Arena.focused_last linked.arena spine below _ focused
  cases spine with
  | root id segment target =>
      obtain ⟨next, left, ends, mirrors⟩ := root_value_refines linked table layout represents slot _
        locates.held value sound fits
      refine ⟨next, left, Linked.silent_ends asked ?_, mirrors⟩
      refine Linked.ends_read (Linked.reads_pure linked ()) ?_
      refine Linked.ends_read (Linked.reads_cell linked _ _ last) ?_
      refine Linked.ends_last _ ends ?_
      simp only [Cell.ofNode, Spine.parent?]
      rw [Linked.revise_eq]
      exact Linked.reads_pure next ()
  | node above id segment target before after =>
      have apart := locates.reaches.apart
      have path : (Spine.node above id segment target before after).path = above.path ++ [segment] := by
        simp [Spine.path, Spine.first, Spine.later]
      rw [path] at sound fits ⊢
      generalize clears : above.clear table.eqv value = cleared
      obtain ⟨mid, refocused, relaxes⟩ := Linked.ends_relax linked above _ _
        ((Arena.focused_node ..).mp focused) value cleared (represents.eqv ▸ clears)
      rw [← Arena.focused_node] at refocused
      have sameLast : cleared.spine.last = above.last := by
        rw [← clears, Spine.clear_last]
      have still := Arena.focused_last mid _ below _ refocused
      have sets := Linked.ends_set_value { linked with arena := mid } _ below _ refocused value
      have written := Arena.focused_retarget mid _ below _ refocused (.route value)
      rw [Spine.retarget, Arena.focused_node] at written
      have registers : (before.append (.node id segment target below after)).forest.register
          table.eqv value segment [] cleared.settled =
            ⟨(before.append (.node id segment (.route value) below after)).forest, true, []⟩ := by
        rw [Grove.append_forest, Forest.append_register _ _ _ _ _ _ _ apart.1, Grove.append_forest]
        simp [Grove.forest, Forest.register]
      obtain ⟨next, left, events, ends, all, mirrors⟩ := rise_refines linked table layout represents
        slot above _ _ locates.held apart.2 value segment [] cleared clears registers _ written sound
        fits
      refine ⟨next, left, Linked.silent_ends asked ?_, mirrors⟩
      rw [Spine.trail, List.dropLast_concat, all]
      refine Linked.ends_bind relaxes ?_
      refine Linked.ends_read (Linked.reads_cell _ _ _ still) ?_
      refine Linked.ends_then sets ?_
      simp only [Cell.ofNode, Spine.parent?, sameLast]
      exact ends

/-! ## New nodes -/

theorem add_path_refines (head : Segment) (rest : Path) (topical : Path.Topical (head :: rest))
    (stuck : below.forest.child? head = none)
    (sound : (table.register (spine.path ++ head :: rest) value).state.Sound)
    (fits : (table.register (spine.path ++ head :: rest) value).state.Fits) :
    ∃ (next : LinkedTable V) (left : Layout V),
      Linked.Ends (Linked.addPath key spine.trail (Path.text (head :: rest)).toList value) linked
        (.ok ()) next (table.register (spine.path ++ head :: rest) value).events ∧
      next.Mirrors (table.register (spine.path ++ head :: rest) value).state left := by
  have focused := represents_focused linked table layout represents slot spine below locates.held
  have last := Arena.focused_last linked.arena spine below _ focused
  have tokens := Linked.reads_tokens linked (head :: rest) topical []
  have total := focused.tallies.total
  generalize clears : spine.clear table.eqv value = cleared
  obtain ⟨mid, refocused, relaxes⟩ := Linked.ends_relax linked spine below _ focused value cleared
    (represents.eqv ▸ clears)
  have sameLast : cleared.spine.last = spine.last := by
    rw [← clears, Spine.clear_last]
  obtain ⟨arena, chain, isChain, planted, adds⟩ := Linked.adds_below { linked with arena := mid }
    cleared.spine below _ refocused value (head :: rest) topical
  rw [sameLast] at adds
  have registers : below.forest.register table.eqv value head rest cleared.settled =
      ⟨(below.append chain).forest, true, []⟩ := by
    rw [Forest.register_missing _ _ _ _ _ _ stuck, Grove.append_forest, isChain]
    rfl
  obtain ⟨next, left, events, ends, all, mirrors⟩ := rise_refines linked table layout represents
    slot spine below _ locates.held locates.reaches.apart value head rest cleared clears registers
    arena planted sound fits
  refine ⟨next, left, ?_, mirrors⟩
  rw [all, Linked.addPath, spine.trail_last]
  refine Linked.ends_read tokens ?_
  refine Linked.ends_read (Linked.reads_reserve linked _ (by omega)) ?_
  refine Linked.ends_read (Linked.reads_cell linked _ _ last) ?_
  refine Linked.ends_read (Linked.reads_pure linked _) ?_
  exact Linked.ends_bind relaxes (Linked.ends_then adds ends)

end

/-! ## New roots -/

theorem reserve_root_cases :
    (table.roots.isFull = true ∧
      Linked.Ends Linked.reserveRoot linked (.error (.capacityExceeded table.roots.capacity)) linked
        []) ∨
    (table.roots.isFull = false ∧ Linked.Reads Linked.reserveRoot linked ()) := by
  have count := represents_count linked table layout represents
  have capacity := represents_capacity linked table layout represents
  by_cases full : table.roots.capacity ≤ table.roots.count
  · refine Or.inl ⟨by simpa [Roots.isFull] using full, ?_⟩
    refine Linked.ends_read (Linked.reads_table linked) ?_
    simp only [count, capacity, if_pos full]
    exact Linked.ends_refuse linked _
  · refine Or.inr ⟨by simpa [Roots.isFull] using full, ?_⟩
    refine Linked.reads_bind _ (Linked.reads_table linked) ?_
    simp only [count, capacity, if_neg full]
    exact Linked.reads_pure linked ()

section

variable (room : table.roots.count < table.roots.capacity)
include room

theorem represents_vacancy :
    linked.directory.vacancy? = some table.roots.vacancy ∧
      layout[table.roots.vacancy]? = some none := by
  have vacant := table.roots.padded_vacant represents.fits.slots room
  have first := table.roots.padded_vacancy
  rw [← represents.trees] at vacant first
  have missing : none ∈ layout := by
    obtain ⟨held, member, isNone⟩ := List.mem_map.mp vacant
    rwa [Option.map_eq_none_iff.mp isNone] at member
  have same : ∀ {β : Type} (f : Plant V → β), Option.isNone ∘ Option.map f = Option.isNone := by
    intro β f
    funext held
    cases held <;> rfl
  rw [List.findIdx_map, same] at first
  have bound : layout.findIdx Option.isNone < layout.length :=
    List.findIdx_lt_length_of_exists ⟨none, missing, rfl⟩
  constructor
  · rw [Directory.vacancy?, represents.indexes.slots, List.findIdx?_map, same,
      List.findIdx?_eq_some_iff_findIdx_eq]
    exact ⟨first ▸ bound, first⟩
  · rw [← first, List.getElem?_eq_getElem bound]
    exact congrArg some (Option.isNone_iff_eq_none.mp (List.findIdx_getElem (w := bound)))

theorem ends_attach (segment : Segment) (arena : Arena V) (id : NodeId) (here : Cell V)
    (found : arena.cell? id = some here) (named : here.segment = segment) :
    Linked.Ends (Linked.attachRoot segment.text id) { linked with arena } (.ok ())
      { linked with
        arena
        directory := linked.directory.put segment.text table.roots.vacancy id }
      [Journal.rootAdded table.roots.vacancy segment] := by
  have vacancy := (represents_vacancy linked table layout represents room).1
  have inserted : Linked.Ends (Linked.insertRoot segment.text id) { linked with arena }
      (.ok (some table.roots.vacancy))
      { linked with
        arena
        directory := linked.directory.put segment.text table.roots.vacancy id } [] := by
    refine Linked.ends_read (Linked.reads_table _) ?_
    simp only [vacancy]
    exact Linked.ends_last _ (Linked.ends_change _ _) (Linked.reads_pure _ _)
  subst named
  refine Linked.ends_then inserted ?_
  exact Linked.ends_read (Linked.reads_cell _ id here found) (Linked.ends_report _ _)

theorem planted_mirrors (segment : Segment) (rest : Path) (value : V)
    (spelled : table.config.keyRules.Spells [segment]) (absent : table.roots.find? segment = none)
    (plant : Plant V) (tree : plant.tree = Tree.chain value segment rest) (arena : Arena V)
    (stocked : arena.Stocked (plant.grove.append (grove layout)))
    (sound : (table.register (segment :: rest) value).state.Sound)
    (fits : (table.register (segment :: rest) value).state.Fits) :
    Mirrors
      { linked with
        arena
        directory := linked.directory.put segment.text table.roots.vacancy plant.id }
      (table.register (segment :: rest) value).state
      (layout.set table.roots.vacancy (some plant)) := by
  obtain ⟨_, vacant⟩ := represents_vacancy linked table layout represents room
  obtain ⟨bound, isVacant⟩ := List.getElem?_eq_some_iff.mp vacant
  have registered : table.register (segment :: rest) value =
      ⟨(), { table with
          roots := table.roots.add (.chain value segment rest)
          cache := table.cache.invalidate },
        [Journal.rootAdded table.roots.vacancy segment]⟩ := by
    simp [Table.register, Roots.register, absent]
  have named : plant.segment = segment := by
    have top := congrArg Tree.segment tree
    rwa [(Roots.chain_node value segment rest).1] at top
  have fresh : ∀ other ∈ plants layout, other.segment.text ≠ plant.segment.text := by
    intro other member same
    obtain ⟨slot, held⟩ := (plants_member layout other).mp member
    rw [named] at same
    have equal := KeyRules.spells_text _ _ _
      (root_spelled linked table layout represents slot other held) spelled same
    have found := held_root linked table layout represents slot other held
    rw [equal, absent] at found
    cases found
  have kept : layout.set table.roots.vacancy none = layout := by
    rw [← isVacant, List.set_getElem_self]
  have trees : (layout.set table.roots.vacancy (some plant)).map (Option.map Plant.tree) =
      (table.roots.add (.chain value segment rest)).padded := by
    rw [Roots.padded_add _ represents.fits.slots room, List.map_set, represents.trees, Option.map_some,
      tree]
  have indexes := Directory.indexes_put _ layout represents.indexes table.roots.vacancy plant vacant
    fresh
  rw [named] at indexes
  rw [registered] at sound fits ⊢
  have cache : linked.cache.invalidate = table.cache.invalidate :=
    congrArg QuickCache.invalidate represents.cache
  refine ⟨represents.config, represents.eqv, represents.strategy, cache, trees, indexes, ?_, sound,
    fits⟩
  rw [stocked_set layout _ bound, kept]
  exact stocked

theorem new_root_refines (segment : Segment) (rest : Path) (topical : rest.Topical) (value : V)
    (spelled : table.config.keyRules.Spells [segment]) (absent : table.roots.find? segment = none)
    (sound : (table.register (segment :: rest) value).state.Sound)
    (fits : (table.register (segment :: rest) value).state.Fits) :
    ∃ (next : LinkedTable V) (left : Layout V),
      Linked.Ends
        (do let id ← Linked.allocate (.ofNode segment (Forest.link value rest).target none [])
            Linked.attachRoot segment.text id
            Linked.addBelow id (Linked.newCells value (rest.map Segment.characters)))
        linked (.ok ()) next (table.register (segment :: rest) value).events ∧
      next.Mirrors (table.register (segment :: rest) value).state left := by
  have tallies := represents.stocked.tallies
  generalize isTarget : (Forest.link value rest).target = target
  have allocates := Linked.ends_allocate linked (.ofNode segment target none [])
    (Arena.free_bound linked.arena _ tallies)
  have here := Arena.insert_here linked.arena _ tallies (.ofNode segment target none [])
  have planted := Arena.stocked_root linked.arena _ represents.stocked segment target
  have attaches := ends_attach linked table layout represents room segment _ _ _ here rfl
  obtain ⟨arena, chain, isChain, grown, adds⟩ := Linked.adds_below
    { linked with
      arena := linked.arena.insert (.ofNode segment target none [])
      directory := linked.directory.put segment.text table.roots.vacancy linked.arena.next }
    _ .nil _ planted value rest topical
  have whole : (Plant.mk linked.arena.next segment target chain).tree = Tree.chain value segment rest := by
    cases rest <;> simp [Plant.tree, isChain, ← isTarget, Tree.chain, Forest.link]
  have mirrors := planted_mirrors linked table layout represents room segment rest value spelled absent
    _ whole arena ((Arena.focused_iff ..).mp grown) sound fits
  have events : (table.register (segment :: rest) value).events =
      [Journal.rootAdded table.roots.vacancy segment] := by
    simp [Table.register, Roots.register, absent]
  rw [events]
  exact ⟨_, _, Linked.ends_then allocates (Linked.ends_bind attaches adds), mirrors⟩

end

/-! ## Keys -/

def Sets (linked : LinkedTable V) (table : Table V) (key : String) (value : V)
    (action : Action V Unit) : Prop :=
  (∃ error, table.accept key value = .error error ∧
    Linked.Ends action linked (.error error) linked []) ∨
  ∃ (kind : KeyKind) (next : LinkedTable V) (left : Layout V), table.accept key value = .ok kind ∧
    Linked.Ends action linked (.ok ()) next
      (table.literalWarning kind key ++ (table.register (kind.path key) value).events) ∧
    next.Mirrors (table.register (kind.path key) value).state left

omit represents in
theorem sets_read {α : Type} (key : String) (value : V) (action : Action V α)
    (f : α → Action V Unit) (result : α) (first : Linked.Reads action linked result)
    (later : linked.Sets table key value (f result)) :
    linked.Sets table key value (action >>= f) := by
  rcases later with ⟨error, refused, ends⟩ | ⟨kind, next, left, accepted, ends, mirrors⟩
  · exact Or.inl ⟨error, refused, Linked.ends_read first ends⟩
  · exact Or.inr ⟨kind, next, left, accepted, Linked.ends_read first ends, mirrors⟩

section

variable (key : String) (value : V)

theorem accepted_sound (kind : KeyKind) (accepted : table.accept key value = .ok kind) :
    (table.register (kind.path key) value).state.Sound ∧
      (table.register (kind.path key) value).state.Fits :=
  ⟨(Table.kept_sound fun _ => True).register table key value kind represents.sound accepted,
    Table.register_fits table key value kind represents.fits accepted⟩

theorem set_literal_refines (valid : table.config.keyRules.classify key = .ok .literal) :
    linked.Sets table key value (Linked.setLiteral key value) := by
  have spelled : table.config.keyRules.Spells [.literal key] :=
    KeyRules.spells_key_path _ key .literal valid
  cases found : table.roots.find? (.literal key) with
  | some tree =>
      obtain ⟨slot, plant, held, rfl, named⟩ := root_held linked table layout represents _ tree found
      have node : table.forest.node? [.literal key] = some plant.tree.node := by
        rw [Table.forest, Roots.forest_root, found]
        rfl
      have accepted : table.accept key value = .ok .literal := by
        simp [Table.accept, Table.keyKind, valid, KeyKind.path, node]
      obtain ⟨sound, fits⟩ := accepted_sound linked table layout represents key value _ accepted
      have finds := reads_find_root linked table layout represents slot plant held
      have warning : table.literalWarning .literal key = [Journal.literalRefreshed key] := by
        simp [Table.literalWarning, KeyKind.path, node]
      rw [named] at finds
      rw [KeyKind.path, ← named] at sound fits
      obtain ⟨next, left, ends, mirrors⟩ := root_value_refines linked table layout represents slot plant
        held value sound fits
      rw [named] at ends mirrors
      refine Or.inr ⟨.literal, next, left, accepted, ?_, mirrors⟩
      rw [warning]
      refine Linked.ends_read finds ?_
      exact Linked.ends_bind (Linked.ends_report linked _) ends
  | none =>
      have missing : table.forest.node? [.literal key] = none :=
        table.roots.forest_rootless _ [] found
      have finds := reads_no_root linked table layout represents _ spelled found
      rcases reserve_root_cases linked table layout represents with ⟨full, refuses⟩ | ⟨roomy, reserves⟩
      · refine Or.inl ⟨.capacityExceeded table.roots.capacity, ?_, ?_⟩
        · simp [Table.accept, Table.keyKind, valid, KeyKind.path, missing, found, full]
        · exact Linked.ends_read finds (Linked.ends_refused _ refuses)
      · have accepted : table.accept key value = .ok .literal := by
          simp [Table.accept, Table.keyKind, valid, KeyKind.path, missing, found, roomy]
        obtain ⟨sound, fits⟩ := accepted_sound linked table layout represents key value _ accepted
        have room : table.roots.count < table.roots.capacity := by simpa [Roots.isFull] using roomy
        obtain ⟨next, left, ends, mirrors⟩ := new_root_refines linked table layout represents room
          (.literal key) [] trivial value spelled found sound fits
        have total := represents.stocked.tallies.total
        have quiet : table.literalWarning .literal key = [] := by
          simp [Table.literalWarning, KeyKind.path, missing]
        simp only [List.map_nil, Linked.newCells, Linked.addBelow, bind_pure_unit] at ends
        refine Or.inr ⟨.literal, next, left, accepted, ?_, mirrors⟩
        rw [quiet, List.nil_append]
        refine Linked.ends_read finds (Linked.ends_read reserves ?_)
        exact Linked.ends_read (Linked.reads_reserve linked 1 (by omega)) ends

theorem add_root_refines (valid : table.config.keyRules.classify key = .ok .topic)
    (head : Segment) (rest : Path) (named : Path.ofTopic key = head :: rest)
    (absent : table.roots.find? head = none) :
    linked.Sets table key value (Linked.addPath key [] key.toList value) := by
  have topical : Path.Topical (head :: rest) := named ▸ Path.topical_ofTopic key
  obtain ⟨single, later, _⟩ := Path.topical_cons head rest topical
  have spelled := key_head_spelled key .topic head rest named _ valid
  have text : Path.text (head :: rest) = key := by rw [← named, Path.text_ofTopic]
  have tokens := Linked.reads_tokens linked _ topical []
  have heads := Linked.reads_head_token linked head rest topical
  rw [text] at tokens heads
  have total := represents.stocked.tallies.total
  have missing : table.forest.node? (head :: rest) = none :=
    table.roots.forest_rootless head rest absent
  rcases reserve_root_cases linked table layout represents with ⟨full, refuses⟩ | ⟨roomy, reserves⟩
  · refine Or.inl ⟨.capacityExceeded table.roots.capacity, ?_, ?_⟩
    · simp [Table.accept, Table.keyKind, valid, KeyKind.path, named, missing, absent, full]
    · refine Linked.ends_read tokens ?_
      refine Linked.ends_read (Linked.reads_reserve linked _ (by omega)) ?_
      exact Linked.ends_refused _ refuses
  · have accepted : table.accept key value = .ok .topic := by
      simp [Table.accept, Table.keyKind, valid, KeyKind.path, named, missing, absent, roomy]
    obtain ⟨sound, fits⟩ := accepted_sound linked table layout represents key value _ accepted
    have room : table.roots.count < table.roots.capacity := by simpa [Roots.isFull] using roomy
    rw [KeyKind.path, named] at sound fits
    obtain ⟨next, left, ends, mirrors⟩ := new_root_refines linked table layout represents room head
      rest later value spelled absent sound fits
    refine Or.inr ⟨.topic, next, left, accepted, ?_, by rwa [KeyKind.path, named]⟩
    rw [KeyKind.path, named]
    refine Linked.ends_read tokens ?_
    refine Linked.ends_read (Linked.reads_reserve linked _ (by omega)) ?_
    refine Linked.ends_read reserves (Linked.ends_read heads ?_)
    refine Linked.ends_read (Linked.reads_pure linked _) ?_
    rw [List.nil_append, Linked.new_cells value head rest single]
    have stops : (Linked.revise none : Action V Unit) = pure () := by rw [Linked.revise_eq]
    simp only [Segment.characters, String.ofList_toList, stops, bind_pure_unit]
    exact ends

theorem set_located_refines (valid : table.config.keyRules.classify key = .ok .topic)
    (open_ : table.exactValue? (Path.ofTopic key) = none) (slot : Nat) (spine : Spine V)
    (below : Grove V) (locates : linked.Locates layout spine.path slot spine below) (rest : Path)
    (whole : spine.path ++ rest = Path.ofTopic key) (topical : rest.Topical)
    (stuck : ∀ head more, rest = head :: more → below.forest.child? head = none) :
    linked.Sets table key value
      (if rest.text.toList.isEmpty then Linked.routeExisting key spine.trail value
        else Linked.addPath key spine.trail rest.text.toList value) := by
  have located := located_node linked table layout represents _ slot spine below locates
  cases rest with
  | nil =>
      rw [List.append_nil] at whole
      rw [whole] at located
      have unset : spine.target.value? = none := by
        rw [Table.exactValue?, located] at open_
        exact open_
      cases agrees : below.forest.agreesWith table.eqv value with
      | false =>
          refine Or.inl ⟨.conflictingRoute key, ?_, ?_⟩
          · simp [Table.accept, Table.keyKind, valid, KeyKind.path, located, unset, agrees]
          · exact route_existing_refused linked table layout represents key value slot spine below
              locates unset agrees
      | true =>
          have accepted : table.accept key value = .ok .topic := by
            simp [Table.accept, Table.keyKind, valid, KeyKind.path, located, unset, agrees]
          obtain ⟨sound, fits⟩ := accepted_sound linked table layout represents key value _ accepted
          rw [KeyKind.path, ← whole] at sound fits
          obtain ⟨next, left, ends, mirrors⟩ := route_existing_refines linked table layout represents
            key value slot spine below locates unset agrees sound fits
          rw [whole] at ends mirrors
          exact Or.inr ⟨.topic, next, left, accepted, ends, mirrors⟩
  | cons head more =>
      have missing : table.forest.node? (Path.ofTopic key) = none := by
        rw [← whole]
        exact stuck_node linked table layout represents _ slot spine below locates head more
          (stuck head more rfl)
      have root := held_root linked table layout represents slot _ locates.held
      rw [Spine.fill_segment] at root
      have accepted : table.accept key value = .ok .topic := by
        have first : (Path.ofTopic key).head? = some spine.first := by
          rw [← whole, Spine.path]
          rfl
        simp [Table.accept, Table.keyKind, valid, KeyKind.path, missing, first, root]
      obtain ⟨sound, fits⟩ := accepted_sound linked table layout represents key value _ accepted
      rw [KeyKind.path, ← whole] at sound fits
      obtain ⟨next, left, ends, mirrors⟩ := add_path_refines linked table layout represents key value
        slot spine below locates head more topical (stuck head more rfl) sound fits
      have filled : (Path.text (head :: more)).toList.isEmpty = false := by
        simp [Path.text_characters, Segment.characters_nonempty head (Path.topical_cons _ _ topical).1]
      rw [whole] at ends mirrors
      rw [filled]
      exact Or.inr ⟨.topic, next, left, accepted, ends, mirrors⟩

theorem set_topic_refines (valid : table.config.keyRules.classify key = .ok .topic) :
    linked.Sets table key value (Linked.setTopic key value) := by
  have reads := reads_exhaustive linked table layout represents key .topic valid
  have tokens := Linked.reads_tokens linked (Path.ofTopic key) (Path.topical_ofTopic key) []
  rw [Path.text_ofTopic] at tokens
  rw [KeyKind.path] at reads
  refine sets_read linked table key value _ _ _ reads ?_
  cases valued : table.exactValue? (Path.ofTopic key) with
  | some held =>
      obtain ⟨here, found, isValue⟩ := Option.bind_eq_some_iff.mp valued
      refine Or.inl ⟨.duplicateRoute key, ?_, Linked.ends_refuse linked _⟩
      simp [Table.accept, Table.keyKind, valid, KeyKind.path, found, isValue]
  | none =>
      rcases walk_cases linked table layout represents key .topic valid with
        ⟨head, rest, walk, named, absent, starts, ends⟩ |
        ⟨slot, spine, below, rest, walk, locates, whole, topical, stuck, starts, ends⟩
      · have traced : Linked.Reads (Linked.tracePath key) linked ([], key.toList) :=
          Linked.reads_bind _ tokens (Linked.reads_bind _ starts ends)
        refine sets_read linked table key value _ _ _ traced ?_
        have filled : key.toList.isEmpty = false := by
          rw [key_characters key .topic head rest named]
          have single := (Path.topical_cons head rest (named ▸ Path.topical_ofTopic key)).1
          simp [Segment.characters_nonempty head single]
        simp only [filled]
        exact add_root_refines linked table layout represents key value valid head rest named absent
      · have traced : Linked.Reads (Linked.tracePath key) linked (spine.trail, rest.text.toList) :=
          Linked.reads_bind _ tokens (Linked.reads_bind _ starts ends)
        refine sets_read linked table key value _ _ _ traced ?_
        exact set_located_refines linked table layout represents key value valid valued slot spine
          below locates rest whole topical stuck

theorem set_key_refines : linked.Sets table key value (Linked.setKey key value) := by
  rcases key_kind_cases linked table layout represents key with
    ⟨fault, invalid, refused⟩ | ⟨kind, _, valid, reads⟩
  · refine Or.inl ⟨.invalidKey key fault, ?_, Linked.ends_refused _ refused⟩
    simp [Table.accept, invalid]
  · refine sets_read linked table key value _ _ _ reads ?_
    cases kind with
    | literal => exact set_literal_refines linked table layout represents key value valid
    | topic => exact set_topic_refines linked table layout represents key value valid

theorem set_route_cases :
    (∃ error, table.setRoute key value =
        ⟨.error error, table, [Journal.routeRejected key error]⟩ ∧
      Linked.Ends (Linked.setRoute key value) linked (.error error) linked
        [Journal.routeRejected key error]) ∨
    (table.setRoute key value).result = .ok () ∧
      linked.Follows (Linked.setRoute key value) (.ok ()) (table.setRoute key value).state
        (table.setRoute key value).events := by
  rcases set_key_refines linked table layout represents key value with
    ⟨error, refused, ends⟩ | ⟨kind, next, left, accepted, ends, mirrors⟩
  · refine Or.inl ⟨error, by simp [Table.setRoute, refused], ?_⟩
    refine Linked.ends_read (Linked.reads_table linked) ?_
    refine Linked.ends_then (Linked.ends_attempt ends) ?_
    exact Linked.ends_bind (Linked.ends_report linked _) (Linked.ends_refuse linked _)
  · obtain ⟨segment, rest, path⟩ : ∃ segment rest, kind.path key = segment :: rest :=
      List.exists_cons_of_ne_nil (KeyRules.spells_nonempty _ _
        (KeyRules.spells_key_path _ key kind (Table.accept_kind table key value kind accepted)))
    have grown : table.roots.count ≤ (table.register (segment :: rest) value).state.roots.count ∧
        table.roots.dynamicCount ≤ (table.register (segment :: rest) value).state.roots.dynamicCount :=
      table.roots.register_grows represents.sound.regular.distinct table.eqv value segment rest
    have stale : (table.register (segment :: rest) value).state.cache.stale = true := rfl
    have done : table.setRoute key value =
        ⟨.ok (), (table.register (kind.path key) value).state,
          table.literalWarning kind key ++ (table.register (kind.path key) value).events
            ++ [Journal.routeSet key
              ((table.register (kind.path key) value).state.roots.count - table.roots.count)
              ((table.register (kind.path key) value).state.roots.dynamicCount
                - table.roots.dynamicCount)]⟩ := by
      simp [Table.setRoute, accepted]
    rw [done]
    rw [path] at ends mirrors ⊢
    have represented := mirrors_stale next _ left mirrors stale
    generalize (table.register (segment :: rest) value).state = state at grown represented ⊢
    have rootsBefore := represents_count linked table layout represents
    have rootsAfter := represents_count _ _ left represented
    have nodesBefore := represents_nodes linked table layout represents
    have nodesAfter := represents_nodes _ _ left represented
    rw [Table.node_count] at nodesBefore nodesAfter
    refine Or.inr ⟨rfl, _, left, ?_, represented⟩
    refine Linked.ends_read (Linked.reads_table linked) ?_
    refine Linked.ends_bind (Linked.ends_attempt ends) ?_
    refine Linked.ends_then (Linked.ends_change next _) ?_
    refine Linked.ends_read (Linked.reads_table _) ?_
    -- No count has gone down, so none of the differences fails.
    refine Linked.ends_read (Linked.reads_minus _ _ _ (by omega)) ?_
    refine Linked.ends_read (Linked.reads_minus _ _ _ (by omega)) ?_
    refine Linked.ends_read (Linked.reads_minus _ _ _ (by omega)) ?_
    have dynamic : state.roots.count + state.roots.dynamicCount
          - (table.roots.count + table.roots.dynamicCount)
          - (state.roots.count - table.roots.count) =
        state.roots.dynamicCount - table.roots.dynamicCount := by omega
    rw [rootsBefore, rootsAfter, nodesBefore, nodesAfter, dynamic]
    exact Linked.ends_report _ _

end

end

end LinkedTable

end TopicRouting
