import TopicRouting.Proofs.Linked.Routes
import TopicRouting.Proofs.Table.Reversal

/-!
What taking a route out leaves of linked nodes. The routes that extend its key are gone and all
others are there with their values. No cell is moved or renamed: what is left keeps its number, its
place among its siblings and the slot of its root, and every cell that is left leads to a route.
-/

set_option autoImplicit false

namespace TopicRouting

open Layout

variable {V : Type}

/-! ## Lists -/

-- Where a key has one value at most, a list follows another one if its keys do.
theorem sublist_of_keys {α β : Type} (new old : List (α × β))
    (keys : (new.map Prod.fst).Sublist (old.map Prod.fst))
    (same : ∀ key a b, (key, a) ∈ new → (key, b) ∈ old → a = b) : new.Sublist old := by
  induction old generalizing new with
  | nil =>
      rw [List.map_nil, List.sublist_nil, List.map_eq_nil_iff] at keys
      rw [keys]
  | cons first old ih =>
      rw [List.map_cons, List.sublist_cons_iff] at keys
      rcases keys with later | ⟨others, whole, later⟩
      · exact (ih new later fun key a b isNew isOld =>
          same key a b isNew (List.mem_cons_of_mem _ isOld)).cons first
      · obtain ⟨⟨key, a⟩, rest, rfl, sameKey, rfl⟩ := List.map_eq_cons_iff.mp whole
        obtain ⟨found, b⟩ := first
        cases sameKey
        cases same key a b List.mem_cons_self List.mem_cons_self
        exact (ih rest later fun key a b isNew isOld =>
          same key a b (List.mem_cons_of_mem _ isNew) (List.mem_cons_of_mem _ isOld)).cons_cons _

theorem sublist_filter {α : Type} (new old : List α) (within : new.Sublist old) (once : old.Nodup)
    (test : α → Bool) (kept : ∀ a ∈ old, test a = true ↔ a ∈ new) : new = old.filter test := by
  have whole : new.filter test = new := by
    rw [List.filter_eq_self]
    exact fun a member => (kept a (within.subset member)).mpr member
  have sublist := within.filter test
  rw [whole] at sublist
  apply sublist.eq_of_length_le
  apply List.Subperm.length_le
  apply (once.filter test).subperm
  intro a member
  obtain ⟨isOld, passes⟩ := List.mem_filter.mp member
  exact (kept a isOld).mp passes

/-! ## Tables -/

theorem Table.remove_route_children (table : Table V) (sound : table.Sound) (key : String)
    (granted : (table.removeRoute key).result = .ok ()) (path : Path) (old here : Node V)
    (found : table.forest.node? path = some old)
    (remains : (table.removeRoute key).state.forest.node? path = some here) :
    here.children.segments.Sublist old.children.segments := by
  cases named : table.keyPath key with
  | error error =>
      simp only [removeRoute, named] at granted
      cases granted
  | ok whole =>
      by_cases registered : table.isRegistered whole = true
      · obtain ⟨top, isTop, _⟩ := (Option.any_eq_true _ _).mp registered
        obtain ⟨segment, rest, rfl, _, left⟩ := detach_found table whole top isTop
        simp only [removeRoute, named, if_pos registered, left] at remains
        have rearranged := table.roots.detach_rearranged table.eqv segment rest
          sound.regular.distinct
        have same := Forest.rearranged_node _ _ rearranged path
        exact Forest.detach_children table.eqv table.forest segment rest path sound.regular old here
          found (same.symm.trans remains)
      · simp only [removeRoute, named, if_neg registered] at granted
        cases granted

theorem Table.remove_route_verdict (table : Table V) (sound : table.Sound) (key : String) :
    (∀ fault, table.config.keyRules.classify key = .error fault →
      (table.removeRoute key).result = .error (.invalidKey key fault)) ∧
    (∀ kind, table.config.keyRules.classify key = .ok kind → ¬ table.Key key →
      (table.removeRoute key).result = .error (.notFound key)) ∧
    ((table.removeRoute key).result = .ok () ↔ table.Key key) := by
  have taken : table.Key key → (table.removeRoute key).result = .ok () := by
    intro isKey
    obtain ⟨value, registered⟩ := isKey
    exact (remove_route_taken table sound key value registered).1
  have invalid : ∀ fault, table.config.keyRules.classify key = .error fault →
      (table.removeRoute key).result = .error (.invalidKey key fault) := by
    intro fault isInvalid
    simp [removeRoute, keyPath, keyKind, isInvalid]
  have missing : ∀ kind, table.config.keyRules.classify key = .ok kind → ¬ table.Key key →
      (table.removeRoute key).result = .error (.notFound key) := by
    intro kind valid keyless
    have named := (key_path_iff table key _).mpr ⟨kind, valid, rfl⟩
    rw [← is_registered_iff table sound key _ named] at keyless
    simp [removeRoute, named, keyless]
  refine ⟨invalid, missing, ?_, taken⟩
  intro granted
  by_cases isKey : table.Key key
  · exact isKey
  · cases classified : table.config.keyRules.classify key with
    | error fault => cases granted.symm.trans (invalid fault classified)
    | ok kind => cases granted.symm.trans (missing kind classified isKey)

namespace LinkedTable

structure Withdrawn (linked next : LinkedTable V) (key : String) : Prop where
  config : next.config = linked.config
  routes : ∀ other held, next.Registered other held ↔
    linked.Registered other held ∧ ¬ linked.config.keyRules.Extends other key
  needed : ∀ id, next.arena.contains id = true →
    ∃ text other held, linked.Names id text ∧ next.Names id text ∧ next.Registered other held ∧
      linked.config.keyRules.Extends other text
  children : ∀ id here after, linked.arena.cell? id = some here →
    next.arena.cell? id = some after → after.children = here.children.filter next.arena.contains
  slots : next.directory.slots =
    linked.directory.slots.map fun content => content.filter next.arena.contains

structure Withdrawal (linked next : LinkedTable V) (key : String) (result : Except RouteError Unit) :
    Prop where
  invalid : ∀ fault, linked.config.keyRules.classify key = .error fault →
    result = .error (.invalidKey key fault)
  missing : ∀ kind, linked.config.keyRules.classify key = .ok kind →
    (¬ ∃ held, linked.Registered key held) → result = .error (.notFound key)
  granted : result = .ok () ↔ ∃ held, linked.Registered key held
  refused : ∀ error, result = .error error → next = linked
  withdrawn : result = .ok () → linked.Withdrawn next key

/-! ## Cells -/

section

variable (linked : LinkedTable V) (table : Table V) (layout : Layout V)
  (represents : linked.Represents table layout)
include represents

theorem child_listed (path : Path) (segment : Segment) (id child : NodeId) (here : Cell V)
    (placed : (path, id) ∈ (grove layout).places)
    (placedChild : (path ++ [segment], child) ∈ (grove layout).places)
    (found : linked.arena.cell? id = some here) : child ∈ here.children := by
  obtain ⟨_, node, tops, isHere, isNode, _, _, children, segments, below⟩ :=
    place_cell linked table layout represents path id placed
  obtain ⟨_, lower, _, _, isLower, _⟩ :=
    place_cell linked table layout represents _ child placedChild
  cases found.symm.trans isHere
  have nonempty := Forest.node_nonempty _ path node isNode
  have listed : segment ∈ node.children.segments := by
    rw [Forest.node_append path [segment] table.forest nonempty, isNode, Option.bind_some] at isLower
    by_cases within : segment ∈ node.children.segments
    · exact within
    · have absent := (Forest.child_none_iff segment node.children).mpr within
      exact nomatch absent.symm.trans isLower
  rw [segments] at listed
  obtain ⟨⟨_, other⟩, isTop, rfl⟩ := List.mem_map.mp listed
  cases place_number linked table layout represents _ child other placedChild (below _ other isTop)
  rw [children]
  exact List.mem_map_of_mem isTop

theorem root_placed_iff (path : Path) (id : NodeId) (placed : (path, id) ∈ (grove layout).places) :
    (∃ slot : Nat, linked.directory.slots[slot]? = some (some id)) ↔ path.length = 1 := by
  obtain ⟨here, slot, spine, below, found, rfl, stands⟩ :=
    place_stands linked table layout represents path id placed
  obtain ⟨front, whole, isRoot⟩ := spine.path_last
  rw [(represents_linking linked table layout represents).roots, whole, List.length_append]
  constructor
  · intro parentless
    obtain ⟨own, isOwn, parent⟩ := parentless
    cases found.symm.trans isOwn
    rw [stands.cell] at parent
    rw [isRoot.mpr parent]
    rfl
  · intro single
    have empty : front = [] := List.eq_nil_of_length_eq_zero (by simpa using single)
    refine ⟨here, found, ?_⟩
    rw [stands.cell]
    exact isRoot.mp empty

end

section

variable (linked next : LinkedTable V) (table state : Table V) (layout left : Layout V)
  (represents : linked.Represents table layout) (represented : next.Represents state left)
  (shrinks : Shrinks left layout)
include represents represented shrinks

theorem withdrawn_children
    (ordered : ∀ path old here, table.forest.node? path = some old →
      state.forest.node? path = some here → here.children.segments.Sublist old.children.segments)
    (id : NodeId) (here after : Cell V) (found : linked.arena.cell? id = some here)
    (remains : next.arena.cell? id = some after) :
    after.children = here.children.filter next.arena.contains := by
  have linking := represents_linking linked table layout represents
  have linkingToo := represents_linking next state left represented
  obtain ⟨path, placed⟩ := used_placed next state left represented id
    ((next.arena.contains_iff id).mpr ⟨after, remains⟩)
  obtain ⟨_, old, tops, isHere, isOld, _, _, children, segments, below⟩ :=
    place_cell linked table layout represents path id (shrinks.places placed)
  obtain ⟨_, node, topsToo, isAfter, isNode, _, _, childrenToo, segmentsToo, belowToo⟩ :=
    place_cell next state left represented path id placed
  cases found.symm.trans isHere
  cases remains.symm.trans isAfter
  have keys := ordered path old node isOld isNode
  rw [segments, segmentsToo] at keys
  -- The order is known of the segments, and no number changes its segment.
  have within : topsToo.Sublist tops := by
    apply sublist_of_keys topsToo tops keys
    intro segment a b isNew isTop
    exact place_number linked table layout represents _ a b
      (shrinks.places (belowToo segment a isNew)) (below segment b isTop)
  rw [childrenToo, children]
  apply sublist_filter _ _ (within.map Prod.snd)
  · rw [← children]
    exact linking.children id here found
  · intro child listed
    obtain ⟨⟨segment, _⟩, isTop, rfl⟩ := List.mem_map.mp listed
    constructor
    · intro used
      obtain ⟨whole, placedChild⟩ := used_placed next state left represented _ used
      cases place_path linked table layout represents whole _ _ (shrinks.places placedChild)
        (below segment _ isTop)
      rw [← childrenToo]
      exact child_listed next state left represented path segment id _ after placed placedChild
        remains
    · intro listedToo
      rw [← childrenToo] at listedToo
      obtain ⟨cell, isCell, _⟩ := linkingToo.down id after remains _ listedToo
      exact (next.arena.contains_iff _).mpr ⟨cell, isCell⟩

theorem kept_root (slot : Nat) (id : NodeId)
    (held : next.directory.slots[slot]? = some (some id)) :
    linked.directory.slots[slot]? = some (some id) := by
  obtain ⟨plant, isLeft, rfl⟩ := (slot_root next state left represented slot id).mp held
  exact (slot_root linked table layout represents slot _).mpr (shrinks.roots slot plant isLeft)

theorem withdrawn_slot (slot : Nat) (id : NodeId)
    (held : linked.directory.slots[slot]? = some (some id)) :
    next.directory.slots[slot]? = some (some id) ↔ next.arena.contains id = true := by
  have linking := represents_linking linked table layout represents
  constructor
  · intro heldToo
    obtain ⟨here, found, _⟩ :=
      ((represents_linking next state left represented).roots id).mp ⟨slot, heldToo⟩
    exact (next.arena.contains_iff id).mpr ⟨here, found⟩
  · intro used
    obtain ⟨path, placed⟩ := used_placed next state left represented id used
    have single := (root_placed_iff linked table layout represents path id
      (shrinks.places placed)).mp ⟨slot, held⟩
    obtain ⟨other, heldToo⟩ :=
      (root_placed_iff next state left represented path id placed).mpr single
    have before := kept_root linked next table state layout left represents represented shrinks other
      id heldToo
    rwa [linking.slots id slot other held before]

theorem withdrawn_slots : next.directory.slots =
    linked.directory.slots.map fun content => content.filter next.arena.contains := by
  have lengths : next.directory.slots.length = linked.directory.slots.length := by
    rw [represented.indexes.slots, represents.indexes.slots, List.length_map, List.length_map,
      shrinks.slots]
  apply List.ext_getElem?
  intro slot
  have kept := kept_root linked next table state layout left represents represented shrinks slot
  have root := withdrawn_slot linked next table state layout left represents represented shrinks slot
  rw [List.getElem?_map]
  by_cases bound : slot < linked.directory.slots.length
  · have boundToo : slot < next.directory.slots.length := by omega
    rw [List.getElem?_eq_getElem boundToo, List.getElem?_eq_getElem bound] at kept root ⊢
    generalize next.directory.slots[slot] = content at kept root ⊢
    generalize linked.directory.slots[slot] = old at kept root ⊢
    cases old with
    | none =>
        cases content with
        | none => rfl
        | some id => cases kept id rfl
    | some id =>
        by_cases used : next.arena.contains id = true
        · rw [(root id rfl).mpr used, Option.map_some, Option.filter_some, if_pos used]
        · cases content with
          | none => rw [Option.map_some, Option.filter_some, if_neg used]
          | some other =>
              cases kept other rfl
              exact absurd ((root id rfl).mp rfl) used
  · have boundToo : ¬ slot < next.directory.slots.length := by omega
    rw [List.getElem?_eq_none (Nat.le_of_not_lt bound),
      List.getElem?_eq_none (Nat.le_of_not_lt boundToo)]
    rfl

end

/-! ## The whole request -/

section

variable (linked next : LinkedTable V) (table : Table V) (layout left : Layout V) (key : String)
  (represents : linked.Represents table layout)
  (represented : next.Represents (table.removeRoute key).state left)
include represents represented

theorem cell_needed (shrinks : Shrinks left layout) (id : NodeId)
    (used : next.arena.contains id = true) :
    ∃ text other held, linked.Names id text ∧ next.Names id text ∧ next.Registered other held ∧
      next.config.keyRules.Extends other text := by
  obtain ⟨path, placed⟩ := used_placed next _ left represented id used
  obtain ⟨_, node, _, _, isNode, _⟩ := place_cell next _ left represented path id placed
  have namesBefore :=
    (place_names linked table layout represents path id (shrinks.places placed)).1
  have names := (place_names next _ left represented path id placed).1
  have named := (Table.key_path_spells _ path).mpr (represented.sound.spelled path node isNode)
  obtain ⟨other, held, registered, longer⟩ :=
    (Table.covered_iff _ represented.sound path.text path named).mpr ⟨node, isNode⟩
  rw [← represents_registered next _ left represented] at registered
  rw [← represents_extends next _ left represented] at longer
  exact ⟨path.text, other, held, namesBefore, names, registered, longer⟩

theorem removed_withdrawn (shrinks : Shrinks left layout)
    (granted : (table.removeRoute key).result = .ok ()) (held : V)
    (registered : table.Registered key held) : linked.Withdrawn next key := by
  have config : next.config = linked.config := by
    rw [represented.config, represents.config, Table.remove_route_config]
  obtain ⟨_, taken⟩ := Table.remove_route_taken table represents.sound key held registered
  constructor
  · exact config
  · intro other own
    rw [represents_registered next _ left represented,
      represents_registered linked table layout represents,
      represents_extends linked table layout represents]
    exact taken other own
  · rw [← config]
    exact cell_needed linked next table layout left key represents represented shrinks
  · exact withdrawn_children linked next table _ layout left represents represented shrinks
      (Table.remove_route_children table represents.sound key granted)
  · exact withdrawn_slots linked next table _ layout left represents represented shrinks

end

theorem remove_route_exact (linked : LinkedTable V) (reachable : linked.Reachable) (key : String) :
    ∃ result next events, Linked.Ends (Linked.removeRoute key) linked result next events ∧
      linked.Withdrawal next key result := by
  obtain ⟨table, layout, represents⟩ := reachable_represents linked reachable
  have sound := represents.sound
  have registered := represents_registered linked table layout represents
  have config := represents.config
  obtain ⟨invalid, missing, granted⟩ := Table.remove_route_verdict table sound key
  rw [← config] at invalid missing
  simp only [Table.Key, ← registered] at missing granted
  rcases remove_route_cases linked table layout represents key with
    ⟨error, refused, ends⟩ | ⟨accepted, next, left, ends, represented, shrinks⟩
  · refine ⟨.error error, linked, [], ends, ?_⟩
    rw [refused] at invalid missing granted
    constructor
    · exact invalid
    · exact missing
    · exact granted
    · intro _ _
      rfl
    · intro accepted
      cases accepted
  · refine ⟨.ok (), next, _, ends, ?_⟩
    obtain ⟨held, isRoute⟩ := granted.mp accepted
    rw [registered] at isRoute
    have withdrawn := removed_withdrawn linked next table layout left key represents represented
      shrinks accepted held isRoute
    rw [accepted] at invalid missing granted
    constructor
    · exact invalid
    · exact missing
    · exact granted
    · intro error failed
      cases failed
    · intro _
      exact withdrawn

theorem remove_route_exact_nested :
    ∃ (linked next : LinkedTable Nat) (events : List Event), linked.Reachable ∧
      Linked.Ends (Linked.removeRoute "a.b.c") linked (.ok ()) next events ∧
      next.Registered "a.d" 2 ∧ (∀ held, ¬ next.Registered "a.b.c" held) ∧
      ∀ id, next.arena.contains id = true → ¬ next.Names id "a.b." := by
  obtain ⟨linked, layout, reachable, represents⟩ := run_represented {} Comparator.equality
    [.setRoute "a.b.c" 1, .setRoute "a.d" 2]
  have registered := represents_registered linked _ layout represents
  have rules : linked.config.keyRules = ({} : TableConfig).keyRules :=
    congrArg TableConfig.keyRules represents.config
  have nested : linked.Registered "a.b.c" 1 := by
    rw [registered]
    exact ⟨[.branch "a", .branch "b", .leaf "c"], by decide, by decide⟩
  have leaf : linked.Registered "a.d" 2 := by
    rw [registered]
    exact ⟨[.branch "a", .leaf "d"], by decide, by decide⟩
  have listed : ∀ route ∈ ((Table.withComparator {} Comparator.equality).serveAll
      [.setRoute "a.b.c" 1, .setRoute "a.d" 2]).routes,
      route.1.text = "a.b.c" ∨ route.1.text = "a.d" := by decide
  have only : ∀ other held, linked.Registered other held → other = "a.b.c" ∨ other = "a.d" := by
    intro other held isRoute
    rw [registered] at isRoute
    obtain ⟨path, member, rfl⟩ := isRoute
    exact listed (path, held) member
  have own : linked.config.keyRules.Extends "a.b.c" "a.b.c" := by
    rw [rules]
    exact Or.inl ⟨by decide, by decide, by decide⟩
  have apart : ∀ key, key = "a.b.c" ∨ key = "a.b." → ¬ linked.config.keyRules.Extends "a.d" key := by
    rw [rules]
    rintro key (rfl | rfl) (⟨_, _, front⟩ | ⟨literal, _⟩)
    · exact absurd front (by decide)
    · exact absurd literal (by decide)
    · exact absurd front (by decide)
    · exact absurd literal (by decide)
  obtain ⟨result, next, events, ends, withdrawal⟩ := remove_route_exact linked reachable "a.b.c"
  cases withdrawal.granted.mpr ⟨1, nested⟩
  have withdrawn := withdrawal.withdrawn rfl
  have gone : ∀ held, ¬ next.Registered "a.b.c" held :=
    fun held remains => ((withdrawn.routes "a.b.c" held).mp remains).2 own
  refine ⟨linked, next, events, reachable, ends,
    (withdrawn.routes "a.d" 2).mpr ⟨leaf, apart _ (Or.inl rfl)⟩, gone, ?_⟩
  intro id used names
  obtain ⟨text, other, held, _, namesToo, remains, longer⟩ := withdrawn.needed id used
  cases Linked.reads_unique _ next _ _ names.path namesToo.path
  rcases only other held ((withdrawn.routes other held).mp remains).1 with rfl | rfl
  · exact gone held remains
  · exact apart _ (Or.inr rfl) longer

end LinkedTable

end TopicRouting
