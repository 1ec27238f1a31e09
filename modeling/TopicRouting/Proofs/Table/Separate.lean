import TopicRouting.Proofs.Table.Acceptable
import TopicRouting.Proofs.Table.Reordering

set_option autoImplicit false

namespace TopicRouting.Table

universe u

variable {V : Type u}

def withTexts (routes : List (Path × V)) : List (String × V) :=
  routes.map fun route => (route.1.text, route.2)

structure Separate (config : TableConfig) (routes : List (Path × V)) : Prop where
  spelled : ∀ route ∈ routes, config.keyRules.Spells route.1
  once : (routes.map Prod.fst).Nodup
  apart : ∀ route ∈ routes, ∀ other ∈ routes, route.1 <+: other.1 → route.1 = other.1
  room : config.keyRules.rootCount ((withTexts routes).map Prod.fst) ≤ config.rootCapacity

structure Carries [DecidableEq V] (table : Table V) (routes : List (Path × V)) : Prop where
  plain : table.Plain
  routes : ∀ path value, (path, value) ∈ table.routes ↔ (path, value) ∈ routes

theorem acceptable_granted (routes : List (String × V)) (table : Table V) (keys : List String)
    (spans : table.Spans keys)
    (acceptable : table.config.Acceptable (keys ++ routes.map Prod.fst)) :
    table.Grants routes := by
  induction routes generalizing table keys with
  | nil => exact fun answer member => (nomatch member)
  | cons route rest ih =>
      have cut : keys ++ (route :: rest).map Prod.fst =
          (keys ++ [route.1]) ++ rest.map Prod.fst := by simp
      rw [cut] at acceptable
      have first := table.config.acceptable_take _ (keys ++ [route.1]).length acceptable
      rw [List.take_left, TableConfig.acceptable_more] at first
      have verdict := set_route_verdict table keys spans route.1 route.2
      rw [grants_cons]
      cases set : (table.setRoute route.1 route.2).result with
      | error error =>
          rw [set] at verdict
          exact absurd ⟨error, verdict⟩ first.2
      | ok done =>
          refine ⟨rfl, ih _ _ (set_route_spans table keys spans route.1 route.2 set) ?_⟩
          rwa [set_route_config]

theorem bare_unregistered (table : Table V) (spans : table.Spans []) (key : String) (own : V) :
    ¬ table.Registered key own := by
  rintro ⟨path, route, _⟩
  obtain ⟨here, found, _⟩ :=
    (Forest.routes_iff _ spans.lawful.sound.regular path own).mp route
  have nonempty := Forest.node_nonempty _ path here found
  obtain ⟨_, absent, _⟩ := (spans.nodes path nonempty).mp ⟨here, found⟩
  cases absent

section

variable (table : Table V) (routes : List (Path × V)) (separate : Separate table.config routes)
include separate

theorem separate_extends (route other : Path × V) (member : route ∈ routes)
    (memberToo : other ∈ routes) (extended : table.Extends other.1.text route.1.text) :
    route.1 = other.1 := by
  have named := (key_path_spells table route.1).mpr (separate.spelled route member)
  have namedToo := (key_path_spells table other.1).mpr (separate.spelled other memberToo)
  rw [extends_spelled table _ _ _ _ named namedToo] at extended
  exact separate.apart route member other memberToo extended

theorem separate_acceptable : table.config.Acceptable ((withTexts routes).map Prod.fst) := by
  constructor
  · intro key member
    obtain ⟨_, listed, rfl⟩ := List.mem_map.mp member
    obtain ⟨route, present, rfl⟩ := List.mem_map.mp listed
    obtain ⟨kind, valid, _⟩ := separate.spelled route present
    exact ⟨kind, valid⟩
  · rw [withTexts, List.map_map, List.pairwise_map]
    refine (List.pairwise_map.mp separate.once).imp_of_mem fun member memberToo different => ?_
    rintro ⟨_, extended⟩
    rw [extends_rules] at extended
    exact different (separate_extends table routes separate _ _ memberToo member extended).symm
  · exact separate.room

theorem separate_texts (route other : Path × V) (member : route ∈ routes)
    (memberToo : other ∈ routes) (same : route.1.text = other.1.text) : route.1 = other.1 :=
  KeyRules.spells_once _ _ _ (separate.spelled route member) (separate.spelled other memberToo) same

theorem text_listed (path : Path) (value : V) (spelled : table.config.keyRules.Spells path) :
    (path.text, value) ∈ withTexts routes ↔ (path, value) ∈ routes := by
  constructor
  · intro listed
    obtain ⟨route, member, same⟩ := List.mem_map.mp listed
    obtain ⟨text, rfl⟩ := Prod.ext_iff.mp same
    rwa [← KeyRules.spells_once _ _ _ (separate.spelled route member) spelled text]
  · intro member
    exact List.mem_map.mpr ⟨(path, value), member, rfl⟩

theorem separate_settled [DecidableEq V] (plain : table.Plain) (spans : table.Spans [])
    (key : String) (own : V) :
    (table.withRoutes (withTexts routes)).Registered key own ↔ (key, own) ∈ withTexts routes := by
  have grants := acceptable_granted (withTexts routes) table [] spans
    (separate_acceptable table routes separate)
  have literals : table.LiteralsOnce (withTexts routes) := by
    rw [LiteralsOnce, withTexts, List.pairwise_map]
    refine (List.pairwise_map.mp separate.once).imp_of_mem fun member memberToo different same => ?_
    exact absurd (separate_texts table routes separate _ _ member memberToo same) different
  rw [granted_settled (withTexts routes) table plain grants literals key own]
  constructor
  · rintro ⟨listed | ⟨old, _⟩, _⟩
    · exact listed
    · exact absurd old (bare_unregistered table spans key own)
  · intro listed
    refine ⟨Or.inl listed, fun other listedToo extended different => ?_⟩
    obtain ⟨route, member, same⟩ := List.mem_map.mp listed
    obtain ⟨_, memberToo, rfl⟩ := List.mem_map.mp listedToo
    cases same
    have paths := separate_extends table routes separate route _ member memberToo extended
    exact absurd (congrArg Path.text paths) different

theorem separate_carried [DecidableEq V] (plain : table.Plain) (spans : table.Spans []) :
    (table.withRoutes (withTexts routes)).Carries routes := by
  have filled := with_routes_plain (withTexts routes) table plain
  have config : (table.withRoutes (withTexts routes)).config = table.config :=
    set_routes_config (withTexts routes) table
  have settled := separate_settled table routes separate plain spans
  have listed := text_listed table routes separate
  have sound := filled.lawful.sound
  refine ⟨filled, fun path value => ⟨fun route => ?_, fun member => ?_⟩⟩
  · have spelled := key_path_spelled _ _ _ (route_key_path _ sound path value route)
    rw [config] at spelled
    exact (listed path value spelled).mp ((settled path.text value).mp ⟨path, route, rfl⟩)
  · have spelled := separate.spelled (path, value) member
    have registered := (settled path.text value).mpr ((listed path value spelled).mpr member)
    obtain ⟨whole, named, route⟩ := (registered_iff _ sound _ value).mp registered
    rw [← config, ← key_path_spells] at spelled
    cases named.symm.trans spelled
    exact route

end

section

variable [DecidableEq V] (table : Table V) (routes : List (Path × V))
  (carries : table.Carries routes)
include carries

theorem carried_node_iff (path : Path) (nonempty : path ≠ []) :
    (∃ here, table.forest.node? path = some here) ↔ ∃ route ∈ routes, path <+: route.1 := by
  rw [Forest.node_of_route _ carries.plain.lawful.sound.regular path nonempty]
  constructor
  · rintro ⟨rest, value, member⟩
    exact ⟨_, (carries.routes _ value).mp member, List.prefix_append path rest⟩
  · rintro ⟨⟨_, value⟩, member, rest, rfl⟩
    exact ⟨rest, value, (carries.routes _ value).mpr member⟩

theorem carried_value_iff (path : Path) (nonempty : path ≠ []) (value : V) :
    table.forest.valueAt? path = some value ↔
      (∃ route ∈ routes, path <+: route.1) ∧
        ∀ route ∈ routes, path <+: route.1 → route.2 = value := by
  have lawful := carries.plain.lawful
  have agreed := Forest.value_agreed table.eqv lawful.lawful table.forest lawful.sound.regular
    lawful.collapsed path nonempty value
  simp only [carries.plain.equality, Comparator.equality, decide_eq_true_eq, exists_eq_right']
    at agreed
  rw [agreed, ← Forest.node_of_route _ lawful.sound.regular path nonempty,
    carried_node_iff table routes carries path nonempty]
  refine and_congr_right fun _ => ⟨?_, ?_⟩
  · rintro all ⟨_, held⟩ member ⟨rest, rfl⟩
    exact (all rest held ((carries.routes _ held).mpr member)).symm
  · intro all rest held member
    exact (all _ ((carries.routes _ held).mp member) (List.prefix_append path rest)).symm

theorem carried_nodes (paths : List Path) (once : paths.Nodup)
    (listed : ∀ path, path ∈ paths ↔ path ≠ [] ∧ ∃ route ∈ routes, path <+: route.1) :
    table.nodeCount = paths.length := by
  have regular := carries.plain.lawful.sound.regular
  have same : (table.forest.nodes.map Prod.fst).Perm paths := by
    rw [List.perm_ext_iff_of_nodup (Forest.nodes_distinct _ regular) once]
    intro path
    rw [listed, List.mem_map]
    constructor
    · rintro ⟨⟨front, here⟩, member, rfl⟩
      have found := (Forest.nodes_iff _ regular front here).mp member
      have nonempty := Forest.node_nonempty _ front here found
      exact ⟨nonempty, (carried_node_iff table routes carries front nonempty).mp ⟨here, found⟩⟩
    · rintro ⟨nonempty, route⟩
      obtain ⟨here, found⟩ := (carried_node_iff table routes carries path nonempty).mpr route
      exact ⟨(path, here), (Forest.nodes_iff _ regular path here).mpr found, rfl⟩
  rw [nodeCount, ← Forest.nodes_size, ← same.length_eq, List.length_map]

theorem carried_roots (roots : List Segment) (once : roots.Nodup)
    (listed : ∀ root, root ∈ roots ↔ ∃ route ∈ routes, [root] <+: route.1) :
    table.roots.count = roots.length := by
  have same : table.forest.segments.Perm roots := by
    rw [List.perm_ext_iff_of_nodup carries.plain.lawful.sound.regular.distinct once]
    intro root
    rw [listed, root_listed_iff, carried_node_iff table routes carries [root] (by simp)]
  rw [← same.length_eq, forest, Roots.forest_segments, List.length_map, Roots.count]

theorem carried_entries (tops : List (Path × V)) (once : (tops.map Prod.fst).Nodup)
    (topmost : ∀ top ∈ tops, Forest.Topmost table.forest top.1 top.2)
    (covered : ∀ route ∈ routes, ∃ top ∈ tops, top.1 <+: route.1) :
    table.refreshCache.state.cache.entries.length = tops.length := by
  have regular := carries.plain.lawful.sound.regular
  have distinct : (table.forest.topmost.map Prod.fst).Nodup :=
    (Forest.topmost_paths table.forest).nodup (Forest.nodes_distinct _ regular)
  have same : table.forest.topmost.Perm tops := by
    rw [List.perm_ext_iff_of_nodup (List.Nodup.of_map _ distinct) (List.Nodup.of_map _ once)]
    rintro ⟨path, value⟩
    rw [Forest.topmost_iff _ regular]
    refine ⟨fun top => ?_, topmost (path, value)⟩
    have nonempty := Forest.topmost_nonempty _ path value top
    obtain ⟨⟨route, member, below, whole⟩, _⟩ :=
      (carried_value_iff table routes carries path nonempty value).mp top.valued
    obtain ⟨other, listed, later, wholeToo⟩ := covered route member
    obtain ⟨paths, values⟩ := Forest.topmost_unique _ path other.1 below later value other.2 top
      (topmost other listed) (whole.trans wholeToo.symm)
    rwa [paths, values]
  have entries : table.refreshCache.state.cache = .ofForest table.forest := rfl
  rw [entries, QuickCache.ofForest, QuickMatch.descending, List.length_mergeSort,
    Forest.quickMatches, List.length_map, same.length_eq]

theorem carried_lookup (key : String) (path above below : Path) (value : V)
    (named : table.keyPath key = .ok path) (whole : above ++ below = path)
    (top : Forest.Topmost table.forest above value) :
    table.lookupEarlyExit key = .ok value ∧ (table.lookupQuick key).result = .ok value := by
  have found := (Forest.first_value_iff table.forest path value).mpr ⟨above, below, whole, top⟩
  rw [lookup_quick_early table carries.plain.lawful.sound, early_answer table key path named, found]
  exact ⟨rfl, rfl⟩

end

end TopicRouting.Table
