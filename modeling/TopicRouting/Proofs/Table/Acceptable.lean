import Mathlib.Data.Finset.Card
import TopicRouting.Proofs.Table.Reversal

/-!
Which keys can be registered one after the other. They have to be keys, no topic may be the start of
an earlier one, and their roots have to fit into the directory. The values are of no account, since
registering keeps all nodes: a route that is withdrawn has the node that withdrew it below, and no
root is freed.
-/

set_option autoImplicit false

namespace TopicRouting

universe u

/-! ## Lists of keys -/

namespace KeyRules

def root? (rules : KeyRules) (key : String) : Option Segment :=
  match rules.classify key with
  | .ok kind => (kind.path key).head?
  | .error _ => none

def rootCount (rules : KeyRules) (keys : List String) : Nat :=
  (keys.filterMap rules.root?).toFinset.card

def Shadowed (rules : KeyRules) (earlier : List String) (key : String) : Prop :=
  rules.classify key = .ok .topic ∧ ∃ longer ∈ earlier, rules.Extends longer key

section

variable (rules : KeyRules)

theorem root_count_more (keys : List String) (key : String) :
    rules.rootCount keys ≤ rules.rootCount (keys ++ [key]) := by
  rw [rootCount, rootCount, List.filterMap_append, List.toFinset_append]
  exact Finset.card_le_card Finset.subset_union_left

theorem root_count_again (keys : List String) (key : String) (root : Segment)
    (isRoot : rules.root? key = some root) (listed : root ∈ keys.filterMap rules.root?) :
    rules.rootCount (keys ++ [key]) = rules.rootCount keys := by
  have known : root ∈ (keys.filterMap rules.root?).toFinset := List.mem_toFinset.mpr listed
  rw [rootCount, rootCount, List.filterMap_append, List.toFinset_append]
  simp [isRoot, known]

theorem root_count_new (keys : List String) (key : String) (root : Segment)
    (isRoot : rules.root? key = some root) (fresh : root ∉ keys.filterMap rules.root?) :
    rules.rootCount (keys ++ [key]) = rules.rootCount keys + 1 := by
  have unknown : root ∉ (keys.filterMap rules.root?).toFinset :=
    fun known => fresh (List.mem_toFinset.mp known)
  rw [rootCount, rootCount, List.filterMap_append, List.toFinset_append]
  simp only [List.filterMap_cons, isRoot, List.filterMap_nil, List.toFinset_cons, List.toFinset_nil]
  rw [Finset.union_comm]
  exact Finset.card_insert_of_notMem unknown

theorem root_count_invalid (keys : List String) (key : String) (fault : KeyFault)
    (refused : rules.classify key = .error fault) :
    rules.rootCount (keys ++ [key]) = rules.rootCount keys := by
  simp [rootCount, root?, refused]

theorem root_count_shadowed (keys : List String) (key : String)
    (shadowed : rules.Shadowed keys key) :
    rules.rootCount (keys ++ [key]) = rules.rootCount keys := by
  obtain ⟨isTopic, longer, member, extended⟩ := shadowed
  rcases extended with ⟨isLonger, _, more, whole⟩ | ⟨isLiteral, rfl⟩
  · obtain ⟨segment, rest, cut⟩ := List.exists_cons_of_ne_nil
      (spells_nonempty rules _ (spells_key_path rules key .topic isTopic))
    rw [KeyKind.path] at cut
    apply root_count_again rules keys key segment
    · simp [root?, isTopic, KeyKind.path, cut]
    · exact List.mem_filterMap.mpr ⟨longer, member, by
        simp [root?, isLonger, KeyKind.path, ← whole, cut]⟩
  · cases isTopic.symm.trans isLiteral

end

end KeyRules

namespace TableConfig

structure Acceptable (config : TableConfig) (keys : List String) : Prop where
  valid : ∀ key ∈ keys, ∃ kind, config.keyRules.classify key = .ok kind
  unshadowed : keys.Pairwise fun longer key =>
    ¬ (config.keyRules.classify key = .ok .topic ∧ config.keyRules.Extends longer key)
  roots : config.keyRules.rootCount keys ≤ config.rootCapacity

inductive Offence (config : TableConfig) (earlier : List String) (key : String) :
    RouteError → Prop where
  | invalid (fault : KeyFault) (refused : config.keyRules.classify key = .error fault) :
      Offence config earlier key (.invalidKey key fault)
  | duplicate (shadowed : config.keyRules.Shadowed earlier key) :
      Offence config earlier key (.duplicateRoute key)
  | conflicting (shadowed : config.keyRules.Shadowed earlier key) :
      Offence config earlier key (.conflictingRoute key)
  | crowded (beyond : config.rootCapacity < config.keyRules.rootCount (earlier ++ [key])) :
      Offence config earlier key (.capacityExceeded config.rootCapacity)

structure Blames (config : TableConfig) (earlier : List String) (key : String)
    (error : RouteError) : Prop where
  invalid : ∀ fault, config.keyRules.classify key = .error fault → error = .invalidKey key fault
  shadowed : config.keyRules.Shadowed earlier key →
    error = .duplicateRoute key ∨ error = .conflictingRoute key
  crowded : config.rootCapacity < config.keyRules.rootCount (earlier ++ [key]) →
    error = .capacityExceeded config.rootCapacity

structure SpoiledAt (config : TableConfig) (keys : List String) (index : Nat) : Prop where
  front : config.Acceptable (keys.take index)
  beyond : ¬ config.Acceptable (keys.take (index + 1))

section

variable (config : TableConfig)

-- While the roots of the earlier keys fit, a key offends in one way only.
theorem offence_blames (keys : List String) (key : String) (error : RouteError)
    (fit : config.keyRules.rootCount keys ≤ config.rootCapacity)
    (offence : config.Offence keys key error) : config.Blames keys key error := by
  have roomInvalid : ∀ fault, config.keyRules.classify key = .error fault →
      ¬ config.rootCapacity < config.keyRules.rootCount (keys ++ [key]) := by
    intro fault refused
    rw [KeyRules.root_count_invalid _ keys key fault refused]
    exact Nat.not_lt_of_le fit
  have roomShadowed : config.keyRules.Shadowed keys key →
      ¬ config.rootCapacity < config.keyRules.rootCount (keys ++ [key]) := by
    intro shadowed
    rw [KeyRules.root_count_shadowed _ keys key shadowed]
    exact Nat.not_lt_of_le fit
  have validShadowed : ∀ fault, config.keyRules.classify key = .error fault →
      ¬ config.keyRules.Shadowed keys key := by
    intro fault refused shadowed
    cases refused.symm.trans shadowed.1
  have repeated : config.keyRules.Shadowed keys key →
      error = .duplicateRoute key ∨ error = .conflictingRoute key →
      config.Blames keys key error := by
    intro shadowed either
    exact {
      invalid := fun fault refused => absurd shadowed (validShadowed fault refused)
      shadowed := fun _ => either
      crowded := fun beyond => absurd beyond (roomShadowed shadowed) }
  cases offence with
  | invalid fault refused =>
      exact {
        invalid := fun other same => by cases refused.symm.trans same; rfl
        shadowed := fun shadowed => absurd shadowed (validShadowed fault refused)
        crowded := fun beyond => absurd beyond (roomInvalid fault refused) }
  | duplicate shadowed => exact repeated shadowed (.inl rfl)
  | conflicting shadowed => exact repeated shadowed (.inr rfl)
  | crowded beyond =>
      exact {
        invalid := fun fault refused => absurd beyond (roomInvalid fault refused)
        shadowed := fun shadowed => absurd beyond (roomShadowed shadowed)
        crowded := fun _ => rfl }

theorem inoffensive_key (keys : List String) (key : String) (kind : KeyKind)
    (valid : config.keyRules.classify key = .ok kind) (clear : ¬ config.keyRules.Shadowed keys key)
    (room : ¬ config.rootCapacity < config.keyRules.rootCount (keys ++ [key])) :
    ¬ ∃ error, config.Offence keys key error := by
  intro offends
  obtain ⟨error, offence⟩ := offends
  cases offence with
  | invalid fault refused => cases valid.symm.trans refused
  | duplicate shadowed => exact clear shadowed
  | conflicting shadowed => exact clear shadowed
  | crowded beyond => exact room beyond

theorem acceptable_more (keys : List String) (key : String) :
    config.Acceptable (keys ++ [key]) ↔
      config.Acceptable keys ∧ ¬ ∃ error, config.Offence keys key error := by
  constructor
  · intro whole
    obtain ⟨front, _, across⟩ := List.pairwise_append.mp whole.unshadowed
    refine ⟨⟨fun other member => whole.valid other (List.mem_append_left _ member), front,
      Nat.le_trans (KeyRules.root_count_more _ keys key) whole.roots⟩, ?_⟩
    obtain ⟨kind, valid⟩ := whole.valid key (by simp)
    apply inoffensive_key config keys key kind valid
    · intro shadowed
      obtain ⟨isTopic, longer, member, extended⟩ := shadowed
      exact across longer member key List.mem_cons_self ⟨isTopic, extended⟩
    · exact Nat.not_lt_of_le whole.roots
  · intro both
    obtain ⟨front, inoffensive⟩ := both
    constructor
    · intro other member
      rcases List.mem_append.mp member with earlier | last
      · exact front.valid other earlier
      · rw [List.mem_singleton.mp last]
        cases classified : config.keyRules.classify key with
        | ok kind => exact ⟨kind, rfl⟩
        | error fault => exact absurd ⟨_, .invalid fault classified⟩ inoffensive
    · rw [List.pairwise_append]
      refine ⟨front.unshadowed, List.pairwise_singleton _ _, ?_⟩
      intro longer member last isLast shadowed
      rw [List.mem_singleton.mp isLast] at shadowed
      exact inoffensive ⟨_, .duplicate ⟨shadowed.1, longer, member, shadowed.2⟩⟩
    · by_cases beyond : config.rootCapacity < config.keyRules.rootCount (keys ++ [key])
      · exact absurd ⟨_, .crowded beyond⟩ inoffensive
      · exact Nat.le_of_not_lt beyond

theorem acceptable_take (keys : List String) (count : Nat) (acceptable : config.Acceptable keys) :
    config.Acceptable (keys.take count) := by
  induction keys using List.reverseRecOn with
  | nil => simpa using acceptable
  | append_singleton keys key ih =>
      have front := ((acceptable_more config keys key).mp acceptable).1
      by_cases bound : count ≤ keys.length
      · rw [List.take_append_of_le_length bound]
        exact ih front
      · rw [List.take_of_length_le (by simp; omega)]
        exact acceptable

theorem offence_spoiled (keys : List String) (index : Nat) (key : String) (error : RouteError)
    (isKey : keys[index]? = some key) (front : config.Acceptable (keys.take index))
    (offence : config.Offence (keys.take index) key error) :
    config.SpoiledAt keys index := by
  refine ⟨front, ?_⟩
  rw [List.take_add_one, isKey, Option.toList_some, acceptable_more]
  intro both
  exact both.2 ⟨error, offence⟩

theorem spoiled_whole (keys : List String) (index : Nat) (spoiled : config.SpoiledAt keys index) :
    ¬ config.Acceptable keys :=
  fun whole => spoiled.beyond (acceptable_take config keys (index + 1) whole)

theorem spoiled_order (keys : List String) (index other : Nat)
    (spoiled : config.SpoiledAt keys index) (front : config.Acceptable (keys.take other)) :
    other ≤ index := by
  by_cases before : index < other
  · have shorter := acceptable_take config _ (index + 1) front
    rw [List.take_take, Nat.min_eq_left before] at shorter
    exact absurd shorter spoiled.beyond
  · exact Nat.le_of_not_lt before

theorem spoiled_once (keys : List String) (index other : Nat)
    (spoiled : config.SpoiledAt keys index) (again : config.SpoiledAt keys other) :
    index = other :=
  Nat.le_antisymm (spoiled_order config keys other index again spoiled.front)
    (spoiled_order config keys index other spoiled again.front)

end

end TableConfig

/-! ## Tables -/

namespace Table

variable {V : Type u}

structure Spans (table : Table V) (keys : List String) : Prop where
  lawful : table.Lawful
  fits : table.Fits
  nodes : ∀ path, path ≠ [] → ((∃ here, table.forest.node? path = some here) ↔
    ∃ key ∈ keys, ∃ whole, table.keyPath key = .ok whole ∧ path <+: whole)

def Verdict (table : Table V) (keys : List String) (key : String) {α : Type} :
    Except RouteError α → Prop
  | .error error => table.config.Offence keys key error
  | .ok _ => ¬ ∃ error, table.config.Offence keys key error

theorem empty_spans (table : Table V) (reachable : Reachable (fun _ => True) table)
    (lawful : table.eqv.IsEquivalence) (empty : table.isEmpty = true) : table.Spans [] := by
  refine ⟨lawful_now table reachable lawful, reachable_fits _ table reachable, ?_⟩
  intro path _
  have treeless : table.roots.trees = [] :=
    List.eq_nil_of_length_eq_zero (by simpa [isEmpty, Roots.count] using empty)
  simp [forest, Roots.forest, treeless]

theorem root_iff (table : Table V) (key : String) (root : Segment) :
    table.config.keyRules.root? key = some root ↔
      ∃ whole, table.keyPath key = .ok whole ∧ [root] <+: whole := by
  have single : ∀ whole : Path, [root] <+: whole ↔ whole.head? = some root := by
    intro whole
    cases whole <;> simp [List.prefix_cons_iff, eq_comm]
  cases classified : table.config.keyRules.classify key with
  | error fault => simp [KeyRules.root?, keyPath, keyKind, classified]
  | ok kind => simp [KeyRules.root?, keyPath, keyKind, classified, single]

section

variable (table : Table V) (keys : List String) (spans : table.Spans keys)
include spans

theorem spanned_root_iff (root : Segment) :
    root ∈ table.forest.segments ↔ root ∈ keys.filterMap table.config.keyRules.root? := by
  rw [root_listed_iff, spans.nodes [root] (by simp), List.mem_filterMap]
  simp only [root_iff]

theorem spanned_count : table.roots.count = table.config.keyRules.rootCount keys := by
  have once := spans.lawful.sound.regular.distinct
  have same : table.forest.segments.toFinset =
      (keys.filterMap table.config.keyRules.root?).toFinset := by
    ext root
    rw [List.mem_toFinset, List.mem_toFinset, spanned_root_iff table keys spans]
  rw [KeyRules.rootCount, ← same, List.toFinset_card_of_nodup once, forest, Roots.forest_segments,
    List.length_map, Roots.count]

theorem spanned_node_iff (key : String) (path : Path) (named : table.keyPath key = .ok path) :
    (∃ here, table.forest.node? path = some here) ↔
      ∃ longer ∈ keys, table.config.keyRules.Extends longer key := by
  have nonempty := KeyRules.spells_nonempty _ path (key_path_spelled table key path named)
  rw [spans.nodes path nonempty]
  constructor
  · intro start
    obtain ⟨longer, member, whole, namedLonger, front⟩ := start
    rw [← extends_spelled table key longer path whole named namedLonger, ← extends_rules] at front
    exact ⟨longer, member, front⟩
  · intro extended
    obtain ⟨longer, member, longerKey⟩ := extended
    rw [extends_rules, extends_iff] at longerKey
    obtain ⟨front, rest, namedFront, namedLonger⟩ := longerKey
    cases named.symm.trans namedFront
    exact ⟨longer, member, path ++ rest, namedLonger, List.prefix_append path rest⟩

theorem spanned_crowded_iff (key : String) (segment : Segment) (rest : Path)
    (named : table.keyPath key = .ok (segment :: rest)) :
    table.config.rootCapacity < table.config.keyRules.rootCount (keys ++ [key]) ↔
      ((table.roots.find? segment).isNone && table.roots.isFull) = true := by
  have isRoot : table.config.keyRules.root? key = some segment :=
    (root_iff table key segment).mpr ⟨_, named, by simp⟩
  have count := spanned_count table keys spans
  have bounded := fits_count table spans.fits
  have rootless : (table.roots.find? segment).isNone = true ↔ segment ∉ table.forest.segments := by
    rw [← Forest.child_none_iff, forest, Roots.forest_child, Option.isNone_iff_eq_none,
      Option.map_eq_none_iff]
  rw [Bool.and_eq_true, rootless, spanned_root_iff table keys spans, Roots.isFull,
    spans.fits.capacity, decide_eq_true_iff]
  by_cases listed : segment ∈ keys.filterMap table.config.keyRules.root?
  · rw [KeyRules.root_count_again _ keys key segment isRoot listed]
    constructor
    · intro beyond
      omega
    · intro both
      exact absurd listed both.1
  · rw [KeyRules.root_count_new _ keys key segment isRoot listed]
    constructor
    · intro beyond
      exact ⟨listed, by omega⟩
    · intro both
      omega

section

variable (key : String) (value : V) (kind : KeyKind)
  (classified : table.config.keyRules.classify key = .ok kind) (segment : Segment) (rest : Path)
  (cut : kind.path key = segment :: rest)
include classified cut

theorem existing_verdict (here : Node V)
    (found : table.forest.node? (segment :: rest) = some here) :
    table.Verdict keys key (table.accept key value) := by
  have isKind := (key_kind_iff table key kind).mpr classified
  have named := (key_path_iff table key _).mpr ⟨kind, classified, rfl⟩
  have crowded := spanned_crowded_iff table keys spans key segment rest (cut ▸ named)
  have room : ¬ table.config.rootCapacity < table.config.keyRules.rootCount (keys ++ [key]) := by
    rw [crowded, Bool.and_eq_true, Option.isNone_iff_eq_none]
    intro both
    rw [forest, Roots.forest_rootless _ segment rest both.1] at found
    cases found
  cases kind with
  | literal =>
      have accepted : table.accept key value = .ok .literal := by
        simp [accept, isKind, cut, found]
      rw [accepted]
      apply TableConfig.inoffensive_key _ keys key .literal classified ?_ room
      intro shadowed
      cases classified.symm.trans shadowed.1
  | topic =>
      rw [← cut] at found
      have extended := (spanned_node_iff table keys spans key _ named).mp ⟨here, found⟩
      have covered := (covered_iff table spans.lawful.sound key _ named).mpr ⟨here, found⟩
      rcases topic_cases table spans.lawful spans.fits key value isKind with
        ⟨_, _, refused⟩ | ⟨_, _, refused⟩ | ⟨uncovered, _⟩ | ⟨uncovered, _⟩
      · rw [refused]
        exact .duplicate ⟨classified, extended⟩
      · rw [refused]
        exact .conflicting ⟨classified, extended⟩
      · exact absurd covered uncovered
      · exact absurd covered uncovered

theorem missing_verdict (missing : table.forest.node? (segment :: rest) = none) :
    table.Verdict keys key (table.accept key value) := by
  have isKind := (key_kind_iff table key kind).mpr classified
  have named := (key_path_iff table key _).mpr ⟨kind, classified, rfl⟩
  have crowded := spanned_crowded_iff table keys spans key segment rest (cut ▸ named)
  have decided := accept_missing table spans.fits key value kind isKind segment rest cut missing
  by_cases beyond : table.config.rootCapacity < table.config.keyRules.rootCount (keys ++ [key])
  · rw [decided, if_pos (crowded.mp beyond)]
    exact .crowded beyond
  · rw [decided, if_neg fun full => beyond (crowded.mpr full)]
    apply TableConfig.inoffensive_key _ keys key kind classified ?_ beyond
    intro shadowed
    obtain ⟨here, found⟩ := (spanned_node_iff table keys spans key _ named).mpr shadowed.2
    rw [cut, missing] at found
    cases found

end

theorem accept_verdict (key : String) (value : V) :
    table.Verdict keys key (table.accept key value) := by
  cases classified : table.config.keyRules.classify key with
  | error fault =>
      rw [accept, keyKind, classified]
      exact .invalid fault classified
  | ok kind =>
      obtain ⟨segment, rest, cut⟩ := List.exists_cons_of_ne_nil
        (KeyRules.spells_nonempty _ _ (KeyRules.spells_key_path _ key kind classified))
      cases found : table.forest.node? (segment :: rest) with
      | some here =>
          exact existing_verdict table keys spans key value kind classified segment rest cut here
            found
      | none =>
          exact missing_verdict table keys spans key value kind classified segment rest cut found

theorem registered_node_iff (segment : Segment) (rest : Path) (value : V) (path : Path)
    (nonempty : path ≠ []) :
    (∃ here, (table.register (segment :: rest) value).state.forest.node? path = some here) ↔
      (∃ here, table.forest.node? path = some here) ∨ path <+: segment :: rest := by
  have rearranged := table.roots.register_rearranged table.eqv value segment rest
    spans.lawful.sound.regular.distinct
  have sameNode := Forest.rearranged_node _ _ rearranged path
  rw [← Option.isSome_iff_exists, ← Option.isSome_iff_exists, register, forest, sameNode,
    Forest.register_nodes, and_iff_right nonempty, ← forest]

theorem accepted_spans (key : String) (value : V) (kind : KeyKind)
    (accepted : table.accept key value = .ok kind) :
    (table.register (kind.path key) value).state.Spans (keys ++ [key]) := by
  have classified := accept_kind table key value kind accepted
  have named := (key_path_iff table key _).mpr ⟨kind, classified, rfl⟩
  have sameNames : ∀ text, (table.register (kind.path key) value).state.keyPath text =
      table.keyPath text :=
    key_path_config table _ (register_config table _ value)
  refine ⟨register_lawful table key value kind spans.lawful accepted,
    register_fits table key value kind spans.fits accepted, ?_⟩
  intro path nonempty
  obtain ⟨segment, rest, cut⟩ := List.exists_cons_of_ne_nil
    (KeyRules.spells_nonempty _ _ (KeyRules.spells_key_path _ key kind classified))
  have added := registered_node_iff table keys spans segment rest value path nonempty
  rw [cut] at named sameNames ⊢
  rw [added, spans.nodes path nonempty]
  simp only [sameNames, List.mem_append, List.mem_singleton, or_and_right, exists_or,
    exists_eq_left, named, Except.ok.injEq, exists_eq_left']

theorem set_route_verdict (key : String) (value : V) :
    table.Verdict keys key (table.setRoute key value).result := by
  have verdict := accept_verdict table keys spans key value
  cases accepted : table.accept key value with
  | error error =>
      rw [set_route_error table key value error accepted]
      rwa [accepted] at verdict
  | ok kind =>
      rw [(set_route_ok table key value kind accepted).1]
      rwa [accepted] at verdict

theorem set_route_spans (key : String) (value : V)
    (granted : (table.setRoute key value).result = .ok ()) :
    (table.setRoute key value).state.Spans (keys ++ [key]) := by
  obtain ⟨kind, accepted⟩ := set_route_granted table key value granted
  rw [(set_route_ok table key value kind accepted).2]
  exact accepted_spans table keys spans key value kind accepted

end

theorem set_route_unchanged (table : Table V) (key : String) (value : V) (error : RouteError)
    (refused : (table.setRoute key value).result = .error error) :
    (table.setRoute key value).state = table := by
  cases accepted : table.accept key value with
  | error _ => rw [setRoute, accepted]
  | ok kind => cases (set_route_ok table key value kind accepted).1.symm.trans refused

end Table

end TopicRouting
