import TopicRouting.Proofs.Forest.Detached
import TopicRouting.Proofs.Forest.Size
import TopicRouting.Proofs.Table.Resolution

set_option autoImplicit false

namespace TopicRouting.Table

universe u

variable {V : Type u}

/-! ## One node -/

section

variable (table : Table V) (sound : table.Sound) (path : Path) (here : Node V)
  (found : table.forest.node? path = some here)
include found

theorem detach_found :
    ∃ segment rest, path = segment :: rest ∧
      (table.detach path).result =
        (if here.target.isRoute then 1 else 0) + here.children.routeCount ∧
      (table.detach path).state =
        { table with
          roots := (table.roots.detach table.eqv segment rest).state
          cache := table.cache.invalidate } := by
  cases path with
  | nil => cases found
  | cons segment rest =>
      refine ⟨segment, rest, rfl, ?_, ?_⟩
      · simp only [detach, found]
      · simp only [detach, found]

include sound

theorem detach_taken : (table.detach path).result = (table.forest.inside path).length := by
  obtain ⟨_, _, _, taken, _⟩ := detach_found table path here found
  rw [taken, Forest.inside_count table.forest sound.regular path here found]

theorem detach_left : (table.detach path).state.routes.Perm (table.forest.outside path) := by
  obtain ⟨segment, rest, rfl, _, left⟩ := detach_found table path here found
  have rearranged := table.roots.detach_rearranged table.eqv segment rest sound.regular.distinct
  have regular := Forest.detach_regular table.eqv table.forest segment rest sound.regular
  rw [left]
  exact (Forest.rearranged_routes _ _ rearranged regular).trans
    (Forest.detach_routes table.eqv table.forest segment rest sound.regular)

theorem detach_shrinks : (table.detach path).state.nodeCount < table.nodeCount := by
  obtain ⟨segment, rest, rfl, _, left⟩ := detach_found table path here found
  have rearranged := table.roots.detach_rearranged table.eqv segment rest sound.regular.distinct
  have regular := Forest.detach_regular table.eqv table.forest segment rest sound.regular
  have fewer := Forest.detach_size table.eqv table.forest segment rest here found
  rw [left]
  exact Nat.lt_of_le_of_lt (Nat.le_of_eq (Forest.rearranged_size _ _ rearranged regular)) fewer

end

theorem detach_config (table : Table V) (path : Path) :
    (table.detach path).state.config = table.config := by
  rcases detach_state table path with same | ⟨segment, rest, changed⟩
  · rw [same]
  · rw [changed]

/-! ## Passes end -/

theorem still_matches_iff (table : Table V) (value : V) (path : Path) :
    table.stillMatches value path = true ↔
      ∃ here held, table.forest.node? path = some here ∧ here.target.value? = some held ∧
        table.eqv held value = true := by
  simp only [stillMatches, Target.agreesWith, Option.any_eq_true]
  constructor
  · rintro ⟨here, found, held, valued, same⟩
    exact ⟨here, held, found, valued, same⟩
  · rintro ⟨here, held, found, valued, same⟩
    exact ⟨here, found, held, valued, same⟩

theorem matching_iff (table : Table V) (regular : table.forest.Regular) (value : V) (path : Path) :
    path ∈ table.matching value ↔
      ∃ held, table.forest.Topmost path held ∧ table.eqv held value = true := by
  simp [matching, Forest.topmost_iff _ regular]

theorem matching_matches (table : Table V) (regular : table.forest.Regular) (value : V)
    (path : Path) (member : path ∈ table.matching value) :
    table.stillMatches value path = true := by
  obtain ⟨held, top, same⟩ := (matching_iff table regular value path).mp member
  obtain ⟨here, found, valued⟩ := Option.bind_eq_some_iff.mp top.valued
  exact (still_matches_iff table value path).mpr ⟨here, held, found, valued, same⟩

theorem detach_matching_shrinks (value : V) (table : Table V) (sound : table.Sound)
    (paths : List Path) :
    (detachMatching value table paths).state.nodeCount ≤ table.nodeCount ∧
      ∀ path rest, paths = path :: rest → table.stillMatches value path = true →
        (detachMatching value table paths).state.nodeCount < table.nodeCount := by
  induction paths generalizing table with
  | nil => exact ⟨Nat.le_refl _, fun _ _ empty => nomatch empty⟩
  | cons path rest ih =>
      rw [detachMatching]
      by_cases still : table.stillMatches value path = true
      · obtain ⟨here, _, found, _⟩ := (still_matches_iff table value path).mp still
        have fewer := detach_shrinks table sound path here found
        have later := (ih _ (detach_sound table path sound)).1
        rw [if_pos still]
        exact ⟨Nat.le_trans later (Nat.le_of_lt fewer),
          fun _ _ _ _ => Nat.lt_of_le_of_lt later fewer⟩
      · rw [if_neg still]
        refine ⟨(ih table sound).1, ?_⟩
        intro first others same matches_
        cases same
        exact absurd matches_ still

theorem matching_empty (table : Table V) (value : V) (empty : table.nodeCount = 0) :
    table.matching value = [] := by
  rw [matching, (Forest.size_zero table.forest).mp empty]
  rfl

theorem removal_passes_end (value : V) (limit : Nat) (table : Table V) (sound : table.Sound)
    (enough : table.nodeCount ≤ limit) :
    (removalPasses value limit table).state.matching value = [] := by
  induction limit generalizing table with
  | zero => exact matching_empty table value (Nat.le_zero.mp enough)
  | succ limit ih =>
      rw [removalPasses]
      cases listed : table.matching value with
      | nil => exact listed
      | cons first rest =>
          have matches_ : table.stillMatches value first = true := by
            apply matching_matches table sound.regular
            rw [listed]
            exact List.mem_cons_self
          have fewer :=
            (detach_matching_shrinks value table sound (first :: rest)).2 first rest rfl matches_
          have later := detach_matching_keeps Sound value
            (fun table path sound _ => detach_sound table path sound) table (first :: rest) sound
          exact ih _ later (by omega)

/-! ## Routes to one destination -/

structure Sheds (table : Table V) (value : V) (removed : Outcome (Table V) Nat) : Prop where
  lawful : removed.state.Lawful
  eqv : removed.state.eqv = table.eqv
  config : removed.state.config = table.config
  gone : ∃ gone, table.routes.Perm (gone ++ removed.state.routes) ∧
    (∀ route ∈ gone, table.eqv route.2 value = true) ∧ gone.length = removed.result

theorem sheds_nothing (table : Table V) (lawful : table.Lawful) (value : V) (events : List Event) :
    table.Sheds value ⟨0, table, events⟩ :=
  ⟨lawful, rfl, rfl, [], List.Perm.refl _, by simp, rfl⟩

theorem sheds_more (table : Table V) (value : V) (first later : Outcome (Table V) Nat)
    (events : List Event) (sheds : table.Sheds value first) (more : first.state.Sheds value later) :
    table.Sheds value ⟨first.result + later.result, later.state, events⟩ := by
  obtain ⟨front, left, toValue, counted⟩ := sheds.gone
  obtain ⟨back, remains, toValueLater, countedLater⟩ := more.gone
  refine ⟨more.lawful, more.eqv.trans sheds.eqv, more.config.trans sheds.config, front ++ back,
    ?_, ?_, ?_⟩
  · rw [List.append_assoc]
    exact left.trans (remains.append_left front)
  · intro route member
    rcases List.mem_append.mp member with early | late
    · exact toValue route early
    · rw [← sheds.eqv]
      exact toValueLater route late
  · rw [List.length_append, counted, countedLater]

theorem inside_matches (table : Table V) (lawful : table.Lawful) (value : V) (path : Path)
    (still : table.stillMatches value path = true) (route : Path × V)
    (member : route ∈ table.forest.inside path) : table.eqv route.2 value = true := by
  obtain ⟨here, held, found, valued, same⟩ := (still_matches_iff table value path).mp still
  obtain ⟨settled, collapsed⟩ := Forest.every_node _ _ lawful.collapsed path here found
  have nonempty := Forest.node_nonempty _ path here found
  obtain ⟨whole, own⟩ := route
  obtain ⟨listed, within⟩ := List.mem_filter.mp member
  obtain ⟨rest, rfl⟩ := of_decide_eq_true within
  obtain ⟨lower, isLower, routed⟩ := (Forest.routes_iff _ lawful.sound.regular _ own).mp listed
  rw [Forest.node_append path rest _ nonempty, found, Option.bind_some] at isLower
  obtain ⟨other, isOther, close⟩ :=
    here.settled_below table.eqv lawful.lawful settled collapsed held valued rest lower isLower
  rw [routed] at isOther
  cases isOther
  exact lawful.lawful.trans (lawful.lawful.symm close) same

theorem sheds_detached (table : Table V) (lawful : table.Lawful) (value : V) (path : Path)
    (still : table.stillMatches value path = true) : table.Sheds value (table.detach path) := by
  have sound := lawful.sound
  obtain ⟨here, _, found, _⟩ := (still_matches_iff table value path).mp still
  refine ⟨detach_lawful table path lawful, detach_comparator table path, detach_config table path,
    table.forest.inside path, ?_, inside_matches table lawful value path still,
    (detach_taken table sound path here found).symm⟩
  have split := List.filter_append_perm (fun route => decide (path <+: route.1)) table.routes
  have left := (detach_left table sound path here found).append_left (table.forest.inside path)
  simp only [Forest.inside, Forest.outside, decide_not] at left
  exact split.symm.trans left.symm

theorem sheds_matching (value : V) (table : Table V) (lawful : table.Lawful) (paths : List Path) :
    table.Sheds value (detachMatching value table paths) := by
  induction paths generalizing table with
  | nil => exact sheds_nothing table lawful value []
  | cons path rest ih =>
      rw [detachMatching]
      by_cases still : table.stillMatches value path = true
      · have first := sheds_detached table lawful value path still
        rw [if_pos still]
        exact sheds_more table value _ _ _ first (ih _ first.lawful)
      · rw [if_neg still]
        exact ih table lawful

theorem sheds_passes (value : V) (limit : Nat) (table : Table V) (lawful : table.Lawful) :
    table.Sheds value (removalPasses value limit table) := by
  induction limit generalizing table with
  | zero => exact sheds_nothing table lawful value []
  | succ limit ih =>
      rw [removalPasses]
      cases table.matching value with
      | nil => exact sheds_nothing table lawful value []
      | cons first rest =>
          have pass := sheds_matching value table lawful (first :: rest)
          exact sheds_more table value _ _ _ pass (ih _ pass.lawful)

theorem matching_of_route (table : Table V) (lawful : table.Lawful) (value : V) (path : Path)
    (own : V) (member : (path, own) ∈ table.routes) (same : table.eqv own value = true) :
    ∃ above ∈ table.matching value, above <+: path := by
  obtain ⟨here, found, routed⟩ := (Forest.routes_iff _ lawful.sound.regular path own).mp member
  have valued : table.forest.valueAt? path = some own := by
    rw [Forest.valueAt?, found, Option.bind_some, routed]
    rfl
  obtain ⟨first, met, close⟩ := Forest.first_value_above table.eqv lawful.lawful table.forest
    lawful.collapsed path [] own valued
  obtain ⟨above, below, whole, top⟩ := (Forest.first_value_iff table.forest _ first).mp met
  rw [List.append_nil] at whole
  exact ⟨above, (matching_iff table lawful.sound.regular value above).mpr
    ⟨first, top, lawful.lawful.trans close same⟩, below, whole⟩

/-! ## Values and lookups -/

theorem route_of_value (table : Table V) (lawful : table.Lawful) (path : Path) (value : V)
    (valued : table.forest.valueAt? path = some value) :
    ∃ whole own, (whole, own) ∈ table.routes ∧ table.eqv value own = true := by
  obtain ⟨here, found, isValue⟩ := Option.bind_eq_some_iff.mp valued
  obtain ⟨node, below⟩ := Forest.regular_node _ lawful.sound.regular path here found
  obtain ⟨settled, collapsed⟩ := Forest.every_node _ _ lawful.collapsed path here found
  obtain ⟨own, leads⟩ := here.leads_somewhere node below
  obtain ⟨rest, member⟩ := (Forest.leads_iff _ lawful.sound.regular path here found own).mp leads
  have agreed := here.agreed_iff table.eqv lawful.lawful node below settled collapsed value
  exact ⟨path ++ rest, own, member,
    agreed.mp ⟨value, isValue, lawful.lawful.refl value⟩ own leads⟩

inductive Resolves (table : Table V) (key : String) (value : V) : Prop where
  | exhaustive (found : table.lookupExhaustive key = .ok value)
  | earlyExit (found : table.lookupEarlyExit key = .ok value)
  | quick (found : (table.lookupQuick key).result = .ok value)
  | lookup (strategy : Strategy)
      (found : ((table.setStrategy strategy).state.lookup key).result = .ok value)
  | resolve (strategy : Strategy)
      (found : (table.setStrategy strategy).state.resolve key = .ok value)

theorem exhaustive_valued (table : Table V) (key : String) (value : V)
    (found : table.lookupExhaustive key = .ok value) :
    ∃ path, table.forest.valueAt? path = some value := by
  cases named : table.keyPath key with
  | error error =>
      rw [lookupExhaustive, named] at found
      cases found
  | ok path =>
      rw [exhaustive_answer table key path named, answer_ok_iff] at found
      exact ⟨path, found⟩

theorem early_valued (table : Table V) (key : String) (value : V)
    (found : table.lookupEarlyExit key = .ok value) :
    ∃ path, table.forest.valueAt? path = some value := by
  cases named : table.keyPath key with
  | error error =>
      rw [lookupEarlyExit, named] at found
      cases found
  | ok path =>
      rw [early_answer table key path named, answer_ok_iff] at found
      obtain ⟨above, _, _, top⟩ := (Forest.first_value_iff _ path value).mp found
      exact ⟨above, top.valued⟩

theorem resolve_valued (table : Table V) (sound : table.Sound) (key : String) (value : V)
    (found : table.resolve key = .ok value) :
    ∃ path, table.forest.valueAt? path = some value := by
  cases strategy : table.strategy with
  | exhaustive =>
      apply exhaustive_valued table key value
      rw [← found, resolve, lookupExhaustive, strategy]
  | earlyExit =>
      apply early_valued table key value
      rw [← found, resolve, lookupEarlyExit, strategy]
  | quickCache =>
      apply early_valued table key value
      rw [← found, resolve_early table sound strategy]

theorem lookup_valued (table : Table V) (sound : table.Sound) (key : String) (value : V)
    (found : (table.lookup key).result = .ok value) :
    ∃ path, table.forest.valueAt? path = some value := by
  by_cases cached : table.strategy = .quickCache
  · rw [lookup_early table sound cached] at found
    exact early_valued table key value found
  · simp only [lookup, if_neg cached] at found
    exact resolve_valued table sound key value found

theorem resolves_valued (table : Table V) (sound : table.Sound) (key : String) (value : V)
    (resolves : table.Resolves key value) : ∃ path, table.forest.valueAt? path = some value := by
  have selected := fun strategy => (kept_sound fun _ => True).select table strategy sound
  cases resolves with
  | exhaustive found => exact exhaustive_valued table key value found
  | earlyExit found => exact early_valued table key value found
  | quick found =>
      rw [lookup_quick_early table sound] at found
      exact early_valued table key value found
  | lookup strategy found => exact lookup_valued _ (selected strategy) key value found
  | resolve strategy found => exact resolve_valued _ (selected strategy) key value found

/-! ## Removing a destination -/

section

variable (table : Table V) (lawful : table.Lawful) (value : V)
include lawful

theorem sheds_removed : table.Sheds value (table.removeValue value) := by
  obtain ⟨left, eqv, config, gone⟩ := sheds_passes value table.nodeCount table lawful
  exact ⟨left, eqv, config, gone⟩

theorem removed_elsewhere (route : Path × V)
    (member : route ∈ (table.removeValue value).state.routes) :
    ¬ table.eqv route.2 value = true := by
  intro same
  have sheds := sheds_removed table lawful value
  have nothing : (table.removeValue value).state.matching value = [] :=
    removal_passes_end value table.nodeCount table lawful.sound (Nat.le_refl _)
  rw [← sheds.eqv] at same
  -- A route to the destination would have a node at or above it that the last pass finds.
  obtain ⟨above, listed, _⟩ := matching_of_route _ sheds.lawful value route.1 route.2 member same
  rw [nothing] at listed
  cases listed

theorem removed_count : (table.removeValue value).result = (table.keysRoutedTo value).length := by
  obtain ⟨gone, perm, toValue, counted⟩ := (sheds_removed table lawful value).gone
  have left : (table.removeValue value).state.routes.filter
      (fun route => table.eqv route.2 value) = [] :=
    List.filter_eq_nil_iff.mpr (removed_elsewhere table lawful value)
  have taken : gone.filter (fun route => table.eqv route.2 value) = gone :=
    List.filter_eq_self.mpr toValue
  have listed := (perm.filter fun route => table.eqv route.2 value).length_eq
  rw [List.filter_append, taken, left, List.append_nil, counted] at listed
  rw [keysRoutedTo, List.length_mergeSort, List.length_map]
  exact listed.symm

theorem removed_registered (key : String) (own : V) :
    (table.removeValue value).state.Registered key own ↔
      table.Registered key own ∧ ¬ table.eqv own value = true := by
  obtain ⟨gone, perm, toValue, _⟩ := (sheds_removed table lawful value).gone
  constructor
  · rintro ⟨path, member, named⟩
    exact ⟨⟨path, perm.mem_iff.mpr (List.mem_append_right _ member), named⟩,
      removed_elsewhere table lawful value _ member⟩
  · rintro ⟨⟨path, member, named⟩, differs⟩
    rcases List.mem_append.mp (perm.mem_iff.mp member) with taken | left
    · exact absurd (toValue _ taken) differs
    · exact ⟨path, left, named⟩

theorem removed_resolves (key : String) (found : V)
    (resolves : (table.removeValue value).state.Resolves key found) :
    ¬ table.eqv found value = true := by
  intro same
  have sheds := sheds_removed table lawful value
  obtain ⟨path, valued⟩ := resolves_valued _ sheds.lawful.sound key found resolves
  obtain ⟨whole, own, member, close⟩ := route_of_value _ sheds.lawful path found valued
  rw [sheds.eqv] at close
  exact removed_elsewhere table lawful value _ member
    (lawful.lawful.trans (lawful.lawful.symm close) same)

end

theorem removal_exact (table : Table V) (reachable : Reachable Comparator.IsEquivalence table)
    (value : V) :
    let removed := table.removeValue value
    removed.result = (table.keysRoutedTo value).length ∧
      (∀ key own, removed.state.Registered key own ↔
        table.Registered key own ∧ ¬ table.eqv own value = true) ∧
      removed.state.keysRoutedTo value = [] ∧
      ∀ key found, removed.state.Resolves key found → ¬ table.eqv found value = true := by
  have lawful := reachable_lawful table reachable
  refine ⟨removed_count table lawful value, removed_registered table lawful value, ?_,
    removed_resolves table lawful value⟩
  have sheds := sheds_removed table lawful value
  have left : (table.removeValue value).state.routes.filter
      (fun route => (table.removeValue value).state.eqv route.2 value) = [] := by
    rw [sheds.eqv]
    exact List.filter_eq_nil_iff.mpr (removed_elsewhere table lawful value)
  rw [← List.length_eq_zero_iff, keysRoutedTo, List.length_mergeSort, List.length_map]
  exact List.length_eq_zero_iff.mpr left

theorem removal_exact_for_hosts :
    let table := (withComparator {} Comparator.sameHost).serveAll
      [.setRoute "a.b" "h:1", .setRoute "a.c.d" "g:1", .setRoute "a.c.e" "g:2", .setRoute "_x" "h:2"]
    let removed := table.removeValue "h:3"
    removed.result = 2 ∧ removed.state.Registered "a.c.e" "g:2" ∧
      ¬ removed.state.Registered "_x" "h:2" ∧ removed.state.keysRoutedTo "h:3" = [] ∧
      removed.state.firstValue? [.branch "a", .leaf "b"] = some "g:1" ∧
      ¬ removed.state.Resolves "a.b" "h:1" := by
  intro table removed
  have reachable : Reachable Comparator.IsEquivalence table :=
    reachable_serve_all _ _ (.start {} _ Comparator.sameHost_isEquivalence) _
      (by simp [Request.Permitted])
  obtain ⟨_, left, nothing, gone⟩ := removal_exact table reachable "h:3"
  have kept : table.Registered "a.c.e" "g:2" :=
    ⟨[.branch "a", .branch "c", .leaf "e"], by decide, by decide⟩
  have same : table.eqv "h:2" "h:3" = true := by decide
  refine ⟨by decide, (left _ _).mpr ⟨kept, by decide⟩, ?_, nothing, by decide, ?_⟩
  · exact fun remains => ((left _ _).mp remains).2 same
  · exact fun resolves => gone _ _ resolves (by decide)

end TopicRouting.Table
