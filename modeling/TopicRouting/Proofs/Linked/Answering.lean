import TopicRouting.Proofs.Linked.Collecting
import TopicRouting.Proofs.Linked.Finding
import TopicRouting.Proofs.Linked.Reoptimizing
import TopicRouting.Proofs.Table.Growth

set_option autoImplicit false

namespace TopicRouting

open Layout

variable {V α : Type}

namespace LinkedTable

-- An action that leaves the nodes alone, if perhaps not the cache, and gives the result, the events
-- and the table that an operation of the table gives.
def Consults (linked : LinkedTable V) (layout : Layout V) (action : Action V α)
    (result : Except RouteError α) (state : Table V) (events : List Event) : Prop :=
  ∃ cache, Linked.Ends action linked result { linked with cache } events ∧
    Represents { linked with cache } state layout

section

variable {β : Type} (linked : LinkedTable V) (layout : Layout V)

theorem consults_follows (action : Action V α) (result : Except RouteError α) (state : Table V)
    (events : List Event) (consults : linked.Consults layout action result state events) :
    linked.Follows action result state events := by
  obtain ⟨cache, ends, represented⟩ := consults
  exact ⟨{ linked with cache }, layout, ends, represented⟩

theorem consults_attempt (action : Action V α) (result : Except RouteError α) (state : Table V)
    (events : List Event) (consults : linked.Consults layout action result state events) :
    linked.Consults layout (Linked.attempt action) (.ok result) state events := by
  obtain ⟨cache, ends, represented⟩ := consults
  exact ⟨cache, Linked.ends_attempt ends, represented⟩

theorem consults_last (action : Action V α) (output : α → β) (result : α)
    (state : Table V) (events : List Event)
    (consults : linked.Consults layout action (.ok result) state events) :
    linked.Consults layout (do pure (output (← action))) (.ok (output result)) state events := by
  obtain ⟨cache, ends, represented⟩ := consults
  exact ⟨cache, Linked.ends_last _ ends (Linked.reads_pure _ _), represented⟩

theorem consults_read (action : Action V α) (f : α → Action V β) (result : α)
    (ending : Except RouteError β) (state : Table V) (events : List Event)
    (first : Linked.Reads action linked result)
    (later : linked.Consults layout (f result) ending state events) :
    linked.Consults layout (action >>= f) ending state events := by
  obtain ⟨cache, ends, represented⟩ := later
  exact ⟨cache, Linked.ends_read first ends, represented⟩

theorem consults_then (action : Action V α) (f : α → Action V β) (result : α)
    (ending : Except RouteError β) (state : Table V) (events : List Event)
    (first : linked.Consults layout action (.ok result) state events)
    (later : ∀ cache, Represents { linked with cache } state layout →
      Linked.Ends (f result) { linked with cache } ending { linked with cache } []) :
    linked.Consults layout (action >>= f) ending state events := by
  obtain ⟨cache, ends, represented⟩ := first
  refine ⟨cache, ?_, represented⟩
  simpa using Linked.ends_bind ends (later cache represented)

end

theorem ends_answer (linked : LinkedTable V) (key : String) (found : Option V) :
    Linked.Ends (Linked.answer key found) linked (Table.answer key found) linked [] := by
  cases found with
  | none => exact Linked.ends_refuse linked _
  | some value => exact Linked.ends_of_reads (Linked.reads_pure linked value)

section

variable (linked : LinkedTable V) (table : Table V) (layout : Layout V)
  (represents : linked.Represents table layout)
include represents

/-! ## Lookups -/

theorem ends_look (key : String) (look : KeyKind → Action V V) (found : Path → Option V)
    (looks : ∀ kind, table.config.keyRules.classify key = .ok kind →
      Linked.Ends (look kind) linked (Table.answer key (found (kind.path key))) linked []) :
    Linked.Ends (Linked.keyKind key >>= look) linked
      (match table.keyPath key with
        | .ok path => Table.answer key (found path)
        | .error error => .error error)
      linked [] := by
  rcases key_kind_cases linked table layout represents key with
    ⟨fault, invalid, refused⟩ | ⟨kind, accepted, valid, kinds⟩
  · simp only [Table.keyPath, invalid]
    exact Linked.ends_refused _ refused
  · simp only [Table.keyPath, accepted]
    exact Linked.ends_read kinds (looks kind valid)

theorem ends_exhaustive (key : String) (kind : KeyKind)
    (valid : table.config.keyRules.classify key = .ok kind) :
    Linked.Ends (do Linked.answer key (← Linked.exhaustive key kind)) linked
      (Table.answer key (table.exactValue? (kind.path key))) linked [] :=
  Linked.ends_read (reads_exhaustive linked table layout represents key kind valid)
    (ends_answer linked key _)

theorem ends_early_exit (key : String) (kind : KeyKind)
    (valid : table.config.keyRules.classify key = .ok kind) :
    Linked.Ends (do Linked.answer key (← Linked.earlyExit key kind)) linked
      (Table.answer key (table.firstValue? (kind.path key))) linked [] :=
  Linked.ends_read (reads_early_exit linked table layout represents key kind valid)
    (ends_answer linked key _)

theorem ends_quick (key : String) (kind : KeyKind)
    (valid : table.config.keyRules.classify key = .ok kind) :
    Linked.Ends (do Linked.answer key (← Linked.quick key kind)) linked
      (Table.answer key (table.quickValue? key (kind.path key))) linked [] :=
  Linked.ends_read (reads_quick linked table layout represents key kind valid)
    (ends_answer linked key _)

theorem ends_lookup_exhaustive (key : String) :
    Linked.Ends (Linked.lookupExhaustive key) linked (table.lookupExhaustive key) linked [] :=
  ends_look linked table layout represents key _ _
    (ends_exhaustive linked table layout represents key)

theorem ends_lookup_early_exit (key : String) :
    Linked.Ends (Linked.lookupEarlyExit key) linked (table.lookupEarlyExit key) linked [] :=
  ends_look linked table layout represents key _ _
    (ends_early_exit linked table layout represents key)

theorem ends_resolve (key : String) :
    Linked.Ends (Linked.resolve key) linked (table.resolve key) linked [] := by
  refine ends_look linked table layout represents key _ _ fun kind valid => ?_
  refine Linked.ends_read (Linked.reads_table linked) ?_
  rw [represents.strategy]
  cases table.strategy with
  | exhaustive => exact ends_exhaustive linked table layout represents key kind valid
  | earlyExit => exact ends_early_exit linked table layout represents key kind valid
  | quickCache => exact ends_quick linked table layout represents key kind valid

/-! ## The cache -/

theorem consults_ends (action : Action V α) (result : Except RouteError α) (events : List Event)
    (ends : Linked.Ends action linked result linked events) :
    linked.Consults layout action result table events :=
  ⟨linked.cache, ends, represents⟩

-- Any cache will do as long as it is marked stale or the one of the forest.
theorem represents_cached (cache : QuickCache V)
    (current : cache.stale = false → cache = .ofForest table.forest) :
    Represents { linked with cache } { table with cache } layout :=
  ⟨represents.config, represents.eqv, represents.strategy, rfl, represents.trees,
    represents.indexes, represents.stocked,
    ⟨represents.sound.regular, represents.sound.spelled, current⟩,
    ⟨represents.fits.capacity, represents.fits.slots⟩⟩

theorem layout_grounded : (grove layout).forest.Grounded := by
  have each : ∀ plant ∈ plants layout, plant.children.forest.Topical := by
    intro plant member
    obtain ⟨slot, held⟩ := (plants_member layout plant).mp member
    exact root_topical linked table layout represents slot plant held
  clear represents
  induction layout with
  | nil => trivial
  | cons held layout ih =>
      cases held with
      | none => exact ih each
      | some plant =>
          exact ⟨each plant List.mem_cons_self,
            ih fun other member => each other (List.mem_cons_of_mem _ member)⟩

theorem refresh_consults :
    linked.Consults layout Linked.refreshCache (.ok ()) table.refreshCache.state
      table.refreshCache.events := by
  have matches_ : Linked.bundleBelow [] (grove layout).forest = table.forest.quickMatches := by
    rw [represents_forest linked table layout represents]
    rfl
  have collects := Linked.collects_bundle .complete linked none [] (grove layout)
    (Linked.upward_none linked) represents.stocked.holds
    (layout_grounded linked table layout represents) (Or.inl rfl) [] [] table.forest.quickMatches
    (by rw [Linked.added_complete, matches_])
  rw [List.append_nil, List.nil_append, ← Directory.indexes_ids _ layout represents.indexes]
    at collects
  have done : Linked.Ends (Linked.collectBundle .complete [] table.forest.quickMatches) linked
      (.ok table.forest.quickMatches) linked [] := by
    rw [Linked.collect_bundle_eq]
    exact Linked.ends_of_reads (Linked.reads_pure linked _)
  have collected := Linked.proceeds_ends collects done
  rw [List.append_nil] at collected
  have counted : (QuickCache.ofForest table.forest).entries.length =
      table.forest.quickMatches.length := List.length_mergeSort _
  refine ⟨.ofForest table.forest, ?_, ?_⟩
  · rw [Table.refreshCache, counted]
    refine Linked.ends_read (Linked.reads_table linked) (Linked.ends_bind collected ?_)
    exact Linked.ends_then (Linked.ends_change linked _) (Linked.ends_report _ _)
  · exact represents_cached linked table layout represents _ fun _ => rfl

theorem ensure_consults :
    linked.Consults layout Linked.ensureCache (.ok ()) table.ensureCache.state
      table.ensureCache.events := by
  refine consults_read linked layout _ _ _ _ _ _ (Linked.reads_table linked) ?_
  rw [Table.ensureCache, ← represents.cache]
  by_cases stale : linked.cache.stale = true
  · rw [if_pos stale, if_pos stale]
    exact refresh_consults linked table layout represents
  · rw [if_neg stale, if_neg stale]
    exact consults_ends linked table layout represents _ _ _
      (Linked.ends_of_reads (Linked.reads_pure linked ()))

theorem lookup_consults (key : String) :
    linked.Consults layout (Linked.lookup key) (table.lookup key).result (table.lookup key).state
      (table.lookup key).events := by
  refine consults_read linked layout _ _ _ _ _ _ (Linked.reads_table linked) ?_
  by_cases cached : table.strategy = .quickCache
  · simp only [Table.lookup, if_pos cached, represents.strategy]
    exact consults_then linked layout _ _ () _ _ _ (ensure_consults linked table layout represents)
      fun _ represented => ends_resolve _ _ layout represented key
  · simp only [Table.lookup, if_neg cached, represents.strategy]
    exact consults_ends linked table layout represents _ _ _
      (ends_resolve linked table layout represents key)

theorem lookup_quick_consults (key : String) :
    linked.Consults layout (Linked.lookupQuick key) (table.lookupQuick key).result
      (table.lookupQuick key).state (table.lookupQuick key).events := by
  rcases key_kind_cases linked table layout represents key with
    ⟨fault, invalid, refused⟩ | ⟨kind, accepted, valid, kinds⟩
  · simp only [Table.lookupQuick, Table.keyPath, invalid]
    exact consults_ends linked table layout represents _ _ _ (Linked.ends_refused _ refused)
  · have config : table.ensureCache.state.config = table.config := by
      rw [Table.ensureCache]
      cases table.cache.stale <;> rfl
    simp only [Table.lookupQuick, Table.keyPath, accepted]
    refine consults_read linked layout _ _ _ _ _ _ kinds ?_
    exact consults_then linked layout _ _ () _ _ _ (ensure_consults linked table layout represents)
      fun _ represented => ends_quick _ _ layout represented key kind (config ▸ valid)

omit represents in
theorem ends_reports {β : Type} (items : List β) (event : β → Event) :
    Linked.Ends (items.forM fun item => Linked.report (event item)) linked (.ok ()) linked
      (items.map event) := by
  induction items with
  | nil => exact Linked.ends_of_reads (Linked.reads_pure linked ())
  | cons item items ih => exact Linked.ends_bind (Linked.ends_report linked (event item)) ih

theorem dump_consults :
    linked.Consults layout Linked.dumpQuickMatches (.ok table.dumpQuickMatches.result)
      table.dumpQuickMatches.state table.dumpQuickMatches.events := by
  obtain ⟨cache, ends, represented⟩ := ensure_consults linked table layout represents
  have reports := ends_reports { linked with cache } table.ensureCache.state.cache.entries.zipIdx
    fun numbered =>
      Journal.note ("Expression #" ++ toString (numbered.2 + 1) ++ " " ++ numbered.1.path)
  have entries : cache = table.ensureCache.state.cache := represented.cache
  refine ⟨cache, ?_, represented⟩
  simp only [Table.dumpQuickMatches, List.append_assoc]
  refine Linked.ends_bind ends (Linked.ends_read (Linked.reads_table _) ?_)
  simp only [entries] at reports ⊢
  refine Linked.ends_bind (Linked.ends_report _ _) (Linked.ends_bind reports ?_)
  exact Linked.ends_last _ (Linked.ends_report _ _) (Linked.reads_pure _ _)

/-! ## Reports -/

theorem reads_keys_routed_to (value : V) :
    Linked.Reads (Linked.keysRoutedTo value) linked (table.keysRoutedTo value) := by
  have finds := Linked.finds_all linked value none [] (grove layout) (Linked.upward_none linked)
    represents.stocked.holds [] []
  rw [List.append_nil, List.nil_append, ← Directory.indexes_ids _ layout represents.indexes,
    represents_forest linked table layout represents, represents.eqv] at finds
  have found : Linked.Reads (Linked.findAll value linked.directory.ids []) linked
      (Linked.keysBelow table.eqv value [] table.forest) := by
    refine Linked.proceeds_reads _ finds ?_
    rw [Linked.find_all_eq]
    exact Linked.reads_pure linked _
  refine Linked.reads_bind _ (Linked.reads_table linked) (Linked.reads_bind _ found ?_)
  exact Linked.reads_pure linked _

theorem reads_statistics : Linked.Reads Linked.statistics linked table.statistics := by
  have live := represents_nodes linked table layout represents
  have count := represents_count linked table layout represents
  have capacity := represents_capacity linked table layout represents
  have dynamic := table.node_count
  refine Linked.reads_bind _ (Linked.reads_table linked) ?_
  refine Linked.reads_bind _ (Linked.reads_minus linked _ _ (by omega)) ?_
  have rest : linked.arena.live - linked.directory.count = table.roots.dynamicCount := by omega
  rw [rest, count, capacity, represents.cache, represents.strategy]
  exact Linked.reads_pure linked _

theorem reads_trace_tree : Linked.Reads Linked.traceTree linked table.traceTree := by
  have lines := Linked.outlines linked none (grove layout) represents.stocked.holds 1 [] []
  rw [List.append_nil, List.nil_append, ← Directory.indexes_ids _ layout represents.indexes,
    represents_forest linked table layout represents] at lines
  have outlined : Linked.Reads (Linked.outline (linked.directory.ids.map fun root => (root, 1)) [])
      linked table.traceLines := by
    refine Linked.proceeds_reads _ lines ?_
    rw [Linked.outline_eq]
    exact Linked.reads_pure linked _
  refine Linked.reads_bind _ (Linked.reads_table linked) (Linked.reads_bind _ outlined ?_)
  exact Linked.reads_pure linked _

theorem located_upward (path : Path) (slot : Nat) (spine : Spine V) (below : Grove V)
    (locates : linked.Locates layout path slot spine below) :
    ∃ front, path = front ++ [spine.segment] ∧ Linked.Upward linked spine.parent? front ∧
      (front = [] ∨ Path.Topical [spine.segment]) := by
  have located := located_node linked table layout represents path slot spine below locates
  have spelled := represents.sound.spelled path _ located
  have whole := locates.path
  have around := locates.reaches.around
  cases spine with
  | root id segment target =>
      exact ⟨[], whole.symm, Linked.upward_none linked, Or.inl rfl⟩
  | node above id segment target before after =>
      have parts : above.path ++ [segment] = path := by
        rw [← whole]
        simp [Spine.path, Spine.first, Spine.later]
      refine ⟨above.path, parts.symm, Linked.upward_spine linked above _ around.2.2.2, Or.inr ?_⟩
      rcases KeyRules.spells_cases _ _ spelled with ⟨key, single, _⟩ | ⟨topical, _⟩
      · rw [← parts, Spine.path] at single
        simp at single
      · exact Path.topical_back above.path [segment] (parts ▸ topical)

theorem ends_endpoints (path : Path) (slot : Nat) (spine : Spine V) (below : Grove V)
    (locates : linked.Locates layout path slot spine below) (chosen : List (QuickMatch V))
    (chooses : QuickMatch.representatives table.eqv
      (Table.entriesBelow path ⟨spine.target, below.forest⟩) = chosen) :
    Linked.Ends (Linked.collectBundle .trimmed [spine.last] []) linked (.ok chosen) linked
      (chosen.map fun entry => Journal.expressionGenerated entry.path) := by
  obtain ⟨front, rfl, upward, plain⟩ := located_upward linked table layout represents path slot spine
    below locates
  have last := Arena.around_last linked.arena spine _ locates.reaches.around
  have holds : linked.arena.Holds spine.parent? (.node spine.last spine.segment spine.target below .nil) :=
    ⟨last, locates.reaches.held, trivial⟩
  have entries : Linked.bundleBelow front
      (Grove.node spine.last spine.segment spine.target below .nil).forest =
        Table.entriesBelow (front ++ [spine.segment]) ⟨spine.target, below.forest⟩ := by
    rw [Grove.forest, Linked.bundle_node, Table.entriesBelow]
    cases spine.target.value? <;> simp [Linked.bundleBelow, Grove.forest, Forest.topmost]
  have trimmed := Linked.added_trimmed table.eqv []
    (Table.entriesBelow (front ++ [spine.segment]) ⟨spine.target, below.forest⟩)
  rw [List.nil_append] at trimmed
  rw [QuickMatch.representatives, trimmed] at chooses
  have collects := Linked.collects_bundle .trimmed linked spine.parent? front _ upward holds
    ⟨locates.reaches.topical, trivial⟩
    (plain.imp_right fun single => ⟨single, locates.reaches.topical, trivial⟩) [] [] chosen
    (by rw [entries, represents.eqv, chooses])
  have done : Linked.Ends (Linked.collectBundle .trimmed [] chosen) linked (.ok chosen) linked [] := by
    rw [Linked.collect_bundle_eq]
    exact Linked.ends_of_reads (Linked.reads_pure linked chosen)
  have ends := Linked.proceeds_ends collects done
  rw [List.append_nil, List.append_nil] at ends
  exact ends

theorem endpoints_refines (expression : String) :
    Linked.Ends (Linked.endpoints expression) linked (table.endpoints expression).value linked
      (table.endpoints expression).events := by
  rcases key_kind_cases linked table layout represents expression with
    ⟨fault, invalid, refused⟩ | ⟨kind, accepted, valid, kinds⟩
  · simp only [Table.endpoints, Table.keyPath, invalid]
    exact Linked.ends_refused _ refused
  · simp only [Table.endpoints, Table.keyPath, accepted]
    refine Linked.ends_read kinds ?_
    rcases find_exact_refines linked table layout represents expression kind valid with
      ⟨missing, finds⟩ | ⟨slot, spine, below, locates, finds⟩
    · simp only [missing]
      exact Linked.ends_read finds (Linked.ends_refuse linked _)
    · simp only [located_node linked table layout represents _ slot spine below locates]
      refine Linked.ends_read finds ?_
      exact Linked.ends_last _ (ends_endpoints linked table layout represents _ slot spine below
        locates _ rfl) (Linked.reads_pure linked _)

/-! ## Settings -/

theorem set_strategy_refines (strategy : Strategy) :
    linked.Follows (Linked.setStrategy strategy) (.ok ()) (table.setStrategy strategy).state
      (table.setStrategy strategy).events := by
  refine ⟨{ linked with strategy }, layout, ?_, ?_⟩
  · refine Linked.ends_read (Linked.reads_table linked) ?_
    rw [represents.strategy, Table.setStrategy]
    by_cases same : table.strategy = strategy
    · rw [if_pos same, if_pos same]
      exact Linked.ends_change linked _
    · rw [if_neg same, if_neg same]
      exact Linked.ends_bind (Linked.ends_report linked _) (Linked.ends_change linked _)
  · exact ⟨represents.config, represents.eqv, rfl, represents.cache, represents.trees,
      represents.indexes, represents.stocked,
      ⟨represents.sound.regular, represents.sound.spelled, represents.sound.current⟩,
      ⟨represents.fits.capacity, represents.fits.slots⟩⟩

theorem set_comparator_refines (eqv : Comparator V) :
    linked.Follows (Linked.setComparator eqv) (.ok ()) (table.setComparator eqv).state
      (table.setComparator eqv).events := by
  have stocked := represents.stocked
  have collects := Linked.reads_collect_forest linked (grove layout) stocked.holds []
  obtain ⟨arena, reconciled, proceeds⟩ := Linked.reoptimizes_roots { linked with eqv } none
    (grove layout) stocked.holds stocked.tallies.distinct []
  have done : Linked.Ends (Linked.reoptimize []) { linked with eqv, arena } (.ok ())
      { linked with eqv, arena } [] := Linked.ends_of_reads (Linked.reads_pure _ ())
  have reoptimized := Linked.proceeds_ends proceeds done
  rw [List.append_nil, List.append_nil] at reoptimized
  have withdrawals : (grove layout).withdrawals eqv = (table.roots.reconcile eqv).events := by
    rw [grove_withdrawals, represents_trees linked table layout represents]
    rfl
  have nodes : (grove layout).rootwise.length = table.nodeCount := by
    rw [Grove.rootwise_length, Grove.ids_length, represents_forest linked table layout represents]
    rfl
  refine ⟨{ linked with eqv, arena, cache := linked.cache.invalidate },
    layout.map (Option.map (Plant.reconcile eqv)), ?_, ?_⟩
  · rw [Table.setComparator, ← withdrawals, ← nodes]
    refine Linked.ends_read (Linked.reads_table linked) ?_
    rw [Directory.indexes_ids _ layout represents.indexes]
    refine Linked.ends_read collects (Linked.ends_then (Linked.ends_change linked _) ?_)
    refine Linked.ends_bind reoptimized ?_
    exact Linked.ends_then (Linked.ends_change _ _) (Linked.ends_report _ _)
  · have trees : (layout.map (Option.map (Plant.reconcile eqv))).map (Option.map Plant.tree) =
        (table.roots.reconcile eqv).state.padded := by
      rw [Roots.reconcile, Roots.padded_map, ← represents.trees, List.map_map, List.map_map]
      congr 1
      funext held
      cases held <;> simp [Plant.tree, Plant.reconcile, Grove.reconcile_forest]
    have ids := reconciled.tallies _ stocked.tallies
    rw [← Grove.reconcile_ids eqv] at ids
    refine ⟨represents.config, rfl, represents.strategy,
      congrArg QuickCache.invalidate represents.cache, trees,
      Directory.indexes_map _ layout represents.indexes _ (fun _ => rfl) (fun _ => rfl), ?_,
      Table.install_sound table eqv represents.sound,
      (Table.kept_fits fun _ => True).install table eqv represents.fits trivial⟩
    rw [grove_reconcile]
    exact ⟨reconciled.holds, ids⟩

end

end LinkedTable

end TopicRouting
