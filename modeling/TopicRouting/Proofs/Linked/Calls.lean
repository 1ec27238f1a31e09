import TopicRouting.Linked.Diagnostics
import TopicRouting.Proofs.Linked.BlindChanges
import TopicRouting.Proofs.Linked.Runs
import TopicRouting.Proofs.Linked.Spanning

set_option autoImplicit false

namespace TopicRouting

open Layout

variable {V σ : Type}

inductive Call (V : Type) where
  | serve (request : Request V)
  | execute (command : DiagnosticCommand)
  | isEmpty
  | needsRefresh
  | strategy
  | config
  | dumpStatistics
  | describe

inductive Reply (V : Type) where
  | answer (answer : Answer V)
  | report (result : Except DiagnosticError DiagnosticReport)
  | isEmpty (empty : Bool)
  | needsRefresh (stale : Bool)
  | strategy (strategy : Strategy)
  | config (config : TableConfig)
  | statistics (counters : Stats)
  | description (text : String)

def DiagnosticCommand.reads : DiagnosticCommand → Bool
  | .dumpStats | .dumpTable | .dumpQuickMatches => true
  | .setStrategy _ | .enableVerboseLogs | .disableVerboseLogs => false

def Call.reads : Call V → Bool
  | .serve request => request.reads
  | .execute command => command.reads
  | _ => true

def Stats.uncached (counters : Stats) : Stats :=
  { counters with quickMatchEntries := 0, quickMatchStale := false }

inductive Reply.Alike : Reply V → Reply V → Prop where
  | same (reply : Reply V) : Alike reply reply
  | answered (one other : Stats) (counted : one.uncached = other.uncached) :
      Alike (.answer (.statistics one)) (.answer (.statistics other))
  | reported (one other : Stats) (counted : one.uncached = other.uncached) :
      Alike (.report (.ok (.stats one))) (.report (.ok (.stats other)))
  | dumped (one other : Stats) (counted : one.uncached = other.uncached) :
      Alike (.statistics one) (.statistics other)
  | needsRefresh (one other : Bool) : Alike (.needsRefresh one) (.needsRefresh other)
  | described (roots nodes : Nat) (strategy : Strategy) (one other : Bool) :
      Alike (.description (Linked.description roots nodes strategy one))
        (.description (Linked.description roots nodes strategy other))

def DiagnosticSubject.call (subject : DiagnosticSubject V σ) :
    Call V → Outcome (DiagnosticSubject V σ) (Reply V)
  | .serve request =>
    let served := subject.table.serve request
    ⟨.answer served.result, { subject with table := served.state }, served.events⟩
  | .execute command =>
    let done := command.execute subject
    ⟨.report done.result, done.state, done.events⟩
  | .isEmpty => ⟨.isEmpty subject.table.isEmpty, subject, []⟩
  | .needsRefresh => ⟨.needsRefresh subject.table.cache.stale, subject, []⟩
  | .strategy => ⟨.strategy subject.table.strategy, subject, []⟩
  | .config => ⟨.config subject.table.config, subject, []⟩
  | .dumpStatistics =>
    let dumped := subject.table.dumpStatistics
    ⟨.statistics dumped.value, subject, dumped.events⟩
  | .describe => ⟨.description subject.table.describe, subject, []⟩

def DiagnosticSubject.callAll (subject : DiagnosticSubject V σ) :
    List (Call V) → Outcome (DiagnosticSubject V σ) (List (Reply V))
  | [] => ⟨[], subject, []⟩
  | first :: later =>
    let made := subject.call first
    let rest := made.state.callAll later
    ⟨made.result :: rest.result, rest.state, made.events ++ rest.events⟩

/-! ## Replies to reading calls -/

namespace Table

section

variable (table : Table V) (cache : QuickCache V) (sound : table.Sound)
  (cached : ({ table with cache } : Table V).Sound)
include sound cached

theorem serve_alike (request : Request V) (reads : request.reads = true) :
    Reply.Alike (.answer (table.serve request).result)
      (.answer (({ table with cache } : Table V).serve request).result) := by
  cases request with
  | setRoute key value => cases reads
  | removeRoute key => cases reads
  | removeValue value => cases reads
  | setComparator eqv => cases reads
  | setStrategy strategy => cases reads
  | dumpQuickMatches =>
      simp only [serve, dumpQuickMatches, ensured_cache _ sound, ensured_cache _ cached]
      exact .same _
  | lookup key =>
      simp only [serve]
      by_cases quick : table.strategy = .quickCache
      · rw [lookup_early table sound quick, lookup_early _ cached quick]
        exact .same _
      · simp only [lookup, if_neg quick]
        rw [resolve_uncached table quick cache]
        exact .same _
  | lookupQuick key =>
      simp only [serve, lookup_quick_early table sound, lookup_quick_early _ cached]
      exact .same _
  | resolve key =>
      simp only [serve]
      by_cases quick : table.strategy = .quickCache
      · rw [resolve_early table sound quick, resolve_early _ cached quick]
        exact .same _
      · rw [resolve_uncached table quick cache]
        exact .same _
  | statistics => exact .answered _ _ rfl
  | refreshCache => exact .same _
  | lookupExhaustive key => exact .same _
  | lookupEarlyExit key => exact .same _
  | keysRoutedTo value => exact .same _
  | endpoints expression => exact .same _
  | traceTree => exact .same _

theorem call_alike (control : Option (VerbositySwitch σ)) (call : Call V)
    (reads : call.reads = true) :
    Reply.Alike (DiagnosticSubject.call ⟨table, control⟩ call).result
      (DiagnosticSubject.call ⟨{ table with cache }, control⟩ call).result := by
  cases call with
  | serve request => exact serve_alike table cache sound cached request reads
  | execute command =>
      cases command with
      | dumpStats => exact .reported _ _ rfl
      | dumpTable => exact .same _
      | dumpQuickMatches =>
          simp only [DiagnosticSubject.call, DiagnosticCommand.execute, DiagnosticCommand.perform,
            dumpQuickMatches, ensured_cache _ sound, ensured_cache _ cached]
          exact .same _
      | _ => cases reads
  | isEmpty => exact .same _
  | needsRefresh => exact .needsRefresh _ _
  | strategy => exact .same _
  | config => exact .same _
  | dumpStatistics => exact .dumped _ _ rfl
  | describe => exact .described _ _ _ _ _

end

end Table

/-! ## Calls on linked nodes -/

namespace Linked

def call (call : Call V) (control : Option (VerbositySwitch σ)) :
    Action V (Reply V × Option (VerbositySwitch σ)) :=
  match call with
  | .serve request => do pure (.answer (← serve request), control)
  | .execute command => do
    let executed ← execute command control
    pure (.report executed.1, executed.2)
  | .isEmpty => do pure (.isEmpty (← isEmpty), control)
  | .needsRefresh => do pure (.needsRefresh (← needsRefresh), control)
  | .strategy => do pure (.strategy (← table).strategy, control)
  | .config => do pure (.config (← table).config, control)
  | .dumpStatistics => do pure (.statistics (← dumpStatistics), control)
  | .describe => do pure (.description (← describe), control)

def callAll : List (Call V) → Option (VerbositySwitch σ) →
    Action V (List (Reply V) × Option (VerbositySwitch σ))
  | [], control => pure ([], control)
  | first :: later, control => do
    let made ← call first control
    let rest ← callAll later made.2
    pure (made.1 :: rest.1, rest.2)

theorem ends_call_all {first : Call V} {later : List (Call V)}
    {control mid left : Option (VerbositySwitch σ)} {reply : Reply V} {replies : List (Reply V)}
    {linked next last : LinkedTable V} {front back : List Event}
    (ends : Ends (call first control) linked (.ok (reply, mid)) next front)
    (rest : Ends (callAll later mid) next (.ok (replies, left)) last back) :
    Ends (callAll (first :: later) control) linked (.ok (reply :: replies, left)) last
      (front ++ back) :=
  ends_bind ends (ends_last _ rest (reads_pure last _))

theorem blind_reports (events : List Event) :
    Blind (events.forM fun event => report event : Action V Unit) := by
  induction events with
  | nil => exact blind_pure ()
  | cons event events ih => exact blind_bind (blind_report event) fun _ => ih

theorem blind_switch (control : Option (VerbositySwitch σ)) (verbose : Bool) :
    Blind (switchVerbosity control verbose : Action V (Executed σ)) := by
  cases control with
  | none => exact blind_pure _
  | some control => exact blind_bind (blind_reports _) fun _ => blind_pure _

theorem blind_execute (command : DiagnosticCommand) (control : Option (VerbositySwitch σ))
    (alters : command.reads = false) :
    Blind (execute command control : Action V (Executed σ)) := by
  refine blind_bind (blind_report _) fun _ => ?_
  cases command with
  | setStrategy strategy => exact blind_bind (blind_set_strategy strategy) fun _ => blind_pure _
  | enableVerboseLogs => exact blind_switch control true
  | disableVerboseLogs => exact blind_switch control false
  | _ => cases alters

end Linked

namespace LinkedTable

section

variable {α : Type} (linked : LinkedTable V) (layout : Layout V) (event : Event)
  (action : Action V α) (result : Except RouteError α) (state : Table V) (events : List Event)

theorem consults_report (later : linked.Consults layout action result state events) :
    linked.Consults layout (do
      Linked.report event
      action) result state (event :: events) := by
  obtain ⟨cache, ends, represented⟩ := later
  exact ⟨cache, Linked.ends_bind (Linked.ends_report linked event) ends, represented⟩

theorem follows_report (later : linked.Follows action result state events) :
    linked.Follows (do
      Linked.report event
      action) result state (event :: events) := by
  obtain ⟨next, left, ends, represented⟩ := later
  exact ⟨next, left, Linked.ends_bind (Linked.ends_report linked event) ends, represented⟩

end

section

variable (linked : LinkedTable V) (table : Table V) (layout : Layout V)
  (represents : linked.Represents table layout)
include represents

/-! ## Commands -/

theorem ends_dump_statistics :
    Linked.Ends Linked.dumpStatistics linked (.ok table.dumpStatistics.value) linked
      table.dumpStatistics.events := by
  refine Linked.ends_read (reads_statistics linked table layout represents) ?_
  exact Linked.ends_last _ (Linked.ends_report linked _) (Linked.reads_pure linked _)

theorem reads_needs_refresh : Linked.Reads Linked.needsRefresh linked table.cache.stale := by
  refine Linked.reads_bind _ (Linked.reads_table linked) ?_
  rw [represents.cache]
  exact Linked.reads_pure linked _

theorem reads_describe : Linked.Reads Linked.describe linked table.describe := by
  refine Linked.reads_bind _ (Linked.reads_table linked) ?_
  rw [represents_count linked table layout represents,
    represents_nodes linked table layout represents, represents.strategy, represents.cache]
  exact Linked.reads_pure linked _

section

variable (control : Option (VerbositySwitch σ))

theorem switch_consults (verbose : Bool) :
    linked.Consults layout (Linked.switchVerbosity control verbose)
      (.ok ((DiagnosticCommand.switchVerbosity ⟨table, control⟩ verbose).result,
        (DiagnosticCommand.switchVerbosity ⟨table, control⟩ verbose).state.control))
      (DiagnosticCommand.switchVerbosity ⟨table, control⟩ verbose).state.table
      (DiagnosticCommand.switchVerbosity ⟨table, control⟩ verbose).events := by
  cases control with
  | none =>
      exact consults_ends linked table layout represents _ _ _
        (Linked.ends_of_reads (Linked.reads_pure linked _))
  | some control =>
      have reports := ends_reports linked (control.use verbose).events fun event => event
      rw [List.map_id'] at reports
      exact consults_ends linked table layout represents _ _ _
        (Linked.ends_last _ reports (Linked.reads_pure linked _))

theorem trace_consults :
    linked.Consults layout (Linked.perform .dumpTable control)
      (.ok (.ok (.tree table.traceTree), control)) table
      (DiagnosticCommand.perform .dumpTable ⟨table, control⟩).events := by
  refine consults_read linked layout _ _ _ _ _ _
    (reads_trace_tree linked table layout represents) ?_
  refine consults_ends linked table layout represents _ _ _ ?_
  have reports := ends_reports linked (lines table.traceTree) DiagnosticCommand.note
  simp only [DiagnosticCommand.perform, List.append_assoc]
  refine Linked.ends_bind (Linked.ends_report linked _) (Linked.ends_bind reports ?_)
  exact Linked.ends_last _ (Linked.ends_report linked _) (Linked.reads_pure linked _)

theorem execute_consults (command : DiagnosticCommand) (reads : command.reads = true) :
    linked.Consults layout (Linked.execute command control)
      (.ok ((command.execute ⟨table, control⟩).result,
        (command.execute ⟨table, control⟩).state.control))
      (command.execute ⟨table, control⟩).state.table (command.execute ⟨table, control⟩).events := by
  refine consults_report linked layout _ _ _ _ _ ?_
  cases command with
  | dumpStats =>
      exact consults_last linked layout _ _ _ _ _ (consults_ends linked table layout represents _ _ _
        (ends_dump_statistics linked table layout represents))
  | dumpTable => exact trace_consults linked table layout represents control
  | dumpQuickMatches =>
      exact consults_last linked layout _ _ _ _ _ (dump_consults linked table layout represents)
  | _ => cases reads

theorem execute_refines (command : DiagnosticCommand) :
    linked.Follows (Linked.execute command control)
      (.ok ((command.execute ⟨table, control⟩).result,
        (command.execute ⟨table, control⟩).state.control))
      (command.execute ⟨table, control⟩).state.table (command.execute ⟨table, control⟩).events := by
  cases reads : command.reads with
  | true =>
      exact consults_follows linked layout _ _ _ _
        (execute_consults linked table layout represents control command reads)
  | false =>
      refine follows_report linked _ _ _ _ _ ?_
      cases command with
      | setStrategy strategy =>
          exact follows_last linked _ (fun _ => (Except.ok (DiagnosticReport.strategy strategy), control)) _ _ _
            (set_strategy_refines linked table layout represents strategy)
      | enableVerboseLogs =>
          exact consults_follows linked layout _ _ _ _
            (switch_consults linked table layout represents control true)
      | disableVerboseLogs =>
          exact consults_follows linked layout _ _ _ _
            (switch_consults linked table layout represents control false)
      | _ => cases reads

/-! ## Calls -/

theorem call_consults (call : Call V) (reads : call.reads = true) :
    linked.Consults layout (Linked.call call control)
      (.ok ((DiagnosticSubject.call ⟨table, control⟩ call).result, control))
      (DiagnosticSubject.call ⟨table, control⟩ call).state.table
      (DiagnosticSubject.call ⟨table, control⟩ call).events := by
  have shows : ∀ {α : Type} (action : Action V α) (reply : α → Reply V) (shown : α)
      (events : List Event), Linked.Ends action linked (.ok shown) linked events →
        linked.Consults layout (do pure (reply (← action), control)) (.ok (reply shown, control))
          table events :=
    fun _ _ _ _ ends => consults_last linked layout _ _ _ _ _
      (consults_ends linked table layout represents _ _ _ ends)
  cases call with
  | serve request =>
      exact consults_last linked layout _ _ _ _ _
        (serve_consults linked table layout represents request reads)
  | execute command =>
      have executes := execute_consults linked table layout represents control command reads
      cases command with
      | dumpStats => exact consults_last linked layout _ _ _ _ _ executes
      | dumpTable => exact consults_last linked layout _ _ _ _ _ executes
      | dumpQuickMatches => exact consults_last linked layout _ _ _ _ _ executes
      | _ => cases reads
  | isEmpty =>
      have empty := reads_is_empty linked table layout represents
      rw [table.nodeless_rootless] at empty
      exact shows _ _ _ _ (Linked.ends_of_reads empty)
  | needsRefresh =>
      exact shows _ _ _ _
        (Linked.ends_of_reads (reads_needs_refresh linked table layout represents))
  | strategy =>
      have read := shows _ (fun table => Reply.strategy table.strategy) _ _
        (Linked.ends_of_reads (Linked.reads_table linked))
      rwa [represents.strategy] at read
  | config =>
      have read := shows _ (fun table => Reply.config table.config) _ _
        (Linked.ends_of_reads (Linked.reads_table linked))
      rwa [represents.config] at read
  | dumpStatistics =>
      exact shows _ _ _ _ (ends_dump_statistics linked table layout represents)
  | describe =>
      exact shows _ _ _ _ (Linked.ends_of_reads (reads_describe linked table layout represents))

theorem call_refines (call : Call V) :
    linked.Follows (Linked.call call control)
      (.ok ((DiagnosticSubject.call ⟨table, control⟩ call).result,
        (DiagnosticSubject.call ⟨table, control⟩ call).state.control))
      (DiagnosticSubject.call ⟨table, control⟩ call).state.table
      (DiagnosticSubject.call ⟨table, control⟩ call).events := by
  cases call with
  | serve request =>
      exact follows_last linked _ _ _ _ _ (serve_refines linked table layout represents request)
  | execute command =>
      exact follows_last linked _ _ _ _ _
        (execute_refines linked table layout represents control command)
  | _ =>
      exact consults_follows linked layout _ _ _ _
        (call_consults linked table layout represents control _ rfl)

theorem blind_serve (request : Request V) (alters : request.reads = false) :
    Linked.BlindAt (Linked.serve request) linked := by
  cases request with
  | setRoute key value =>
      exact Linked.blind_last (Linked.blind_attempt
        (blind_set_route linked table layout represents key value)) fun _ => Linked.blind_pure _
  | removeRoute key =>
      exact Linked.blind_last (Linked.blind_attempt
        (blind_remove_route linked table layout represents key)) fun _ => Linked.blind_pure _
  | removeValue value =>
      exact Linked.blind_last (blind_remove_value linked table layout represents value) fun _ =>
        Linked.blind_pure _
  | setComparator eqv =>
      exact Linked.blind_last (blind_set_comparator linked table layout represents eqv) fun _ =>
        Linked.blind_pure _
  | setStrategy strategy =>
      exact Linked.blind_last (Linked.blind_set_strategy strategy linked) fun _ =>
        Linked.blind_pure _
  | _ => cases alters

theorem blind_call (call : Call V) (alters : call.reads = false) :
    Linked.BlindAt (Linked.call call control) linked := by
  cases call with
  | serve request =>
      exact Linked.blind_last (blind_serve linked table layout represents request alters) fun _ =>
        Linked.blind_pure _
  | execute command =>
      exact Linked.blind_last (Linked.blind_execute command control alters linked) fun _ =>
        Linked.blind_pure _
  | _ => cases alters

end

end

/-! ## Runs -/

theorem call_all_refines (calls : List (Call V)) (linked : LinkedTable V)
    (subject : DiagnosticSubject V σ) (layout : Layout V)
    (represents : linked.Represents subject.table layout) :
    linked.Follows (Linked.callAll calls subject.control)
      (.ok ((subject.callAll calls).result, (subject.callAll calls).state.control))
      (subject.callAll calls).state.table (subject.callAll calls).events := by
  induction calls generalizing linked subject layout with
  | nil => exact ⟨linked, layout, Linked.ends_of_reads (Linked.reads_pure linked _), represents⟩
  | cons first later ih =>
      refine follows_bind linked _ _ _ _ _ _ _ _
        (call_refines linked subject.table layout represents subject.control first) ?_
      intro next left represented
      exact follows_last next _ (fun rest => ((subject.call first).result :: rest.1, rest.2)) _ _ _
        (ih next (subject.call first).state left represented)

end LinkedTable

end TopicRouting
