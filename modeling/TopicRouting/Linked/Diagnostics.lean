import TopicRouting.Diagnostics.Report
import TopicRouting.Linked.Report

set_option autoImplicit false

namespace TopicRouting.Linked

variable {V σ : Type}

def needsRefresh : Action V Bool := do
  pure (← table).cache.stale

def description (roots nodes : Nat) (strategy : Strategy) (stale : Bool) : String :=
  "RoutingTable \x7b roots: " ++ toString roots ++ ", nodes: " ++ toString nodes ++ ", strategy: "
    ++ strategy.label ++ ", quick_match_stale: " ++ (if stale then "true" else "false") ++ " \x7d"

def describe : Action V String := do
  let table ← table
  pure (description table.directory.count table.arena.live table.strategy table.cache.stale)

def dumpStatistics : Action V Stats := do
  let counters ← statistics
  report (Journal.note counters.display)
  pure counters

abbrev Executed (σ : Type) :=
  Except DiagnosticError DiagnosticReport × Option (VerbositySwitch σ)

def switchVerbosity (control : Option (VerbositySwitch σ)) (verbose : Bool) :
    Action V (Executed σ) :=
  match control with
  | none => pure (.error (.verbosity "no log handle installed"), none)
  | some control => do
    let used := control.use verbose
    used.events.forM fun event => report event
    pure (used.result.map fun () => .verbosity verbose, some used.state)

def perform (command : DiagnosticCommand) (control : Option (VerbositySwitch σ)) :
    Action V (Executed σ) :=
  match command with
  | .dumpStats => do pure (.ok (.stats (← dumpStatistics)), control)
  | .dumpTable => do
    let trace ← traceTree
    report (DiagnosticCommand.note "Begin routing table trace")
    (lines trace).forM fun line => report (DiagnosticCommand.note line)
    report (DiagnosticCommand.note "End routing table trace")
    pure (.ok (.tree trace), control)
  | .dumpQuickMatches => do
    pure (.ok (.quickMatch ((← dumpQuickMatches).map QuickMatch.path)), control)
  | .setStrategy strategy => do
    setStrategy strategy
    pure (.ok (.strategy strategy), control)
  | .enableVerboseLogs => switchVerbosity control true
  | .disableVerboseLogs => switchVerbosity control false

def execute (command : DiagnosticCommand) (control : Option (VerbositySwitch σ)) :
    Action V (Executed σ) := do
  report ⟨.info, .diagnostics, "Executing diagnostic command", [("command", .text command.name)]⟩
  perform command control

end TopicRouting.Linked
