import TopicRouting.Diagnostics.Command
import TopicRouting.Table.Report

set_option autoImplicit false

namespace TopicRouting

universe u v

inductive DiagnosticReport where
  | stats (counters : Stats)
  | tree (trace : String)
  | quickMatch (paths : List String)
  | strategy (selected : Strategy)
  | verbosity (verbose : Bool)
deriving DecidableEq, Repr

def DiagnosticReport.display : DiagnosticReport → String
  | .stats counters => counters.display
  | .tree trace => "Begin routing table trace:\n" ++ trace ++ "End routing table trace."
  | .quickMatch paths =>
    "Begin quick match expressions:\n"
      ++ unlines (paths.zipIdx.map fun (path, index) =>
        "Expression #" ++ toString (index + 1) ++ " " ++ path)
      ++ "End quick match expressions."
  | .strategy selected => "Routing strategy set to " ++ selected.name
  | .verbosity true => "Verbose logs enabled"
  | .verbosity false => "Verbose logs disabled"

structure VerbositySwitch (σ : Type v) where
  state : σ
  setVerbose : σ → Bool → Outcome σ (Except DiagnosticError Unit)

def VerbositySwitch.use {σ : Type v} (control : VerbositySwitch σ) (verbose : Bool) :
    Outcome (VerbositySwitch σ) (Except DiagnosticError Unit) :=
  let done := control.setVerbose control.state verbose
  ⟨done.result, { control with state := done.state }, done.events⟩

structure DiagnosticSubject (V : Type u) (σ : Type v) where
  table : Table V
  control : Option (VerbositySwitch σ)

namespace DiagnosticCommand

variable {V : Type u} {σ : Type v}

def note (message : String) : Event := ⟨.info, .diagnostics, message, []⟩

def switchVerbosity (subject : DiagnosticSubject V σ) (verbose : Bool) :
    Outcome (DiagnosticSubject V σ) (Except DiagnosticError DiagnosticReport) :=
  match subject.control with
  | none => ⟨.error (.verbosity "no log handle installed"), subject, []⟩
  | some control =>
    let used := control.use verbose
    ⟨used.result.map fun () => .verbosity verbose, { subject with control := some used.state },
      used.events⟩

def perform (command : DiagnosticCommand) (subject : DiagnosticSubject V σ) :
    Outcome (DiagnosticSubject V σ) (Except DiagnosticError DiagnosticReport) :=
  match command with
  | .dumpStats =>
    let dumped := subject.table.dumpStatistics
    ⟨.ok (.stats dumped.value), subject, dumped.events⟩
  | .dumpTable =>
    let trace := subject.table.traceTree
    ⟨.ok (.tree trace), subject,
      [note "Begin routing table trace"] ++ (lines trace).map note
        ++ [note "End routing table trace"]⟩
  | .dumpQuickMatches =>
    let dumped := subject.table.dumpQuickMatches
    ⟨.ok (.quickMatch (dumped.result.map QuickMatch.path)),
      { subject with table := dumped.state }, dumped.events⟩
  | .setStrategy strategy =>
    let changed := subject.table.setStrategy strategy
    ⟨.ok (.strategy strategy), { subject with table := changed.state }, changed.events⟩
  | .enableVerboseLogs => switchVerbosity subject true
  | .disableVerboseLogs => switchVerbosity subject false

def execute (command : DiagnosticCommand) (subject : DiagnosticSubject V σ) :
    Outcome (DiagnosticSubject V σ) (Except DiagnosticError DiagnosticReport) :=
  let done := command.perform subject
  { done with
    events := ⟨.info, .diagnostics, "Executing diagnostic command",
      [("command", .text command.name)]⟩ :: done.events }

end DiagnosticCommand

end TopicRouting
