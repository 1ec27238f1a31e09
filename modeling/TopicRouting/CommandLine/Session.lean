import TopicRouting.CommandLine.Invocation
import TopicRouting.Failure.Context
import TopicRouting.Log.Handle
import TopicRouting.RouteFile.Basic
import TopicRouting.Settings.Load
import TopicRouting.Table.Report

set_option autoImplicit false

namespace TopicRouting

inductive Output where
  | line (text : String)
  | event (event : Event)
deriving DecidableEq, Repr

structure Console where
  files : FileTree
  handle : LogHandle
  printed : List Output := []

abbrev Session := ExceptT RouterError (StateM Console)

namespace Console

def say (text : String) (console : Console) : Console :=
  { console with printed := ((lines text).map Output.line).reverse ++ console.printed }

def report (events : List Event) (console : Console) : Console :=
  let passing := events.filter console.handle.passes
  { console with printed := (passing.map Output.event).reverse ++ console.printed }

end Console

namespace Session

def say (text : String) : Session Unit := modify (Console.say (text ++ "\n"))

def report (events : List Event) : Session Unit := modify (Console.report events)

def note (level : Level) (message : String) : Session Unit :=
  report [⟨level, .driver, message, []⟩]

def ofExcept {ε α : Type} (asError : ε → RouterError) (result : Except ε α) : Session α :=
  match result with
  | .ok value => pure value
  | .error error => throw (asError error)

def buildTable (settings : Settings) (routesPath : Option String) : Session (Table String) := do
  let config ← ofExcept .settings settings.routing.tableConfig
  match routesPath with
  | none =>
    note .warn "No route file given, routing table is empty"
    return .ofConfig config
  | some path =>
    let file ← ofExcept id (RouteFile.load (← get).files path)
    let loaded := file.apply (.ofConfig config)
    report loaded.events
    let count ← ofExcept id loaded.result
    note .info ("Loaded " ++ toString count ++ " routes from " ++ Quoted.text path)
    return loaded.state

-- Resolves topics one after the other; only a missing route is no failure.
def lookupAll (table : Table String) : List String → Session Unit
  | [] => pure ()
  | topic :: rest => do
    let found := table.lookup topic
    report found.events
    match found.result with
    | .ok destination => say (topic ++ " -> " ++ destination)
    | .error (.notFound _) => say (topic ++ " -> (no route)")
    | .error error => throw (.route error)
    lookupAll found.state rest

-- Runs a diagnostic command. Its first event comes before it can change the filter.
def diagnose (command : DiagnosticCommand) (table : Table String) : Session Unit := do
  let subject : DiagnosticSubject String LogHandle := ⟨table, some (← get).handle.switch⟩
  let done := command.execute subject
  report (done.events.take 1)
  match done.state.control with
  | some control => modify fun console => { console with handle := control.state }
  | none => pure ()
  report (done.events.drop 1)
  let shown ← ofExcept .diagnostic done.result
  say shown.display

def writeSettings (output : String) : Session Unit := do
  note .info "Generating default configuration"
  let text ← ofExcept id (Settings.toToml {})
  let files ← ofExcept .file ((← get).files.writeTextWithParents output text)
  modify fun console => { console with files := files }
  note .info ("Default configuration written to " ++ Quoted.text output)

def execute (settings : Settings) (routesPath : Option String) : RouterCommand → Session Unit
  | .lookup strategy topics => do
    let table ← buildTable settings routesPath
    match strategy with
    | none => lookupAll table topics
    | some strategy =>
      let changed := table.setStrategy strategy
      report changed.events
      lookupAll changed.state topics
  | .owner destination => do
    let table ← buildTable settings routesPath
    (table.keysRoutedTo destination).forM say
  | .endpoints expression => do
    let table ← buildTable settings routesPath
    let found := table.endpoints expression
    report found.events
    let entries ← ofExcept .route found.value
    entries.forM fun entry => say (entry.path ++ " -> " ++ entry.value)
  | .diagnose none => DiagnosticCommand.helpLines.forM say
  | .diagnose (some name) => do
    let command ← ofExcept .diagnostic (DiagnosticCommand.parse name)
    diagnose command (← buildTable settings routesPath)
  | .validate => do
    note .info "Validating configuration"
    let _ ← buildTable settings routesPath
    note .info "Configuration validated successfully"
  | .writeSettings output => writeSettings output

end Session

end TopicRouting
