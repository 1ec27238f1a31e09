import TopicRouting.CommandLine.Session
import TopicRouting.Log.Line

set_option autoImplicit false

namespace TopicRouting

inductive Ending where
  | done
  | failed
  | unsettled (error : SettingsError)
  | stopped (stop : ArgumentStop)
deriving DecidableEq, Repr

namespace Ending

def code : Ending → Nat
  | .done | .stopped .help | .stopped .version => 0
  | .failed | .unsettled _ => 1
  | .stopped .misuse => 2

def errorText : Ending → String
  | .unsettled error => "Configuration error: " ++ error.message ++ "\n"
  | _ => ""

end Ending

structure Execution where
  ending : Ending
  printed : List Output
  jsonLog : Bool
  files : FileTree

def settingsPrefix : String := "TOPIC_ROUTER"

def filterVariable : String := "RUST_LOG"

namespace Execution

def early (files : FileTree) (ending : Ending) (printed : List Output) : Execution :=
  ⟨ending, printed, false, files⟩

def ofCommand (files : FileTree) (environment : List (String × String)) (settings : Settings)
    (routesPath : Option String) (command : RouterCommand) : Execution :=
  let override := (environment.find? fun entry => entry.1 = filterVariable).map Prod.snd
  let handle := LogHandle.new settings.log.level settings.log.verboseLevel override
  let (result, console) := (Session.execute settings routesPath command).run.run
    { files := files, handle := handle }
  match result with
  | .ok () => ⟨.done, console.printed.reverse, settings.log.json, console.files⟩
  | .error error =>
    let failure := (Failure.ofError error).withDetails command.describe
    let console := console.report [failure.event]
    ⟨.failed, console.printed.reverse, settings.log.json, console.files⟩

def ofArguments (files : FileTree) (environment : List (String × String))
    (arguments : List String) : Execution :=
  match Invocation.parse arguments with
  | .error .version =>
    early files (.stopped .version) [.line ("topic_router " ++ TopicRouting.version)]
  | .error stop => early files (.stopped stop) []
  | .ok invocation =>
    match Settings.load files environment invocation.settingsPath settingsPrefix with
    | .error error => early files (.unsettled error) []
    | .ok settings =>
      ofCommand files environment settings invocation.routesPath invocation.command

def lines (execution : Execution) : List String :=
  execution.printed.filterMap fun
    | .line text => some text
    | .event _ => none

def events (execution : Execution) : List Event :=
  execution.printed.filterMap fun
    | .line _ => none
    | .event event => some event

end Execution

end TopicRouting
