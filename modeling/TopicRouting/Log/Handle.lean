import TopicRouting.Diagnostics.Report
import TopicRouting.Log.Filter

set_option autoImplicit false

namespace TopicRouting

structure LogHandle where
  active : Option LogFilter
  level : String
  verboseLevel : String
deriving DecidableEq, Repr

namespace LogHandle

-- The handle of a new log; a filter set from outside goes before the level of the settings.
def new (level verboseLevel : String) (override : Option String) : LogHandle :=
  let filter :=
    match override.map LogFilter.parse with
    | some (.ok filter) => filter
    | _ => LogFilter.parseLossy level
  ⟨some filter, level, verboseLevel⟩

def currentFilter (handle : LogHandle) : Option String :=
  handle.active.map LogFilter.display

def passes (handle : LogHandle) (event : Event) : Bool :=
  handle.active.any fun filter => filter.passes event

def dropLog (handle : LogHandle) : LogHandle := { handle with active := none }

def setLevel (handle : LogHandle) (directives : String) :
    Outcome LogHandle (Except DiagnosticError Unit) :=
  match LogFilter.parse directives with
  | .error error => ⟨.error (.verbosity error.message), handle, []⟩
  | .ok filter =>
    match handle.active with
    | none => ⟨.error (.verbosity "subscriber no longer exists"), handle, []⟩
    | some _ => ⟨.ok (), { handle with active := some filter }, []⟩

def setVerbose (handle : LogHandle) (verbose : Bool) :
    Outcome LogHandle (Except DiagnosticError Unit) :=
  let level := if verbose then handle.verboseLevel else handle.level
  let changed := handle.setLevel level
  match changed.result with
  | .error _ => changed
  | .ok () =>
    { changed with
      events := [⟨.info, .logging, "Log level changed", [("level", .text level)]⟩] }

def switch (handle : LogHandle) : VerbositySwitch LogHandle := ⟨handle, setVerbose⟩

end LogHandle

end TopicRouting
