import TopicRouting.Table.Error
import TopicRouting.Table.Strategy
import TopicRouting.Text.Lines

set_option autoImplicit false

namespace TopicRouting

def version : String := "0.1.0"

inductive DiagnosticError where
  | unknownCommand (name : String)
  | route (error : RouteError)
  | verbosity (reason : String)
deriving DecidableEq, Repr

def DiagnosticError.message : DiagnosticError → String
  | .unknownCommand name => "Unknown diagnostic command: " ++ name
  | .route error => "Routing table error: " ++ error.message
  | .verbosity reason => "Cannot change log verbosity: " ++ reason

inductive DiagnosticCommand where
  | dumpStats
  | dumpTable
  | dumpQuickMatches
  | setStrategy (strategy : Strategy)
  | enableVerboseLogs
  | disableVerboseLogs
deriving DecidableEq, Repr

namespace DiagnosticCommand

def all : List DiagnosticCommand :=
  [.dumpStats, .dumpTable, .dumpQuickMatches]
    ++ Strategy.all.map .setStrategy ++ [.enableVerboseLogs, .disableVerboseLogs]

def name : DiagnosticCommand → String
  | .dumpStats => "dumpRoutingStats"
  | .dumpTable => "dumpRoutingTable"
  | .dumpQuickMatches => "dumpQuickMatchExpressions"
  | .setStrategy .exhaustive => "rStrategyNormal"
  | .setStrategy .earlyExit => "rStrategyOptimization1"
  | .setStrategy .quickCache => "rStrategyOptimization2"
  | .enableVerboseLogs => "enableVerboseLogs"
  | .disableVerboseLogs => "disableVerboseLogs"

def description : DiagnosticCommand → String
  | .dumpStats => "dump the number of nodes and root nodes in the routing table"
  | .dumpTable => "dump the routing tree itself"
  | .dumpQuickMatches => "dump the quick-match expressions used by the quick-cache lookup"
  | .setStrategy .exhaustive => "set the routing strategy to exhaustive (slowest)"
  | .setStrategy .earlyExit => "set the routing strategy to early-exit (faster)"
  | .setStrategy .quickCache => "set the routing strategy to quick-cache (fastest, default)"
  | .enableVerboseLogs => "enable debug level logs"
  | .disableVerboseLogs => "restore the configured log level"

def helpLines : List String :=
  all.map fun command => command.name ++ " - " ++ command.description

def help : String := unlines helpLines

def parse (text : String) : Except DiagnosticError DiagnosticCommand :=
  let name := trimBlanks text
  match all.find? fun command => command.name == name with
  | some command => .ok command
  | none => .error (.unknownCommand name)

end DiagnosticCommand

end TopicRouting
