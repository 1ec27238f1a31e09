set_option autoImplicit false

namespace TopicRouting

inductive Level where
  | error
  | warn
  | info
  | debug
  | trace
deriving DecidableEq, Repr

def Level.name : Level → String
  | .error => "error"
  | .warn => "warn"
  | .info => "info"
  | .debug => "debug"
  | .trace => "trace"

def Level.rank : Level → Nat
  | .error => 1
  | .warn => 2
  | .info => 3
  | .debug => 4
  | .trace => 5

inductive Origin where
  | table
  | diagnostics
  | routeFile
  | logging
  | failure
  | driver
deriving DecidableEq, Repr

def Origin.target : Origin → String
  | .table => "topic_router_lib::data_structures::routing_table"
  | .diagnostics => "topic_router_lib::diagnostics"
  | .routeFile => "topic_router_lib::route_file"
  | .logging => "topic_router_lib::logging"
  | .failure => "topic_router_lib::error"
  | .driver => "topic_router"

inductive FieldValue where
  | text (content : String)
  | number (count : Nat)
deriving DecidableEq, Repr

def FieldValue.display : FieldValue → String
  | .text content => content
  | .number count => toString count

structure Event where
  level : Level
  origin : Origin
  message : String
  fields : List (String × FieldValue)
deriving DecidableEq, Repr

universe u v

structure Logged (α : Type u) where
  value : α
  events : List Event

structure Outcome (σ : Type u) (α : Type v) where
  result : α
  state : σ
  events : List Event

end TopicRouting
