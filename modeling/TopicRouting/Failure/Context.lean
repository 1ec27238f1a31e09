import TopicRouting.Failure.Basic
import TopicRouting.Log.Event

set_option autoImplicit false

namespace TopicRouting

structure Failure where
  error : RouterError
  component : Component
  topic : Option String
  details : Option String
deriving DecidableEq, Repr

namespace Failure

def ofError (error : RouterError) : Failure :=
  ⟨error, error.component, error.routeError?.bind RouteError.key?, none⟩

def withTopic (failure : Failure) (topic : String) : Failure :=
  { failure with topic := some topic }

def withDetails (failure : Failure) (details : String) : Failure :=
  { failure with details := some details }

def display (failure : Failure) : String :=
  "Error in " ++ failure.component.name
    ++ (match failure.topic with
      | some topic => " for topic '" ++ topic ++ "'"
      | none => "")
    ++ ": " ++ failure.error.message
    ++ (match failure.details with
      | some details => "\nDetails: " ++ details
      | none => "")

def event (failure : Failure) : Event :=
  ⟨.error, .failure, "Command failed",
    [("error", .text failure.error.message), ("component", .text failure.component.name),
      ("topic", .text (failure.topic.getD "-")), ("details", .text (failure.details.getD "-"))]⟩

end Failure

end TopicRouting
