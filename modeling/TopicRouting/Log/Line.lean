import TopicRouting.Json.Basic
import TopicRouting.Log.Event

set_option autoImplicit false

namespace TopicRouting

def Level.label : Level → String
  | .error => "ERROR"
  | .warn => "WARN"
  | .info => "INFO"
  | .debug => "DEBUG"
  | .trace => "TRACE"

def FieldValue.toJson : FieldValue → Json
  | .text content => .string content
  | .number count => .integer count

namespace Event

def toJson (event : Event) : Json :=
  .object
    [("level", .string event.level.label), ("target", .string event.origin.target),
      ("fields", .object
        (("message", .string event.message)
          :: event.fields.map fun (name, value) => (name, value.toJson)))]

def line (event : Event) : String :=
  event.fields.foldl (fun text (name, value) => text ++ " " ++ name ++ "=" ++ value.display)
    (event.level.label ++ " " ++ event.origin.target ++ ": " ++ event.message)

end Event

end TopicRouting
