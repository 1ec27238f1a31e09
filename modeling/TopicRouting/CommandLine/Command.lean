import TopicRouting.Table.Strategy
import TopicRouting.Text.Quoted

set_option autoImplicit false

namespace TopicRouting

inductive RouterCommand where
  | lookup (strategy : Option Strategy) (topics : List String)
  | owner (destination : String)
  | endpoints (expression : String)
  | diagnose (name : Option String)
  | validate
  | writeSettings (output : String)
deriving DecidableEq, Repr

namespace RouterCommand

def record (name : String) (fields : List (String × String)) : String :=
  name ++ " \x7b " ++ ", ".intercalate (fields.map fun (field, value) => field ++ ": " ++ value)
    ++ " \x7d"

def optional : Option String → String
  | some value => "Some(" ++ value ++ ")"
  | none => "None"

def describe : RouterCommand → String
  | .lookup strategy topics =>
    record "Lookup"
      [("strategy", optional (strategy.map Strategy.label)),
        ("topics", "[" ++ ", ".intercalate (topics.map Quoted.text) ++ "]")]
  | .owner destination => record "Owner" [("destination", Quoted.text destination)]
  | .endpoints expression => record "Endpoints" [("expression", Quoted.text expression)]
  | .diagnose name => record "Diag" [("name", optional (name.map Quoted.text))]
  | .validate => "Validate"
  | .writeSettings output => record "GenConfig" [("output", Quoted.text output)]

end RouterCommand

end TopicRouting
