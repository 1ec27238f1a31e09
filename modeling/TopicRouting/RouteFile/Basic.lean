import TopicRouting.Files.Tree
import TopicRouting.Table.Registration
import TopicRouting.Toml.Quoted
import TopicRouting.Toml.Reader

set_option autoImplicit false

namespace TopicRouting

structure RouteSpec where
  topic : String
  destination : String
deriving DecidableEq, Repr

structure RouteFile where
  routes : List RouteSpec
deriving DecidableEq, Repr

def RouteSpec.ofToml? : Toml → Option RouteSpec
  | .table _ entries =>
    match TomlEntries.get? entries "topic", TomlEntries.get? entries "destination" with
    | some (.string topic), some (.string destination) => some ⟨topic, destination⟩
    | _, _ => none
  | .array (.string topic :: .string destination :: _) => some ⟨topic, destination⟩
  | _ => none

def RouteSpec.lines (route : RouteSpec) : String :=
  "[[route]]\ntopic = " ++ Toml.quote route.topic ++ "\ndestination = "
    ++ Toml.quote route.destination ++ "\n"

namespace RouteFile

def ofEntries? (entries : TomlEntries) : Option RouteFile :=
  match entries.get? "route" with
  | none => some ⟨[]⟩
  | some (.array items) | some (.tables items) =>
    (items.mapM RouteSpec.ofToml?).map fun routes => ⟨routes⟩
  | some _ => none

def parse (text : String) : Except RouterError RouteFile :=
  match (Toml.read? .full text).bind ofEntries? with
  | some file => .ok file
  | none => .error .tomlRead

def load (files : FileTree) (path : String) : Except RouterError RouteFile :=
  match files.readText path with
  | .ok text => parse text
  | .error error => .error (.file error)

def toToml (file : RouteFile) : String :=
  match file.routes with
  | [] => "route = []\n"
  | routes => "\n".intercalate (routes.map RouteSpec.lines)

def loadedEvent (route : RouteSpec) : Event :=
  ⟨.debug, .routeFile, "Route loaded",
    [("topic", .text route.topic), ("destination", .text route.destination)]⟩

def register (table : Table String) : List RouteSpec →
    Outcome (Table String) (Except RouteError Unit)
  | [] => ⟨.ok (), table, []⟩
  | route :: rest =>
    let first := table.setRoute route.topic route.destination
    match first.result with
    | .error error => ⟨.error error, first.state, first.events⟩
    | .ok () =>
      let others := register first.state rest
      { others with events := first.events ++ loadedEvent route :: others.events }

def apply (file : RouteFile) (table : Table String) :
    Outcome (Table String) (Except RouterError Nat) :=
  let done := register table file.routes
  ⟨match done.result with
    | .ok () => .ok file.routes.length
    | .error error => .error (.route error),
    done.state, done.events⟩

end RouteFile

end TopicRouting
