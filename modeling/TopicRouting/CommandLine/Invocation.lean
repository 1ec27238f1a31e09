import TopicRouting.CommandLine.Arguments
import TopicRouting.CommandLine.Command

set_option autoImplicit false

namespace TopicRouting

structure Invocation where
  settingsPath : Option String
  routesPath : Option String
  command : RouterCommand
deriving DecidableEq, Repr

namespace Invocation

def pathOption (short : Char) (long : String) : ValueOption :=
  ⟨short, long, fun value => !value.isEmpty⟩

def strategyOption : ValueOption :=
  ⟨'s', "strategy", fun value => (Strategy.parse value).toOption.isSome⟩

def headRules : ArgumentRules :=
  { options := [pathOption 'c' "config", pathOption 'r' "routes"], room := none, version := true }

def plainRules (room : Nat) : ArgumentRules := { options := [], room := some room }

def single (rest : List String) : Except ArgumentStop String :=
  match Arguments.read (plainRules 1) {} rest with
  | .ok ⟨_, [operand]⟩ => .ok operand
  | .ok _ => .error .misuse
  | .error stop => .error stop

def commandNames : List String :=
  ["lookup", "owner", "endpoints", "diag", "validate", "gen-config", "help"]

def readCommand (name : String) (rest : List String) : Except ArgumentStop RouterCommand :=
  match name with
  | "lookup" =>
    match Arguments.read { options := [strategyOption], room := none } {} rest with
    | .error stop => .error stop
    | .ok arguments =>
      if arguments.operands.isEmpty then .error .misuse
      else
        let strategy := (arguments.value? 's').bind fun value => (Strategy.parse value).toOption
        .ok (.lookup strategy arguments.operands)
  | "owner" => (single rest).map .owner
  | "endpoints" => (single rest).map .endpoints
  | "diag" =>
    (Arguments.read (plainRules 1) {} rest).map fun arguments =>
      .diagnose arguments.operands.head?
  | "validate" => (Arguments.read (plainRules 0) {} rest).map fun _ => .validate
  | "gen-config" =>
    let rules : ArgumentRules := { options := [pathOption 'o' "output"], room := some 0 }
    match Arguments.read rules {} rest with
    | .error stop => .error stop
    | .ok arguments =>
      match arguments.value? 'o' with
      | some output => .ok (.writeSettings output)
      | none => .error .misuse
  | "help" =>
    .error (if rest.length ≤ 1 && rest.all commandNames.contains then .help else .misuse)
  | _ => .error .misuse

def parse (arguments : List String) : Except ArgumentStop Invocation :=
  match Arguments.readHead headRules {} arguments with
  | .error stop => .error stop
  | .ok (head, name, rest) =>
    (readCommand name rest).map fun command => ⟨head.value? 'c', head.value? 'r', command⟩

end Invocation

end TopicRouting
