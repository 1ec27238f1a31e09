set_option autoImplicit false

namespace TopicRouting

inductive ArgumentStop where
  | help
  | version
  | misuse
deriving DecidableEq, Repr

structure ValueOption where
  short : Char
  long : String
  valid : String → Bool

structure ArgumentRules where
  options : List ValueOption
  room : Option Nat
  version : Bool := false

inductive ArgumentForm where
  | operand
  | attached (option : ValueOption) (value : String)
  | detached (option : ValueOption)
  | stop (stop : ArgumentStop)

namespace ArgumentForm

def ofShort (rules : ArgumentRules) (letter : Char) (rest : List Char) : ArgumentForm :=
  match rules.options.find? fun option => option.short = letter with
  | some option =>
    match rest with
    | [] => .detached option
    | '=' :: value => .attached option (String.ofList value)
    | value => .attached option (String.ofList value)
  | none =>
    if letter = 'h' then .stop .help
    else if letter = 'V' && rules.version then .stop .version
    else .stop .misuse

def ofLong (rules : ArgumentRules) (name : String) (rest : List Char) : ArgumentForm :=
  match rules.options.find? fun option => option.long = name, rest with
  | some option, [] => .detached option
  | some option, _ :: value => .attached option (String.ofList value)
  | none, _ :: _ => .stop .misuse
  | none, [] =>
    if name = "help" then .stop .help
    else if name = "version" && rules.version then .stop .version
    else .stop .misuse

-- What an argument is that does not end the options. A single hyphen is no option.
def ofArgument (rules : ArgumentRules) (argument : String) : ArgumentForm :=
  match argument.toList with
  | '-' :: '-' :: rest =>
    ofLong rules (String.ofList (rest.takeWhile (· ≠ '='))) (rest.dropWhile (· ≠ '='))
  | '-' :: letter :: rest => ofShort rules letter rest
  | _ => .operand

end ArgumentForm

def standsAlone (argument : String) : Bool :=
  match argument.toList with
  | '-' :: _ :: _ => false
  | _ => true

structure Arguments where
  options : List (Char × String) := []
  operands : List String := []
deriving DecidableEq, Repr

namespace Arguments

def value? (arguments : Arguments) (short : Char) : Option String :=
  (arguments.options.find? fun option => option.1 = short).map Prod.snd

def addOption (arguments : Arguments) (option : ValueOption) (value : String) :
    Except ArgumentStop Arguments :=
  if (arguments.value? option.short).isSome || !option.valid value then .error .misuse
  else .ok { arguments with options := arguments.options ++ [(option.short, value)] }

def addOperand (rules : ArgumentRules) (arguments : Arguments) (operand : String) :
    Except ArgumentStop Arguments :=
  if rules.room.any fun room => room ≤ arguments.operands.length then .error .misuse
  else .ok { arguments with operands := arguments.operands ++ [operand] }

def read (rules : ArgumentRules) (seen : Arguments) :
    List String → Except ArgumentStop Arguments
  | [] => .ok seen
  | "--" :: rest => rest.foldlM (addOperand rules) seen
  | argument :: rest =>
    match ArgumentForm.ofArgument rules argument, rest with
    | .stop stop, _ => .error stop
    | .operand, rest =>
      match seen.addOperand rules argument with
      | .ok arguments => read rules arguments rest
      | .error stop => .error stop
    | .attached option value, rest =>
      match seen.addOption option value with
      | .ok arguments => read rules arguments rest
      | .error stop => .error stop
    | .detached _, [] => .error .misuse
    | .detached option, value :: rest =>
      if standsAlone value then
        match seen.addOption option value with
        | .ok arguments => read rules arguments rest
        | .error stop => .error stop
      else .error .misuse

def readHead (rules : ArgumentRules) (head : Arguments) :
    List String → Except ArgumentStop (Arguments × String × List String)
  | [] => .error .misuse
  | argument :: rest =>
    match ArgumentForm.ofArgument rules argument, rest with
    | .stop stop, _ => .error stop
    | .operand, rest => .ok (head, argument, rest)
    | .attached option value, rest =>
      match head.addOption option value with
      | .ok head => readHead rules head rest
      | .error stop => .error stop
    | .detached _, [] => .error .misuse
    | .detached option, value :: rest =>
      if standsAlone value then
        match head.addOption option value with
        | .ok head => readHead rules head rest
        | .error stop => .error stop
      else .error .misuse

end Arguments

end TopicRouting
