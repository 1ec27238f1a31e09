import TopicRouting.Failure.Basic
import TopicRouting.Json.Basic
import TopicRouting.Log.Event
import TopicRouting.Table.Config
import TopicRouting.Toml.Quoted

set_option autoImplicit false

namespace TopicRouting

structure RoutingSettings where
  strategy : Strategy := .quickCache
  rootCapacity : Nat := 100
  maxKeyLength : Nat := 512
  quickMatchCapacity : Nat := 100
  literalMarker : Char := '_'
deriving DecidableEq, Repr

structure LogSettings where
  level : String := "info"
  verboseLevel : String := "debug"
  json : Bool := false
  sourceLocation : Bool := true
deriving DecidableEq, Repr

structure Settings where
  routing : RoutingSettings := {}
  log : LogSettings := {}
deriving DecidableEq, Repr

def isAsciiGraphic (c : Char) : Bool := 0x21 ≤ c.toNat && c.toNat ≤ 0x7E

namespace RoutingSettings

def limit : Nat := 65536

def bounds (least : Nat) : String :=
  "must be between " ++ toString least ++ " and " ++ toString limit

def tableConfig (settings : RoutingSettings) : Except SettingsError TableConfig :=
  if hRoots : 0 < settings.rootCapacity ∧ settings.rootCapacity ≤ limit then
    if hLength : 1 < settings.maxKeyLength ∧ settings.maxKeyLength ≤ limit then
      if hMarker : settings.literalMarker ≠ separator ∧ isAsciiGraphic settings.literalMarker then
        .ok
          { rootCapacity := settings.rootCapacity
            maxKeyLength := settings.maxKeyLength
            quickMatchCapacity := settings.quickMatchCapacity
            literalMarker := settings.literalMarker
            strategy := settings.strategy
            rootCapacity_pos := hRoots.1
            one_lt_maxKeyLength := hLength.1
            literalMarker_ne_separator := hMarker.1 }
      else .error (.validation (.literalMarker settings.literalMarker))
    else .error (.outOfRange "routing.max_key_length" (bounds 2))
  else .error (.outOfRange "routing.root_capacity" (bounds 1))

def validate (settings : RoutingSettings) : Except SettingsError Unit :=
  settings.tableConfig.map fun _ => ()

end RoutingSettings

namespace LogSettings

def isLevel (level : String) : Bool :=
  [Level.trace, .debug, .info, .warn, .error].any fun known => known.name == level

def validate (settings : LogSettings) : Except SettingsError Unit :=
  if !isLevel settings.level then .error (.validation (.logLevel settings.level))
  else if !isLevel settings.verboseLevel then
    .error (.validation (.verboseLogLevel settings.verboseLevel))
  else .ok ()

end LogSettings

def Settings.validate (settings : Settings) : Except SettingsError Unit :=
  match settings.routing.validate with
  | .error error => .error error
  | .ok () => settings.log.validate

def Settings.toJson (settings : Settings) : Json :=
  let routing := settings.routing
  let log := settings.log
  .object
    [("routing", .object
      [("strategy", .string routing.strategy.name),
        ("root_capacity", .integer routing.rootCapacity),
        ("max_key_length", .integer routing.maxKeyLength),
        ("quick_match_capacity", .integer routing.quickMatchCapacity),
        ("literal_marker", .string (String.singleton routing.literalMarker))]),
      ("log", .object
        [("level", .string log.level),
          ("verbose_level", .string log.verboseLevel),
          ("json", .boolean log.json),
          ("source_location", .boolean log.sourceLocation)])]

def tomlLine (key value : String) : String := key ++ " = " ++ value ++ "\n"

def Settings.toToml (settings : Settings) : Except RouterError String :=
  let routing := settings.routing
  let log := settings.log
  let numbers := [routing.rootCapacity, routing.maxKeyLength, routing.quickMatchCapacity]
  let truth := fun value => if value then "true" else "false"
  if numbers.all fun n => n < limit63 then
    .ok ("[routing]\n"
      ++ tomlLine "strategy" (Toml.quote routing.strategy.name)
      ++ tomlLine "root_capacity" (toString routing.rootCapacity)
      ++ tomlLine "max_key_length" (toString routing.maxKeyLength)
      ++ tomlLine "quick_match_capacity" (toString routing.quickMatchCapacity)
      ++ tomlLine "literal_marker" (Toml.quote (String.singleton routing.literalMarker))
      ++ "\n[log]\n"
      ++ tomlLine "level" (Toml.quote log.level)
      ++ tomlLine "verbose_level" (Toml.quote log.verboseLevel)
      ++ tomlLine "json" (truth log.json)
      ++ tomlLine "source_location" (truth log.sourceLocation))
  else .error .tomlWrite

namespace Json

def setting {α : Type} (members : List (String × Json)) (name : String) (default : α)
    (read : Json → Option α) : Option α :=
  match member? name (.object members) with
  | none => some default
  | some value => read value

def membersInOrder? (names : List String) : Json → Option (List (String × Json))
  | .object members => some members
  | .array items => if items.length ≤ names.length then some (names.zip items) else none
  | _ => none

def text? : Json → Option String
  | .string text => some text
  | _ => none

def truth? : Json → Option Bool
  | .boolean value => some value
  | _ => none

def size? : Json → Option Nat
  | .integer value => if 0 ≤ value && value < limit64 then some value.toNat else none
  | _ => none

def character? : Json → Option Char
  | .string text =>
    match text.toList with
    | [c] => some c
    | _ => none
  | _ => none

def strategy? : Json → Option Strategy
  | .string name => Strategy.ofName? name
  | .object [(name, .null)] => Strategy.ofName? name
  | _ => none

end Json

def RoutingSettings.ofJson? (json : Json) : Option RoutingSettings := do
  let names :=
    ["strategy", "root_capacity", "max_key_length", "quick_match_capacity", "literal_marker"]
  let members ← json.membersInOrder? names
  let base : RoutingSettings := {}
  return {
    strategy := ← Json.setting members "strategy" base.strategy Json.strategy?
    rootCapacity := ← Json.setting members "root_capacity" base.rootCapacity Json.size?
    maxKeyLength := ← Json.setting members "max_key_length" base.maxKeyLength Json.size?
    quickMatchCapacity :=
      ← Json.setting members "quick_match_capacity" base.quickMatchCapacity Json.size?
    literalMarker := ← Json.setting members "literal_marker" base.literalMarker Json.character? }

def LogSettings.ofJson? (json : Json) : Option LogSettings := do
  let members ← json.membersInOrder? ["level", "verbose_level", "json", "source_location"]
  let base : LogSettings := {}
  return {
    level := ← Json.setting members "level" base.level Json.text?
    verboseLevel := ← Json.setting members "verbose_level" base.verboseLevel Json.text?
    json := ← Json.setting members "json" base.json Json.truth?
    sourceLocation := ← Json.setting members "source_location" base.sourceLocation Json.truth? }

def Settings.ofJson? (json : Json) : Option Settings := do
  let members ← json.membersInOrder? ["routing", "log"]
  return {
    routing := ← Json.setting members "routing" {} RoutingSettings.ofJson?
    log := ← Json.setting members "log" {} LogSettings.ofJson? }

end TopicRouting
