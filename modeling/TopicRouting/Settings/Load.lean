import TopicRouting.Settings.Basic
import TopicRouting.Settings.Document
import TopicRouting.Settings.Environment
import TopicRouting.Settings.Path

set_option autoImplicit false

namespace TopicRouting

def RoutingSettings.ofValue? (value : SettingValue) : Option RoutingSettings := do
  let names :=
    ["strategy", "root_capacity", "max_key_length", "quick_match_capacity", "literal_marker"]
  let entries ← value.settings? names
  let base : RoutingSettings := {}
  return {
    strategy := ← SettingValue.setting entries "strategy" base.strategy SettingValue.strategy?
    rootCapacity :=
      ← SettingValue.setting entries "root_capacity" base.rootCapacity SettingValue.size?
    maxKeyLength :=
      ← SettingValue.setting entries "max_key_length" base.maxKeyLength SettingValue.size?
    quickMatchCapacity :=
      ← SettingValue.setting entries "quick_match_capacity" base.quickMatchCapacity
        SettingValue.size?
    literalMarker :=
      ← SettingValue.setting entries "literal_marker" base.literalMarker
        SettingValue.character? }

def LogSettings.ofValue? (value : SettingValue) : Option LogSettings := do
  let entries ← value.settings? ["level", "verbose_level", "json", "source_location"]
  let base : LogSettings := {}
  return {
    level := ← SettingValue.setting entries "level" base.level SettingValue.text?
    verboseLevel :=
      ← SettingValue.setting entries "verbose_level" base.verboseLevel SettingValue.text?
    json := ← SettingValue.setting entries "json" base.json SettingValue.truth?
    sourceLocation :=
      ← SettingValue.setting entries "source_location" base.sourceLocation
        SettingValue.truth? }

namespace Settings

def ofValue? (value : SettingValue) : Option Settings := do
  let entries ← value.settings? ["routing", "log"]
  return {
    routing := ← SettingValue.setting entries "routing" {} RoutingSettings.ofValue?
    log := ← SettingValue.setting entries "log" {} LogSettings.ofValue? }

def lay (values : List (String × SettingValue)) (base : SettingValue) : SettingValue :=
  values.foldl (fun merged entry => (SettingPath.parse entry.1).assign entry.2 merged) base

-- The text of a settings file. A directory gives way to the file that has its name and the
-- extension once more.
def readDocumentText (files : FileTree) (path : String) (format : DocumentFormat) :
    Except FileError String :=
  match files.readText path with
  | .error .isDirectory =>
    let extensions := match format with
      | .toml => ["toml"]
      | .json => ["json"]
      | .yaml => ["yaml", "yml"]
    let texts := extensions.filterMap fun extension =>
      (files.readText (path ++ "." ++ extension)).toOption
    match texts with
    | text :: _ => .ok text
    | [] => .error .isDirectory
  | result => result

def readDocument (files : FileTree) (path : String) :
    Except SettingsError (List (String × SettingValue)) :=
  if !files.pathExists path then .error (.fileNotFound path)
  else
    match (FileTree.extension? path).bind DocumentFormat.ofExtension? with
    | none => .error (.parse (.unsupportedExtension path))
    | some format =>
      match readDocumentText files path format with
      | .error _ => .error (.parse .malformedDocument)
      | .ok text =>
        match SettingValue.read? format text with
        | none => .error (.parse .malformedDocument)
        | some value => .ok value.entries

def load (files : FileTree) (environment : List (String × String)) (path : Option String)
    (variablePrefix : String) : Except SettingsError Settings :=
  let document : Except SettingsError (List (String × SettingValue)) := match path with
    | none => .ok []
    | some path => readDocument files path
  match document with
  | .error error => .error error
  | .ok values =>
    let defaults := SettingValue.ofJson (Settings.toJson {})
    let merged := lay (settingsOfVariables variablePrefix environment) (lay values defaults)
    match ofValue? merged with
    | none => .error (.parse .unsuitableValue)
    | some settings => settings.validate.map fun () => settings

end Settings

end TopicRouting
