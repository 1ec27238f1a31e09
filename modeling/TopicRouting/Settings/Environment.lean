import TopicRouting.Settings.Value
import TopicRouting.Text.LowerCase

set_option autoImplicit false

namespace TopicRouting

namespace SettingValue

def ofVariable (content : String) : SettingValue :=
  match asciiLower content with
  | "true" => .boolean true
  | "false" => .boolean false
  | _ =>
    match readSigned64? content, Decimal.read? content with
    | some value, _ => .integer value
    | none, some value => .float value.toFloat
    | none, none => .text content

end SettingValue

def settingOfVariable? (variablePrefix name : String) : Option String :=
  let start := (lowerCase (variablePrefix ++ "__")).toList
  let name := (lowerCase name).toList
  if start.isPrefixOf name then
    some (".".intercalate ((String.ofList (name.drop start.length)).splitOn "__"))
  else none

def settingsOfVariables (variablePrefix : String) (environment : List (String × String)) :
    List (String × SettingValue) :=
  environment.filterMap fun (name, content) =>
    (settingOfVariable? variablePrefix name).map fun path =>
      (path, SettingValue.ofVariable content)

end TopicRouting
