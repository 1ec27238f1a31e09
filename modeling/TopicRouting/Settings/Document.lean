import TopicRouting.Files.Tree
import TopicRouting.Json.Reader
import TopicRouting.Settings.Value
import TopicRouting.Toml.Reader
import TopicRouting.Yaml.Reader

set_option autoImplicit false

namespace TopicRouting

inductive DocumentFormat where
  | toml
  | json
  | yaml
deriving DecidableEq, Repr

def DocumentFormat.ofExtension? : String → Option DocumentFormat
  | "toml" => some .toml
  | "json" => some .json
  | "yaml" | "yml" => some .yaml
  | _ => none

def usualFraction (characters : List Char) : List Char :=
  match characters with
  | '.' :: rest =>
    let digits := (((rest.takeWhile Char.isDigit).take 9).reverse.dropWhile (· = '0')).reverse
    if digits.isEmpty then [] else '.' :: digits
  | _ => []

def usualOffset : List Char → List Char
  | ['z'] => ['Z']
  | '-' :: '0' :: '0' :: rest => '+' :: '0' :: '0' :: rest
  | rest => rest

def usualMoment (written : String) : String :=
  let isMark := fun c => c = '.' || c = 'Z' || c = 'z' || c = '+' || c = '-'
  let isDate := written.toList[4]? == some '-'
  let date := if isDate then written.toList.take 10 else []
  let rest := written.toList.drop date.length
  let clock := rest.takeWhile fun c => !isMark c
  let time := if isDate && !clock.isEmpty then 'T' :: clock.drop 1 else clock
  let after := rest.dropWhile fun c => !isMark c
  let offset := after.dropWhile fun c => c = '.' || c.isDigit
  String.ofList (date ++ time ++ usualFraction after ++ usualOffset offset)

namespace SettingValue

mutual

-- A value of a JSON document. An integer that needs all 64 bits counts as a fraction.
def ofJson : Json → SettingValue
  | .null => .nil
  | .boolean value => .boolean value
  | .integer value =>
    if fitsSigned64 value then .integer value
    else .float value.natAbs.toUInt64.toFloat
  | .number value => .float value
  | .string content => .text content
  | .array items => .list (ofJsonItems items)
  | .object members => ofEntries (ofJsonMembers members)

def ofJsonItems : List Json → List SettingValue
  | [] => []
  | item :: rest => ofJson item :: ofJsonItems rest

def ofJsonMembers : List (String × Json) → List (String × SettingValue)
  | [] => []
  | (name, value) :: rest => (name, ofJson value) :: ofJsonMembers rest

end

mutual

def ofToml : Toml → SettingValue
  | .string content => .text content
  | .integer value => .integer value
  | .float value => .float value.toFloat
  | .boolean value => .boolean value
  | .moment written => .text (usualMoment written)
  | .array items | .tables items => .list (ofTomlItems items)
  | .table _ entries => .group (ofTomlEntries entries)

def ofTomlItems : List Toml → List SettingValue
  | [] => []
  | item :: rest => ofToml item :: ofTomlItems rest

def ofTomlEntries : TomlEntries → List (String × SettingValue)
  | [] => []
  | (key, value) :: rest => (key, ofToml value) :: ofTomlEntries rest

end

def groupOf? (entries : List (String × Option SettingValue)) : Option SettingValue := do
  let complete ← (lastOfEach entries).mapM fun (key, value) => do
    let value ← value
    return (key, value)
  return .group complete

mutual

-- A value of a YAML document. Some of its numbers have spellings that settings do not know;
-- what does not fit its tag stands for nothing. Of a mapping only the last value of each key
-- counts.
def ofYaml? : Yaml → Option SettingValue
  | .null | .unfit => some .nil
  | .boolean value => some (.boolean value)
  | .integer value => some (.integer value)
  | .real written => (Decimal.read? written).map fun value => .float value.toFloat
  | .string content => some (.text content)
  | .sequence items => (ofYamlItems? items).map .list
  | .mapping entries => groupOf? (ofYamlEntries entries)

def ofYamlItems? : List Yaml → Option (List SettingValue)
  | [] => some []
  | item :: rest =>
    (ofYaml? item).bind fun item => (ofYamlItems? rest).map fun rest => item :: rest

def ofYamlEntries : List (Yaml × Yaml) → List (String × Option SettingValue)
  | [] => []
  | (.string key, value) :: rest => (key, ofYaml? value) :: ofYamlEntries rest
  | _ :: rest => ofYamlEntries rest

end

def readYaml? (content : String) : Option SettingValue :=
  match Yaml.read? content with
  | some [] => some (.group [])
  | some [document] => ofYaml? document
  | _ => none

def read? (format : DocumentFormat) (content : String) : Option SettingValue :=
  match format with
  | .toml => (Toml.read? .early content).map fun entries => .group (ofTomlEntries entries)
  | .json => (Json.read? content).map ofJson
  | .yaml => readYaml? content

end SettingValue

end TopicRouting
