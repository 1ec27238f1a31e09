import TopicRouting.CommandLine.Execution

set_option autoImplicit false

open TopicRouting

namespace TopicRouting.Main

def settingVariables : List String :=
  let names := fun value : SettingValue => value.entries.map Prod.fst
  let defaults := SettingValue.ofJson (Settings.toJson {})
  defaults.entries.flatMap fun (group, value) =>
    (names value).map fun name => settingsPrefix ++ "__" ++ group.toUpper ++ "__" ++ name.toUpper

def readVariables : IO (List (String × String)) :=
  (filterVariable :: settingVariables).filterMapM fun name => do
    return (← IO.getEnv name).map fun content => (name, content)

def readEntry (path : String) : IO (List (List String × FileEntry)) := do
  try
    return [(FileTree.parts path, .file (← IO.FS.readBinFile path))]
  catch error =>
    match error with
    | .noFileOrDirectory .. => return []
    | _ => return [(FileTree.parts path, .directory)]

def save (files : FileTree) : RouterCommand → IO Unit
  | .writeSettings output => do
    match files.readText output with
    | .error _ => pure ()
    | .ok text =>
      match FileTree.parent? output with
      | some above => if above ≠ "" then IO.FS.createDirAll above
      | none => pure ()
      IO.FS.writeFile output text
  | _ => pure ()

end TopicRouting.Main

def main (arguments : List String) : IO UInt32 := do
  let environment ← Main.readVariables
  let paths := match Invocation.parse arguments with
    | .ok invocation => invocation.settingsPath.toList ++ invocation.routesPath.toList
    | .error _ => []
  let files : FileTree := ⟨(← paths.mapM Main.readEntry).flatten⟩
  let run := Execution.ofArguments files environment arguments
  for printed in run.printed do
    match printed with
    | .line text => IO.println text
    | .event event => IO.println (if run.jsonLog then event.toJson.render else event.line)
  IO.eprint run.ending.errorText
  if run.ending = .done then
    match Invocation.parse arguments with
    | .ok invocation => Main.save run.files invocation.command
    | .error _ => pure ()
  return run.ending.code.toUInt32
