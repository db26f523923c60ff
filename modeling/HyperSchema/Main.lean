import HyperSchema.Report

namespace HyperSchema

/-- Names of the settings that the environment can give. -/
def settingNames : List String :=
  ["RESERVED_SLOT_NAMES", "SCHEMA_DIRECTORY", "LOG_FILTER", "DEFAULT_RESULT_LIMIT"]

/-- The text of a file, none when it cannot be read. -/
def readText? (read : IO String) : IO (Option String) := do
  try return some (← read) catch _ => return none

/-- The settings files that there are, by their names. -/
def settingsFiles : IO (List (String × Option String)) :=
  ["", ".toml", ".json"].filterMapM fun ending => do
    let name := Settings.fileName ++ ending
    let file := (← IO.currentDir) / name
    if (← file.pathExists) && !(← file.isDir) then
      return some (name, ← readText? (IO.FS.readFile file))
    else return none

def environment : IO (List (String × String)) :=
  settingNames.filterMapM fun setting => do
    let name := "PROTOSLOT_" ++ setting
    return (← IO.getEnv name).map (name, ·)

/-- What stands right inside of a folder, in the order in which the folder gives it. -/
def itemsIn? (folder : String) : IO (Option (List Folder.Item)) := do
  if folder.isEmpty then return none
  try
    let found ← ((← IO.currentDir) / folder).readDir
    return some (← found.toList.mapM fun f => do
      return ⟨f.fileName, ← readText? (IO.FS.readFile f.path)⟩)
  catch _ => return none

/-- The surroundings of the running program. Its log is silent. -/
def surroundings : IO Surroundings := do
  let files ← settingsFiles
  let s : Surroundings := {
    files := fun name => files.lookup name
    environment := ← environment
    itemsIn? := fun _ => none }
  match s.settings with
  | .error _ => return s
  | .ok settings =>
    let items ← itemsIn? (Report.folderOf settings)
    return { s with itemsIn? := fun _ => items }

def reportAll : IO UInt32 := do
  let output := (← surroundings).output
  IO.print output.text
  IO.eprint output.errors
  return output.exitCode

end HyperSchema

def main : IO UInt32 := HyperSchema.reportAll
