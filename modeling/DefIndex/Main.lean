import DefIndex.CommandLine

/-!
# `DefIndex.Main`: the command line program

Reads what a command may ask for into a `Host` (the folder of the
workspace with everything below it, the ignore files above it, the
settings variables and the file that completion names), runs the command,
and writes its outcome.
-/

set_option autoImplicit false

namespace DefIndex.Main

/-- The settings that may come from the environment. -/
def variableNames : List String :=
  ["PARSAUR_EXCLUDE_DIRS", "PARSAUR_RESPECT_GITIGNORE", "PARSAUR_EXTENSIONS",
   "PARSAUR_MAX_FILES", "PARSAUR_MAX_DIAGNOSTICS_PER_FILE", "PARSAUR_DEBOUNCE_MS"]

/-- The files of a folder that count for the folders below it. -/
def ignoreNames : List String := [".ignore", ".gitignore"]

/-- The variables that are set. -/
def readVariables : IO (List (Text × Text)) := do
  let found ← variableNames.mapM fun name => do
    return (← IO.getEnv name).map fun value => (name.toList, value.toList)
  return found.filterMap id

/-- What a file holds. -/
def readContent (e : IO.FS.DirEntry) : IO Content := do
  return .ofBytes (← IO.FS.readBinFile e.path).toList

/-- A file or a folder with everything below it, if it exists. -/
partial def readEntry (e : IO.FS.DirEntry) : IO (Option Entry) := do
  if ← e.path.isDir then
    let children ← (← e.path.readDir).toList.mapM fun child => do
      return (← readEntry child).map fun entry => (Segment.name child.fileName.toList, entry)
    return some (.folder (children.filterMap id))
  else if ← e.path.pathExists then
    return some (.file (← readContent e))
  else return none

/-- The way from a folder to an entry below it: the folders on the way
hold their ignore files, the entry holds everything. -/
def readAlong (folder : String) : List Text → IO Entry
  | [] => return .folder []
  | [name] => do
    let child ← readEntry ⟨folder, String.ofList name⟩
    return .folder ((child.map fun entry => (Segment.name name, entry)).toList)
  | name :: names => do
    let ignores ← ignoreNames.mapM fun file => do
      return (← readEntry ⟨folder, file⟩).map fun entry => (Segment.name file.toList, entry)
    let child ← readAlong (folder ++ String.ofList name ++ "/") names
    return .folder ((name, child) :: ignores.filterMap id)

/-- The names of an absolute path. -/
def namesOf (p : Path) : List Text :=
  p.normalize.segments.filterMap fun
    | .name t => some t
    | _ => none

/-- The machine as far as an invocation may look at it. -/
def readHost (invocation : Option Invocation) : IO Host := do
  let folder := Path.parse (← IO.currentDir).toString.toList
  let environment ← readVariables
  match invocation with
  | some (.run command root _) =>
    let disk : Disk := ⟨← readAlong "/" (namesOf (folder.join (.parse root)))⟩
    let disk ← match command with
      | .complete _ (some file) _ =>
        let names := namesOf (folder.join (.parse file))
        let entry : IO.FS.DirEntry :=
          ⟨"/", String.ofList (Text.join ['/'] names)⟩
        match ← readEntry entry with
        | some (.file content) => pure (disk.write (names.map .name) content)
        | _ => pure disk
      | _ => pure disk
    return ⟨disk, environment, folder⟩
  | _ => return ⟨.empty, environment, folder⟩

end DefIndex.Main

/-- Run the command line. -/
def main (args : List String) : IO UInt32 := do
  let words := args.map String.toList
  let host ← DefIndex.Main.readHost (DefIndex.Invocation.parse? words)
  let outcome := DefIndex.CommandLine.run host words
  (← IO.getStdout).putStr (String.ofList outcome.stdout)
  (← IO.getStderr).putStr (String.ofList outcome.stderr)
  return .ofNat outcome.code
