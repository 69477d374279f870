import DefIndex.Environment
import DefIndex.IgnoreWalk
import DefIndex.Settings
import DefIndex.Sorting
import DefIndex.Toml

/-!
# `DefIndex.Discovery`: the source files and the settings of a workspace

Discovery asks a walker for what is below the folder of a workspace. It has
hidden entries and the folders of excluded names left out, and ignore files
respected if the settings say so. Of what is visited it takes the files that
have the extension of a source file, in order, and as many as the settings
allow.
-/

set_option autoImplicit false

namespace DefIndex

namespace Discovery

/-- The override that leaves out the folders of a name. -/
def exclusion (dir : Text) : Text := '!' :: dir ++ ['/']

/-- The wording for a workspace that is no folder. -/
def noFolderMessage (root : Locator) : Text :=
  "workspace root is not a directory: " ++ root.text

/-- The source files below a folder in order, as many as the settings allow,
of those that a walker visits. A name that the walker does not take is not
excluded. -/
def sourceFilesBy (walker : Walker) (disk : Disk) (root : Locator) (s : Settings) :
    Except Text (List Path) :=
  match disk.locate root with
  | .error _ => .error (noFolderMessage root)
  | .ok home =>
    match disk.root.find? home with
    | some (.folder _) =>
      let overrides := (s.excludes.map exclusion).filter walker.accepts
      match walker.fault? overrides with
      | some fault => .error fault
      | none =>
        let visited := walker.visits disk ⟨home, overrides, true, s.respectIgnore⟩
        let pathOf (below : List Segment) : Path := root.path.join ⟨false, below⟩
        let found := visited.filter fun below =>
          disk.isFile (home ++ below) && s.isSource (pathOf below)
        let files := sortBy Path.le (found.map fun below => (pathOf below).normalize)
        .ok (match s.maxFiles with
          | some limit => files.take limit
          | none => files)
    | _ => .error (noFolderMessage root)

/-- The source files below a folder, respecting ignore files if the settings
say so. -/
def sourceFiles (disk : Disk) (root : Locator) (s : Settings) : Except Text (List Path) :=
  sourceFilesBy IgnoreWalk.walker disk root s

end Discovery

/-! ### Settings of a workspace -/

namespace Settings

/-- The name of the settings file of a workspace. -/
def fileName : Text := ".parsaur.toml"

/-- The settings of a workspace: its settings file over the defaults, the
environment over both. -/
def load (disk : Disk) (root : Path) (environment : List (Text × Text)) : Settings :=
  let file := root.join ⟨false, [.name fileName]⟩
  let layer? :=
    match disk.entry? file with
    | some (.file (.text source)) => Toml.layer? source
    | some (.file (.binary _)) => none
    -- A folder of that name is no settings file.
    | _ => some []
  match layer?.bind fun layer => ofLayer? (layer ++ Environment.layer environment) with
  | some s => s
  | none => default

end Settings

end DefIndex
