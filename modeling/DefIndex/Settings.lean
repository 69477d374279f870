import DefIndex.Path
import DefIndex.Text.CharClass

/-!
# `DefIndex.Settings`: how a workspace is indexed

Settings come in layers: the defaults, then a settings file, then the
environment. A later layer replaces single values of an earlier one. If a
value that remains has the wrong shape, the defaults are used for
everything.
-/

set_option autoImplicit false

namespace DefIndex

/-- A value of a settings layer. -/
inductive SettingValue where
  | boolean (value : Bool)
  | integer (value : Int)
  | text (value : Text)
  | list (values : List SettingValue)
  /-- A fraction, a date or a group of values: no setting takes one. -/
  | other
deriving Repr

/-- A layer: names with their values, of which the last counts. -/
abbrev SettingLayer := List (Text × SettingValue)

/-- The settings of a workspace. -/
structure Settings where
  /-- Directories left out besides the default ones. -/
  excludeDirs : List Text
  /-- Whether ignore files are respected. -/
  respectIgnore : Bool
  /-- The extensions of source files. -/
  extensions : List Text
  /-- How many files are indexed at most. -/
  maxFiles : Option Nat
  /-- How many diagnostics are kept per file. -/
  maxDiagnostics : Nat
  /-- How long a burst of file changes has to pause before a rebuild, in
  milliseconds. -/
  debounce : Nat
deriving DecidableEq, Repr

namespace Settings

/-- The settings of a workspace that has none. -/
def default : Settings :=
  { excludeDirs := []
    respectIgnore := true
    extensions := ["mql"]
    maxFiles := none
    maxDiagnostics := 1000
    debounce := 200 }

instance : Inhabited Settings := ⟨default⟩

/-! ### Reading layers -/

/-- A truth value. -/
def asBool? : SettingValue → Option Bool
  | .boolean b => some b
  | _ => none

/-- A number that is not negative. -/
def asNat? : SettingValue → Option Nat
  | .integer (.ofNat n) => some n
  | _ => none

/-- A text. -/
def asText? : SettingValue → Option Text
  | .text t => some t
  | _ => none

/-- A list of texts. -/
def asTexts? : SettingValue → Option (List Text)
  | .list values => values.mapM asText?
  | _ => none

/-- The last value under a name. -/
def valueOf? (layer : SettingLayer) (name : Text) : Option SettingValue :=
  (layer.reverse.find? fun entry => entry.1 = name).map Prod.snd

/-- The setting under a name, or its default if the layers have none; no
answer if it has the wrong shape. -/
def take? {α : Type} (layer : SettingLayer) (name : Text) (fallback : α)
    (read? : SettingValue → Option α) : Option α :=
  match valueOf? layer name with
  | none => some fallback
  | some value => read? value

/-- The settings of a layer over the defaults, unless one of its values
has the wrong shape. -/
def ofLayer? (layer : SettingLayer) : Option Settings := do
  let excludeDirs ← take? layer "exclude_dirs" default.excludeDirs asTexts?
  let respectIgnore ← take? layer "respect_gitignore" default.respectIgnore asBool?
  let extensions ← take? layer "extensions" default.extensions asTexts?
  let maxFiles ← take? layer "max_files" default.maxFiles fun v => (asNat? v).map some
  let maxDiagnostics ←
    take? layer "max_diagnostics_per_file" default.maxDiagnostics asNat?
  let debounce ← take? layer "debounce_ms" default.debounce asNat?
  return ⟨excludeDirs, respectIgnore, extensions, maxFiles, maxDiagnostics, debounce⟩

/-! ### What the settings say about files -/

/-- Directories that are never searched. -/
def defaultExcludes : List Text :=
  [".git", ".vs", ".vscode", ".idea", "node_modules", "out", "target"]

/-- All directories left out, each once. -/
def excludes (s : Settings) : List Text :=
  s.excludeDirs.foldl (fun dirs dir => if dirs.contains dir then dirs else dirs ++ [dir])
    defaultExcludes

/-- Whether two texts are equal but for the case of ASCII letters. -/
def sameIgnoringCase (a b : Text) : Bool := a.map Char.toLower == b.map Char.toLower

/-- Whether a path has the extension of a source file. -/
def isSource (s : Settings) (p : Path) : Bool :=
  match p.segments.getLast?.bind Segment.extension? with
  | some ext => s.extensions.any (sameIgnoringCase ext)
  | none => false

end Settings

end DefIndex
