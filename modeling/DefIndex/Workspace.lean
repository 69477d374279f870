import DefIndex.Discovery
import DefIndex.Snapshot

/-!
# `DefIndex.Workspace`: rebuilds and published snapshots

A workspace hands out version numbers to rebuilds and keeps the published
snapshot with the highest one. A rebuild takes a number, finds and reads
the files, builds a snapshot and publishes it; if it fails its number is
used up and the published snapshot stays.

* `Workspace.nextVersion` and `Workspace.publish` are the two steps that
  change a workspace; `Workspace.rebuild` is one rebuild from start to
  end.
* `Loaded.ofReads` collects what the reads of the found files gave, in
  whatever order they come in.
* A `Source` is where the files come from: `Source.disk`, or
  `Source.memory` for texts held in memory.
-/

set_option autoImplicit false

namespace DefIndex

/-- Why a rebuild fails. -/
inductive IndexError where
  /-- The files could not be found. -/
  | discovery (message : Text)
  | cycle (cycle : ImportCycle)
deriving DecidableEq, Repr

/-- The wording of a failed rebuild. -/
def IndexError.message : IndexError → Text
  | discovery text => "Failed to read file: " ++ text
  | cycle c => c.message

/-- The wording of a failed rebuild with its cause behind it; a cycle has
no further cause. -/
def IndexError.fullMessage : IndexError → Text
  | discovery text => (discovery text).message ++ ": " ++ text
  | cycle c => c.message

/-! ### Sources -/

/-- Where the files of a workspace come from. -/
structure Source where
  discover : Path → Settings → Except Text (List Path)
  read : Path → Except Text Text

namespace Source

/-- The files of a disk, below a folder without `.` and `..` on the way. -/
def disk (d : Disk) : Source :=
  { discover := fun root s =>
      match d.canonical root with
      | .ok home => Discovery.sourceFiles d ⟨home, false, root.render⟩ s
      | .error _ => .error (Discovery.noFolderMessage root)
    read := fun p => (d.read p).mapError DiskError.message }

end Source

/-- Files held in memory: a text, or nothing for a file that exists and
cannot be read. -/
abbrev MemoryFiles := List (Path × Option Text)

namespace MemoryFiles

/-- The files without the one of a path. -/
def remove (files : MemoryFiles) (p : Path) : MemoryFiles :=
  files.filter fun entry => entry.1 ≠ p

/-- Set what the file of a path holds. -/
def put (files : MemoryFiles) (p : Path) (content : Option Text) : MemoryFiles :=
  (p, content) :: files.remove p

/-- The source files below a path in order. -/
def discover (files : MemoryFiles) (root : Path) (s : Settings) : List Path :=
  let found := (files.map Prod.fst).filter fun p =>
    p.startsWith root.normalize && s.isSource p
  let ordered := dropRepeats (fun a b => a == b) (sortBy Path.le found)
  match s.maxFiles with
  | some limit => ordered.take limit
  | none => ordered

/-- The text of a file. -/
def read (files : MemoryFiles) (p : Path) : Except Text Text :=
  match files.lookup p with
  | some (some text) => .ok text
  | some none => .error "unreadable"
  | none => .error "no such file"

end MemoryFiles

/-- The files of a memory. -/
def Source.memory (files : MemoryFiles) : Source :=
  { discover := fun root s => .ok (files.discover root s)
    read := files.read }

/-! ### Loading -/

/-- What reading the found files gave. -/
structure Loaded where
  outlines : List Outline
  failures : List ReadFailure

namespace Loaded

/-- Collect reads in order of their paths. -/
def ofReads (reads : List (Path × Except Text Text)) : Loaded :=
  { outlines :=
      sortBy (fun a b => Path.le a.file b.file) <| reads.filterMap fun
        | (p, .ok text) => some (Outline.read p text)
        | (_, .error _) => none
    failures :=
      sortBy (fun a b => Path.le a.file b.file) <| reads.filterMap fun
        | (_, .ok _) => none
        | (p, .error message) => some ⟨p, message⟩ }

end Loaded

/-! ### Workspaces -/

/-- A workspace and its published snapshot. -/
structure Workspace where
  root : Path
  settings : Settings
  current : Snapshot
  /-- The last version number handed out. -/
  sequence : Nat

namespace Workspace

/-- A workspace before its first rebuild. -/
def start (root : Path) (settings : Settings) : Workspace :=
  ⟨root.normalize, settings, .empty, 0⟩

/-- Hand out a version number. -/
def nextVersion (w : Workspace) : Nat × Workspace :=
  (w.sequence + 1, { w with sequence := w.sequence + 1 })

/-- Publish a snapshot unless one at least as new is published. -/
def publish (w : Workspace) (s : Snapshot) : Workspace :=
  if s.version > w.current.version then { w with current := s } else w

/-- Find, read and index the files of a workspace as a given version. -/
def index (w : Workspace) (source : Source) (version : Nat) : Except IndexError Snapshot :=
  match source.discover w.root w.settings with
  | .error message => .error (.discovery message)
  | .ok files =>
    let loaded := Loaded.ofReads (files.map fun p => (p, source.read p))
    (Snapshot.build version loaded.outlines loaded.failures w.settings.maxDiagnostics).mapError
      IndexError.cycle

/-- One rebuild: the snapshot that is current afterwards, or why the
rebuild failed. -/
def rebuild (w : Workspace) (source : Source) : Except IndexError Snapshot × Workspace :=
  let (version, w) := w.nextVersion
  match w.index source version with
  | .error e => (.error e, w)
  | .ok snapshot =>
    let w := w.publish snapshot
    (.ok w.current, w)

end Workspace

end DefIndex
