import DefIndex.Workspace

/-!
# `DefIndex.Host`: the machine around a session or a command

What the index sees of the machine that it runs on: the disk, the
environment variables and the folder that relative paths start from.
-/

set_option autoImplicit false

namespace DefIndex

/-- The machine that the index runs on. -/
structure Host where
  disk : Disk
  environment : List (Text × Text)
  /-- Where relative paths start. -/
  folder : Path

namespace Host

/-- A machine without files and variables. -/
def empty : Host := ⟨.empty, [], ⟨true, []⟩⟩

/-- A path seen from the current folder. -/
def absolute (h : Host) (p : Path) : Path := h.folder.join p

/-- Where to look for a path that was written. -/
def locator (h : Host) (written : Text) : Locator :=
  let l := Locator.parse written
  { l with path := h.absolute l.path }

/-- A workspace with the settings that it finds. -/
def openWorkspace (h : Host) (root : Path) : Workspace :=
  .start root (.load h.disk root h.environment)

/-- Rebuild a workspace from the disk. -/
def rebuild (h : Host) (w : Workspace) : Except IndexError Snapshot × Workspace :=
  w.rebuild (.disk h.disk)

end Host

end DefIndex
