import DefIndex.Ignore
import DefIndex.Walker

/-!
# `DefIndex.IgnoreWalk`: a walker that reads ignore files

This walker visits the folder where it starts and everything below it but the
entries that it leaves out and what is below those. Overrides decide about an
entry first, then ignore files, and then a dot at the start of its name. An
ignore file that takes an entry back in also lifts the rule of the dot. The
folder where the walk starts is never left out.

Three kinds of ignore files apply to their folder and below: `.ignore` goes
before `.gitignore`, and that before `.git/info/exclude`. For each kind the file
nearest to an entry that says something decides. The folders above the start
count too.
-/

set_option autoImplicit false

namespace DefIndex

/-- The ignore rules of one folder. -/
structure RuleLevel where
  /-- The folder, as names from the root. -/
  folder : List Segment
  plain : List IgnoreRule
  git : List IgnoreRule
  exclude : List IgnoreRule
deriving DecidableEq, Repr

namespace IgnoreWalk

/-! ### Rules -/

/-- The rules of a file in a folder, none if it is not there. -/
def rulesAt (folder : Entry) (names : List Segment) : List IgnoreRule :=
  match folder.find? names with
  | some (.file content) => Ignore.rules content.lines
  | _ => []

/-- The rules that a folder brings. -/
def levelOf (names : List Segment) (folder : Entry) : RuleLevel :=
  { folder := names
    plain := rulesAt folder [".ignore"]
    git := rulesAt folder [".gitignore"]
    exclude := rulesAt folder [".git", "info", "exclude"] }

/-- A path of names, as bytes. -/
def bytesOf (names : List Segment) : List UInt8 :=
  List.intercalate [Glob.separator] (names.map Segment.bytes)

/-- What one kind of rules says, nearest level first. -/
def judgeLevels (kind : RuleLevel → List IgnoreRule) (levels : List RuleLevel)
    (isFolder : Bool) (names : List Segment) : Verdict :=
  levels.foldl (fun verdict level =>
    let relative := bytesOf (names.drop level.folder.length)
    verdict.or (Ignore.judge (kind level) isFolder relative)) .silent

/-- What the ignore files say about an entry. -/
def judge (levels : List RuleLevel) (isFolder : Bool) (names : List Segment) : Verdict :=
  ((judgeLevels RuleLevel.plain levels isFolder names).or
    (judgeLevels RuleLevel.git levels isFolder names)).or
      (judgeLevels RuleLevel.exclude levels isFolder names)

/-- A request with its overrides read. -/
structure Guide where
  root : List Segment
  overrides : List IgnoreRule
  skipsHidden : Bool
  respectsIgnore : Bool

namespace Guide

/-- Read the overrides of a request. -/
def ofRequest (q : WalkRequest) : Guide :=
  ⟨q.root, q.overrides.filterMap (Ignore.rule? false), q.skipsHidden, q.respectsIgnore⟩

/-- Whether an entry is left out, given by its name and by the names from the
start. -/
def skips (g : Guide) (levels : List RuleLevel) (isFolder : Bool) (below : List Segment)
    (name : Segment) : Bool :=
  match Ignore.judge g.overrides isFolder (bytesOf below) with
  | .kept => true
  | .ignored => false
  | .silent =>
    -- Once an override takes something in, it is only these files that count.
    if !isFolder && g.overrides.any (fun r => !r.takesBack) then true
    else
      match judge levels isFolder (g.root ++ below) with
      | .ignored => true
      | .kept => false
      | .silent => g.skipsHidden && name.isHidden

end Guide

/-! ### The walk -/

mutual

/-- An entry that is not left out, and what is visited below it. -/
def walk (g : Guide) (levels : List RuleLevel) (below : List Segment) :
    Entry → List (List Segment)
  | .file _ => [below]
  | .folder entries =>
    let levels :=
      if g.respectsIgnore then levelOf (g.root ++ below) (.folder entries) :: levels else []
    below :: walkAll g levels below entries

/-- What is visited of the entries of a folder. -/
def walkAll (g : Guide) (levels : List RuleLevel) (below : List Segment) :
    List (Segment × Entry) → List (List Segment)
  | [] => []
  | (name, entry) :: rest =>
    (if g.skips levels entry.isFolder (below ++ [name]) name then []
      else walk g levels (below ++ [name]) entry)
      ++ walkAll g levels below rest

end

/-- The rules of the folders above a place, nearest first. -/
def levelsAbove (disk : Disk) (names : List Segment) : List RuleLevel :=
  ((List.range names.length).map fun n =>
    match disk.root.find? (names.take n) with
    | some folder => levelOf (names.take n) folder
    | none => ⟨names.take n, [], [], []⟩).reverse

/-- What is visited on a disk. -/
def visits (disk : Disk) (q : WalkRequest) : List (List Segment) :=
  match disk.root.find? q.root with
  | some start =>
    walk (.ofRequest q) (if q.respectsIgnore then levelsAbove disk q.root else []) [] start
  | none => []

/-- The walker. A line that cannot be read is not taken, and all others go
together. -/
def walker : Walker :=
  { accepts := fun line => (Ignore.rule? false line).isSome
    fault? := fun _ => none
    visits := visits }

end IgnoreWalk

end DefIndex
