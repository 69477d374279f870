import DefIndex.Completion

/-!
# `DefIndex.Snapshot`: one complete view of a workspace

A snapshot is built from the outlines of all files at once and never
changes: the table, the references, and for every file its problems in
order of position, as many as the settings keep. A file that could not be
read is listed with the reason and adds nothing else.

Building fails only if the imports form a cycle.
-/

set_option autoImplicit false

namespace DefIndex

/-- A file that was found and could not be read. -/
structure ReadFailure where
  file : Path
  message : Text
deriving DecidableEq, Repr

/-- The counts of a snapshot. -/
structure Summary where
  version : Nat
  files : Nat
  definitions : Nat
  references : Nat
  errors : Nat
  warnings : Nat
  unreadable : Nat
deriving DecidableEq, Repr

/-- One complete view of a workspace. -/
structure Snapshot where
  version : Nat
  table : Table
  references : ReferenceIndex
  /-- Every indexed file in order with its problems. -/
  diagnostics : List (Path × List Diagnostic)
  readFailures : List ReadFailure

namespace Snapshot

/-- The view before anything is indexed. -/
def empty : Snapshot := ⟨0, .empty, .empty, [], []⟩

/-! ### Building -/

/-- The reports on imports of files that are not indexed. -/
def missingImports (table : Table) (o : Outline) : List Diagnostic :=
  (o.imports.filter fun i => !table.containsFile i.path).map fun i =>
    (Problem.missingImport i.path).reportAt i.location

/-- Every problem of a file, in the order they are found. Where several
outlines have the path, the last one tells what reading found, and the
terms of all of them are looked up. -/
def problemsOf (table : Table) (outlines : List Outline) (file : Path) : List Diagnostic :=
  ((outlineAt? outlines file).toList.flatMap fun o => o.warnings ++ missingImports table o)
    ++ (outlines.filter fun o => o.file = file).flatMap fun o =>
      ReferenceIndex.unresolved table file o.lines

/-- Build the view of outlines. -/
def build (version : Nat) (outlines : List Outline) (readFailures : List ReadFailure)
    (maxDiagnostics : Nat) : Except ImportCycle Snapshot := do
  let table ← Table.build outlines
  return {
    version := version
    table := table
    references := .build table (outlines.map fun o => (o.file, o.lines))
    diagnostics := table.files.map fun file =>
      (file, Diagnostic.sortAndCap maxDiagnostics (problemsOf table outlines file))
    readFailures := readFailures }

/-! ### Asking -/

/-- The problems of a file. -/
def diagnosticsFor (s : Snapshot) (file : Path) : List Diagnostic :=
  (s.diagnostics.lookup file).getD []

/-- Whether a file has an entry among the problems, empty or not. -/
def covers (s : Snapshot) (file : Path) : Bool := (s.diagnostics.lookup file).isSome

/-- All problems, file by file. -/
def allDiagnostics (s : Snapshot) : List Diagnostic := s.diagnostics.flatMap Prod.snd

/-- The number of problems of a severity. -/
def count (s : Snapshot) (severity : Severity) : Nat :=
  s.allDiagnostics.countP fun d => d.severity == severity

/-- The counts of a view. -/
def summary (s : Snapshot) : Summary :=
  { version := s.version
    files := s.table.files.length
    definitions := s.table.size
    references := s.references.size
    errors := s.count .error
    warnings := s.count .warning
    unreadable := s.readFailures.length }

/-- Where a name is declared; marks of a reference at its start do not
count. -/
def resolve? (s : Snapshot) (name : Text) : Option Location :=
  s.table.locationOf? (dropSigils name)

/-- The references to a name; marks at its start do not count. -/
def referencesTo (s : Snapshot) (name : Text) : List Location :=
  s.references.find (dropSigils name)

/-- The definition that the word under a cursor names. -/
def definitionAt? (s : Snapshot) (line : Text) (character : Nat) : Option Definition :=
  (Word.at? line character).bind fun word => s.table.lookup word.name

end Snapshot

end DefIndex
