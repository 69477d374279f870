import DefIndex.Table

/-!
# `DefIndex.Reference`: terms, and who refers to what

A reference is a `?` and the term after it, a full name. A term runs up
to white space, a parenthesis, a brace, a comma, a semicolon or another
`?`. It resolves only if it is a full name of the table, letter by
letter; there is no look-up relative to where it stands.

* `Term.ofLines` lists the terms of a file.
* `ReferenceIndex.build` resolves all terms of a workspace: each is
  recorded under its name or reported.
* `Word.at?` is the dotted word under a cursor.
-/

set_option autoImplicit false

namespace DefIndex

/-- The mark of a reference. -/
def sigil : Char := '?'

/-- A text without the marks at its start. -/
def dropSigils (t : Text) : Text := t.dropWhile (· == sigil)

/-! ### Terms -/

/-- The term of a reference, without the mark. -/
structure Term where
  text : Text
  location : Location
deriving DecidableEq, Repr

namespace Term

/-- Whether a character ends a term. -/
def ends (c : Char) : Bool :=
  Text.isBlank c || ['(', ')', '{', '}', ',', ';', sigil].contains c

/-- The term that a text starts with. -/
def run (t : Text) : Text := t.takeWhile fun c => !ends c

/-- The terms of a line from a column on, each with its column. A mark
without a term after it is skipped. -/
def scan (column : Nat) : Text → List (Nat × Text)
  | [] => []
  | c :: cs =>
    if c = sigil ∧ run cs ≠ [] then (column + 1, run cs) :: scan (column + 1) cs
    else scan (column + 1) cs

/-- The terms of a clean line. -/
def ofLine (file : Path) (line : CleanLine) : List Term :=
  (scan 1 line.text).map fun (column, text) =>
    ⟨text, .span file line.number column text.length⟩

/-- The terms of clean lines, from left to right and top to bottom. -/
def ofLines (file : Path) (lines : List CleanLine) : List Term :=
  lines.flatMap (ofLine file)

end Term

/-! ### The reference index -/

/-- The places that refer to each full name. -/
structure ReferenceIndex where
  byName : Std.TreeMap Text (List Location)

namespace ReferenceIndex

/-- No references. -/
def empty : ReferenceIndex := ⟨∅⟩

/-- Record a reference. -/
def add (index : ReferenceIndex) (term : Term) : ReferenceIndex :=
  ⟨index.byName.insert term.text (index.byName.getD term.text [] ++ [term.location])⟩

/-- The references to a full name. -/
def find (index : ReferenceIndex) (fullName : Text) : List Location :=
  index.byName.getD fullName []

/-- Names with their references, in order of the names. -/
def toList (index : ReferenceIndex) : List (Text × List Location) := index.byName.toList

/-- The number of references. -/
def size (index : ReferenceIndex) : Nat :=
  (index.toList.flatMap Prod.snd).length

/-- Whether no name has references. -/
def isEmpty (index : ReferenceIndex) : Bool := index.byName.isEmpty

/-- Every list in order of file, line and column. -/
def sort (index : ReferenceIndex) : ReferenceIndex :=
  ⟨index.byName.map fun _ locations => sortBy Location.le locations⟩

/-- All terms of files, file by file. -/
def termsOf (files : List (Path × List CleanLine)) : List Term :=
  files.flatMap fun (file, lines) => Term.ofLines file lines

/-- The terms that resolve, recorded under their names. -/
def build (table : Table) (files : List (Path × List CleanLine)) : ReferenceIndex :=
  (((termsOf files).filter fun t => table.contains t.text).foldl add empty).sort

/-- The reports on the terms of a file that do not resolve. -/
def unresolved (table : Table) (file : Path) (lines : List CleanLine) : List Diagnostic :=
  ((Term.ofLines file lines).filter fun t => !table.contains t.text).map fun t =>
    (Problem.unresolved t.text).reportAt t.location

end ReferenceIndex

/-! ### The word under a cursor -/

/-- A run of alphanumerics, underscores and dots on a line. Columns count
from zero, the end exclusive. -/
structure Word where
  text : Text
  start : Nat
  stop : Nat
  /-- Whether the mark of a reference stands directly before it. -/
  referenced : Bool
deriving DecidableEq, Repr

namespace Word

/-- Whether a character belongs to a word. -/
def isPart (c : Char) : Bool := Text.isAlphanumeric c || c == '_' || c == '.'

/-- The text without dots at its ends. -/
def name (w : Word) : Text := Text.trimBy (· == '.') w.text

/-- The word that a cursor touches, also one that ends directly before
it. A cursor past the end of the line stands at its end. -/
def at? (line : Text) (character : Nat) : Option Word :=
  let cursor := min character line.length
  let before := line.take cursor
  let left := Text.takeEndWhile isPart before
  let right := (line.drop cursor).takeWhile isPart
  if left.isEmpty && right.isEmpty then none
  else some
    { text := left ++ right
      start := cursor - left.length
      stop := cursor + right.length
      referenced := (Text.dropEndWhile isPart before).getLast? == some sigil }

/-- The word typed directly before the end of a line, with the mark of a
reference if it has one. -/
def typed (line : Text) : Text :=
  let word := Text.takeEndWhile isPart line
  if (Text.dropEndWhile isPart line).getLast? == some sigil then sigil :: word else word

end Word

end DefIndex
