import DefIndex.Location
import DefIndex.Sorting

/-!
# `DefIndex.Diagnostic`: problems found while indexing

A `Problem` is a cause, with the severity and the wording that the index
reports for it. A `Diagnostic` is a message at a location; clients send
diagnostics back, so `Diagnostic.invalidTerm?` reads the unresolved term
out of a message again.
-/

set_option autoImplicit false

namespace DefIndex

/-- How grave a problem is. -/
inductive Severity where
  | error
  | warning
deriving DecidableEq, Repr

/-- The written form of a severity. -/
def Severity.text : Severity → Text
  | .error => "error"
  | .warning => "warning"

/-- What can be wrong with a source file. -/
inductive Problem where
  /-- A reference whose term is no full name of the table. -/
  | unresolved (term : Text)
  /-- A second declaration of a full name in one file. -/
  | duplicate (fullName : Text) (firstLine : Nat)
  /-- A closing brace with nothing to close. -/
  | strayBrace
  /-- An import outside every declaration. -/
  | strayImport
  /-- An import of a file that is not indexed. -/
  | missingImport (path : Path)
deriving DecidableEq, Repr

namespace Problem

/-- Only an unresolved term is an error. -/
def severity : Problem → Severity
  | unresolved _ => .error
  | _ => .warning

/-- The words before an unresolved term. -/
def termLead : Text := "Term: "

/-- The words after an unresolved term. -/
def termTail : Text := " is invalid!"

/-- The wording of a problem. -/
def message : Problem → Text
  | unresolved term => termLead ++ term ++ termTail
  | duplicate fullName firstLine =>
    "Duplicate definition: " ++ fullName ++ " (first declared at line "
      ++ Text.ofNat firstLine ++ ")"
  | strayBrace => "Unbalanced '\x7d' ignored"
  | strayImport => "IMPORT outside of a definition scope is ignored"
  | missingImport path => "Imported file not found: " ++ path.render

end Problem

/-- A message at a place. -/
structure Diagnostic where
  message : Text
  severity : Severity
  location : Location
deriving DecidableEq, Repr

/-- The diagnostic that reports a problem at a location. -/
def Problem.reportAt (problem : Problem) (location : Location) : Diagnostic :=
  ⟨problem.message, problem.severity, location⟩

namespace Diagnostic

/-- The term between the fixed words of an unresolved-term message. -/
def termOf? (message : Text) : Option Text :=
  (Text.dropStart? Problem.termLead message).bind (Text.dropEnd? Problem.termTail)

/-- The unresolved term that a diagnostic is about, if any. -/
def invalidTerm? (d : Diagnostic) : Option Text := termOf? d.message

/-- Whether a diagnostic is an error. -/
def isError (d : Diagnostic) : Bool := d.severity == .error

/-- The one-line form, under a name for the file: line, column, severity,
message. -/
def displayIn (file : Text) (d : Diagnostic) : Text :=
  file ++ ":" ++ Text.ofNat d.location.line ++ ":"
    ++ Text.ofNat d.location.column ++ ": " ++ d.severity.text ++ ": " ++ d.message

/-- The one-line form under the path of the file. -/
def display (d : Diagnostic) : Text := displayIn d.location.file.render d

/-- Order by line, then column. -/
def le (a b : Diagnostic) : Bool :=
  decide (a.location.line < b.location.line)
    || (a.location.line == b.location.line
      && decide (a.location.column ≤ b.location.column))

/-- The first `limit` diagnostics in order of position. -/
def sortAndCap (limit : Nat) (ds : List Diagnostic) : List Diagnostic :=
  (sortBy le ds).take limit

/-- The message of an unresolved term gives the term back. -/
theorem termOf?_unresolved (term : Text) :
    termOf? (Problem.unresolved term).message = some term := by
  show (Text.dropStart? Problem.termLead
    (Problem.termLead ++ term ++ Problem.termTail)).bind _ = _
  rw [List.append_assoc, Text.dropStart?_eq_some_iff.2 rfl]
  exact Text.dropEnd?_eq_some_iff.2 rfl

end Diagnostic

end DefIndex
