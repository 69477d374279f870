import DefIndex.Path

/-!
# `DefIndex.Location`: places in source files

Lines and columns count from one, columns in characters; the end column
is the first one past the span.
-/

set_option autoImplicit false

namespace DefIndex

/-- A span of source text. -/
structure Location where
  file : Path
  line : Nat
  column : Nat
  endLine : Nat
  endColumn : Nat
deriving DecidableEq, Repr

namespace Location

/-- A span of `length` characters on one line. -/
def span (file : Path) (line column length : Nat) : Location :=
  ⟨file, line, column, line, column + length⟩

/-- Order by file, then line, then column. -/
def le (a b : Location) : Bool :=
  match compare a.file b.file with
  | .lt => true
  | .gt => false
  | .eq => decide (a.line < b.line) || (a.line == b.line && decide (a.column ≤ b.column))

end Location

end DefIndex
