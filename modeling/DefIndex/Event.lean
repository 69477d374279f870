import DefIndex.Comment
import DefIndex.Text.CharClass

/-!
# `DefIndex.Event`: statements and braces, from left to right

A clean line is cut at its braces and at every `;` that stands outside
parentheses. Parentheses carry over from line to line; a closing one
without a partner is ignored. A brace counts wherever it stands.

A piece that is all blank is no statement, unless a `;` ends it: an
empty terminated statement still cancels a declaration that waits for
its block.

* `Event.split` cuts one line at a parenthesis depth.
* `Event.ofLines` cuts a file, tagging each event with its line.
-/

set_option autoImplicit false

namespace DefIndex

/-- One piece of a clean line. Columns count from one. -/
inductive Event where
  /-- Text between braces and terminators, with the column of its first
  character and the number of parentheses open there. -/
  | statement (text : Text) (column depth : Nat) (terminated : Bool)
  /-- An opening brace. -/
  | opening (column : Nat)
  /-- A closing brace. -/
  | closing (column : Nat)
deriving DecidableEq, Repr

namespace Event

/-- A piece of a line while it is being read: its characters so far, last
first, and where it started. -/
structure Piece where
  reversed : Text
  column : Nat
  depth : Nat
deriving DecidableEq, Repr

/-- A piece that starts at a column. -/
def Piece.start (column depth : Nat) : Piece := ⟨[], column, depth⟩

/-- The piece with one more character. -/
def Piece.push (p : Piece) (c : Char) : Piece := { p with reversed := c :: p.reversed }

/-- The statement that a finished piece is, if it is one. -/
def Piece.finish (p : Piece) (terminated : Bool) : List Event :=
  if terminated || !Text.allBlank p.reversed then
    [.statement p.reversed.reverse p.column p.depth terminated]
  else []

/-- Put events in front of what the rest of a line gives. -/
def lead (events : List Event) (rest : List Event × Nat) : List Event × Nat :=
  (events ++ rest.1, rest.2)

/-- Cut the rest of a line, standing at a column with some parentheses
open and a piece begun. -/
def splitFrom (column depth : Nat) (piece : Piece) : Text → List Event × Nat
  | [] => (piece.finish false, depth)
  | c :: cs =>
    if c = '{' then
      lead (piece.finish false ++ [.opening column])
        (splitFrom (column + 1) depth (.start (column + 1) depth) cs)
    else if c = '}' then
      lead (piece.finish false ++ [.closing column])
        (splitFrom (column + 1) depth (.start (column + 1) depth) cs)
    -- Inside parentheses a semicolon only separates arguments.
    else if c = ';' ∧ depth = 0 then
      lead (piece.finish true)
        (splitFrom (column + 1) 0 (.start (column + 1) 0) cs)
    else if c = '(' then splitFrom (column + 1) (depth + 1) (piece.push c) cs
    else if c = ')' then splitFrom (column + 1) (depth - 1) (piece.push c) cs
    else splitFrom (column + 1) depth (piece.push c) cs

/-- Cut one line that starts at a parenthesis depth; the second part is
the depth at its end. -/
def split (depth : Nat) (line : Text) : List Event × Nat :=
  splitFrom 1 depth (.start 1 depth) line

/-- Cut lines one after the other, the depth carried along. -/
def splitLines : Nat → List Text → List (List Event × Nat)
  | _, [] => []
  | depth, line :: rest =>
    let cut := split depth line
    cut :: splitLines cut.2 rest

/-- The events of clean lines, each with the number of its line. -/
def ofLines (depth : Nat) : List CleanLine → List (Nat × Event)
  | [] => []
  | line :: rest =>
    let cut := split depth line.text
    cut.1.map (fun event => (line.number, event)) ++ ofLines cut.2 rest

end Event

end DefIndex
