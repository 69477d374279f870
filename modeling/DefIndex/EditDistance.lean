import DefIndex.Text.Basic

/-!
# `DefIndex.EditDistance`: how many edits lie between two texts

The distance counts insertions, deletions and substitutions of single
characters. The table of distances between the starts of two texts is filled
row by row, one row for each character of the first text, and two rows are
enough: one is read while the other one is written, then the two change
places. A row that is written again still holds its old numbers, and each of
them is written over before it is read.

* `Rows` are the two rows, and `Rows.take` writes one for a character.
* `fill` writes a row from left to right.
-/

set_option autoImplicit false

namespace DefIndex.EditDistance

/-- The row that is read and the one that is written next. -/
structure Rows where
  previous : Array Nat
  current : Array Nat
deriving Repr

/-- The number behind column `j` of the row that is written: the characters
`a` and `b` are matched or substituted, or one of them is left out. -/
def cell (previous current : Array Nat) (a b : Char) (j : Nat) : Nat :=
  let substitution := previous.getD j 0 + if a = b then 0 else 1
  min (min substitution (previous.getD (j + 1) 0 + 1)) (current.getD j 0 + 1)

/-- Write the row of the character `a` behind column `j`, for the rest of the
second text. -/
def fill (previous : Array Nat) (a : Char) (j : Nat) : Text → Array Nat → Array Nat
  | [], current => current
  | b :: bs, current =>
    fill previous a (j + 1) bs (current.setIfInBounds (j + 1) (cell previous current a b j))

/-- The first row, the distances from the empty text, and a row of zeros. -/
def Rows.start (b : Text) : Rows :=
  ⟨(List.range (b.length + 1)).toArray, Array.replicate (b.length + 1) 0⟩

/-- Write the row of the character `a` with `i` characters before it, and let
the rows change places. -/
def Rows.take (b : Text) (i : Nat) (a : Char) (rows : Rows) : Rows :=
  ⟨fill rows.previous a 0 b (rows.current.setIfInBounds 0 (i + 1)), rows.previous⟩

/-- Write one row after the other for the characters from the `i`-th on. -/
def Rows.takeAll (b : Text) (i : Nat) : Text → Rows → Rows
  | [], rows => rows
  | a :: as, rows => takeAll b (i + 1) as (rows.take b i a)

/-- The edit distance of two texts. -/
def distance (a b : Text) : Nat :=
  if a.isEmpty then b.length
  else if b.isEmpty then a.length
  else (Rows.takeAll b 0 a (.start b)).previous.getD b.length 0

end DefIndex.EditDistance
