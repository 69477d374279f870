import DefIndex.Text.Basic

/-!
# `DefIndex.Comment`: source text with its comments blanked out

A `//` comment covers the rest of its line, a `/*` comment everything
through the first `*/` after it, across lines, or to the end of the
text. Outside comments the earliest of the two marks opens one, and
inside a comment no mark opens another. Every covered character,
the marks included, becomes a blank, so a column of a clean line is the
column of the file.

* `Comment.blankOut` reads one line from a state.
* `Comment.cleanLines` reads a whole text, numbering its lines from one.
-/

set_option autoImplicit false

namespace DefIndex

/-- Where the reader stands between two characters. -/
inductive CommentState where
  /-- Outside every comment. -/
  | code
  /-- In a comment that ends with the line. -/
  | line
  /-- In a comment that ends with `*/`. -/
  | block
deriving DecidableEq, Repr, Inhabited

/-- The state after the end of a line: a line comment never outlives its
line. -/
def CommentState.afterLine : CommentState → CommentState
  | .line => .code
  | state => state

/-- One physical line with its comments blanked out. -/
structure CleanLine where
  number : Nat
  text : Text
deriving DecidableEq, Repr

namespace Comment

/-- Put characters in front of what the rest of a line reads as. -/
def lead (cs : Text) (rest : Text × CommentState) : Text × CommentState :=
  (cs ++ rest.1, rest.2)

/-- Blank out the comments of a line, or of the rest of one, and tell the
state at its end. -/
def blankOut : CommentState → Text → Text × CommentState
  | state, [] => ([], state)
  | .code, '/' :: '/' :: cs => lead [' ', ' '] (blankOut .line cs)
  | .code, '/' :: '*' :: cs => lead [' ', ' '] (blankOut .block cs)
  | .code, c :: cs => lead [c] (blankOut .code cs)
  | .block, '*' :: '/' :: cs => lead [' ', ' '] (blankOut .code cs)
  | .block, _ :: cs => lead [' '] (blankOut .block cs)
  | .line, _ :: cs => lead [' '] (blankOut .line cs)

/-- A clean line and the state that the next line starts in. -/
def cleanLine (state : CommentState) (line : Text) : Text × CommentState :=
  let (text, last) := blankOut state line
  (text, last.afterLine)

/-- Read lines one after the other, each from the state the one before it
ended in. -/
def cleanFrom : CommentState → List Text → List (Text × CommentState)
  | _, [] => []
  | state, line :: rest =>
    let clean := cleanLine state line
    clean :: cleanFrom clean.2 rest

/-- Number texts from `n` on. -/
def numberFrom : Nat → List Text → List CleanLine
  | _, [] => []
  | n, text :: rest => ⟨n, text⟩ :: numberFrom (n + 1) rest

/-- The clean lines of a source text. -/
def cleanLines (source : Text) : List CleanLine :=
  numberFrom 1 ((cleanFrom .code (Text.lines source)).map Prod.fst)

/-! ### Small laws -/

/-- Blanking out keeps the length, so every column stays in place. -/
theorem length_blankOut (state : CommentState) (t : Text) :
    (blankOut state t).1.length = t.length := by
  fun_induction blankOut state t <;> simp_all [lead]

end Comment

end DefIndex
