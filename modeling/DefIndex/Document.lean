import DefIndex.Text.Basic

/-!
# `DefIndex.Document`: an open text and its edits

An editor counts lines and characters from zero, in 32 bits. A character
past the end of a line means the end of the line, before its line end.
The line after the last one has a single position, the end of the text.

* `Document.offset?` turns a position into a number of characters.
* `Document.apply` carries out changes, one after the other; a change
  whose range does not resolve, or runs backwards, does nothing.
-/

set_option autoImplicit false

namespace DefIndex

/-- A place in a document, counted from zero. -/
structure Position where
  line : UInt32
  character : UInt32
deriving DecidableEq, Repr

/-- A stretch of a document. -/
structure Range where
  start : Position
  stop : Position
deriving DecidableEq, Repr

/-- A change of a document: a new text for a range, or for everything. -/
structure Change where
  range : Option Range
  text : Text
deriving DecidableEq, Repr

/-- A text that is open in an editor. -/
structure Document where
  content : Text
  version : Int
deriving DecidableEq, Repr

namespace Document

/-- The lines of a text, each with its line feed. -/
def linePieces : Text → List Text
  | [] => []
  | '\n' :: cs => ['\n'] :: linePieces cs
  | c :: cs =>
    match linePieces cs with
    | [] => [[c]]
    | piece :: pieces => (c :: piece) :: pieces

/-- The number of characters of a line before its line end. -/
def bodyLength (piece : Text) : Nat :=
  (Text.dropEndWhile (fun c => c == '\n' || c == '\r') piece).length

/-- The number of characters before a place in the given lines. -/
def offsetIn? : List Text → (line character : Nat) → Option Nat
  | [], line, character => if line = 0 ∧ character = 0 then some 0 else none
  | piece :: _, 0, character => some (min character (bodyLength piece))
  | piece :: pieces, line + 1, character =>
    (offsetIn? pieces line character).map (piece.length + ·)

/-- The number of characters before a position, if the position exists. -/
def offset? (d : Document) (p : Position) : Option Nat :=
  offsetIn? (linePieces d.content) p.line.toNat p.character.toNat

/-- The content with the characters from `first` up to `last` replaced. -/
def replace (content : Text) (first last : Nat) (text : Text) : Text :=
  content.take first ++ text ++ content.drop last

/-- Carry out one change. -/
def change (d : Document) (c : Change) : Document :=
  match c.range with
  | none => { d with content := c.text }
  | some range =>
    match d.offset? range.start, d.offset? range.stop with
    | some first, some last =>
      if first ≤ last then { d with content := replace d.content first last c.text } else d
    | _, _ => d

/-- Carry out changes in order and take a new version. -/
def apply (d : Document) (changes : List Change) (version : Int) : Document :=
  { changes.foldl change d with version := version }

/-- The text of a line, without its line end. -/
def line? (d : Document) (n : Nat) : Option Text := (Text.lines d.content)[n]?

/-- Everything before a position; everything if it does not exist. -/
def before (d : Document) (p : Position) : Text :=
  d.content.take ((d.offset? p).getD d.content.length)

end Document

end DefIndex
