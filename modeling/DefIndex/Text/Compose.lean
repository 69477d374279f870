import DefIndex.Text.Basic
import DefIndex.Text.Canonical

/-!
# `DefIndex.Text.Compose`: one spelling for a character with marks

The same letter with an accent may be written as one character or as two,
and several marks on one letter in any order. `compose` gives every such
spelling the same form: characters are taken apart, the marks after each
are put in the order of their classes, and what can be written as one
character is put together again.
-/

set_option autoImplicit false

namespace DefIndex.Text

/-! ### Classes -/

/-- The combining class of a character; zero if others do not pass it. -/
def combiningClass (c : Char) : Nat :=
  ((combiningClasses.find? fun (first, last, _) =>
    decide (first ≤ c.toNat) && decide (c.toNat ≤ last)).map fun (_, _, k) => k).getD 0

/-- A character with its combining class. -/
abbrev Classed := Char × Nat

/-! ### Syllables

A syllable of Hangul is a lead consonant, a vowel and perhaps a tail
consonant, and the syllables are numbered in that order. -/

/-- The parts of a syllable, if the character is one. -/
def syllableParts? (n : Nat) : Option (List Nat) :=
  if 0xAC00 ≤ n ∧ n ≤ 0xD7A3 then
    let k := n - 0xAC00
    let lead := 0x1100 + k / 588
    let vowel := 0x1161 + k % 588 / 28
    if k % 28 = 0 then some [lead, vowel] else some [lead, vowel, 0x11A7 + k % 28]
  else none

/-- The syllable of a lead and a vowel, or of a syllable without a tail
and a tail. -/
def syllable? (a b : Nat) : Option Nat :=
  if 0x1100 ≤ a ∧ a ≤ 0x1112 ∧ 0x1161 ≤ b ∧ b ≤ 0x1175 then
    some (0xAC00 + ((a - 0x1100) * 21 + (b - 0x1161)) * 28)
  else if 0xAC00 ≤ a ∧ a ≤ 0xD7A3 ∧ (a - 0xAC00) % 28 = 0 ∧ 0x11A8 ≤ b ∧ b ≤ 0x11C2 then
    some (a + (b - 0x11A7))
  else none

/-! ### Taking apart -/

/-- The pair that a code point stands for, if it may be put together
again. -/
def pair? (n : Nat) : Option (Nat × Nat) :=
  compositions.findSome? fun (second, pairs) =>
    (pairs.find? fun (_, whole) => whole == n).map fun (first, _) => (first, second)

/-- The code points that one is made of. Only the first of a pair can be
taken apart further, and no character has more than `depth` parts. -/
def partsOf : (depth : Nat) → Nat → List Nat
  | 0, n => [n]
  | depth + 1, n =>
    match pair? n with
    | some (first, second) => partsOf depth first ++ [second]
    | none => [n]

/-- A character taken apart. -/
def decomposeChar (c : Char) : Text :=
  if c.toNat < 0xC0 then [c]
  else
    match (syllableParts? c.toNat).orElse fun _ =>
        separations.findSome? (CodeBlock.image? · c.toNat) with
    | some parts => parts.map Char.ofNat
    | none => (partsOf 4 c.toNat).map Char.ofNat

/-! ### The order of marks -/

/-- Put a character in front of characters in order: it goes behind the
marks of a lower class. -/
def insertClassed (x : Classed) : List Classed → List Classed
  | [] => [x]
  | y :: ys =>
    if y.2 ≠ 0 ∧ y.2 < x.2 then y :: insertClassed x ys else x :: y :: ys

/-- Put the marks after each character in the order of their classes;
marks of one class keep their order. -/
def orderMarks (t : List Classed) : List Classed := t.foldr insertClassed []

/-- A text taken apart, its marks in order. -/
def decompose (t : Text) : List Classed :=
  orderMarks ((t.flatMap decomposeChar).map fun c => (c, combiningClass c))

/-! ### Putting together -/

/-- The character that two are written as, if there is one. -/
def composite? (a b : Char) : Option Char :=
  ((syllable? a.toNat b.toNat).orElse fun _ =>
    (compositions.lookup b.toNat).bind fun pairs => pairs.lookup a.toNat).map Char.ofNat

/-- Put characters together: `base` is the last one of class zero, and
`marks`, latest first, are those after it that it did not take. A
character cannot reach its base past a mark of its own class or a higher
one. -/
def composeAfter (base : Char) (marks : List Classed) : List Classed → Text
  | [] => base :: (marks.map Prod.fst).reverse
  | (c, k) :: rest =>
    let reaches : Bool := match marks with
      | [] => true
      | (_, last) :: _ => decide (last < k)
    match if reaches then composite? base c else none with
    | some whole => composeAfter whole marks rest
    | none =>
      if k = 0 then base :: (marks.map Prod.fst).reverse ++ composeAfter c [] rest
      else composeAfter base ((c, k) :: marks) rest

/-- Put characters together. Marks in front of the first character of
class zero stay. -/
def recompose : List Classed → Text
  | [] => []
  | (c, k) :: rest => if k = 0 then composeAfter c [] rest else c :: recompose rest

/-- The composed form of a text. -/
def compose (t : Text) : Text :=
  if t.all fun c => decide (c.toNat < 0xC0) then t else recompose (decompose t)

end DefIndex.Text
