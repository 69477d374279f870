/-!
# `DefIndex.Text.CodeRange`: sets of characters as ranges of code points

A character property of the Unicode standard is a list of closed ranges
of code points. The tables of this folder are such lists;
`inRanges` asks whether a character lies in one of them.
-/

set_option autoImplicit false

namespace DefIndex.Text

/-- A closed range of code points, first and last. -/
abbrev CodeRange := Nat × Nat

/-- Whether a code point lies in a range. -/
def CodeRange.covers (r : CodeRange) (n : Nat) : Bool :=
  decide (r.1 ≤ n) && decide (n ≤ r.2)

/-- Whether a character lies in one of the ranges. -/
def inRanges (rs : List CodeRange) (c : Char) : Bool :=
  rs.any fun r => r.covers c.toNat

/-- Membership in a table, as an existence statement. -/
theorem inRanges_eq_true_iff {rs : List CodeRange} {c : Char} :
    inRanges rs c = true ↔ ∃ r ∈ rs, r.1 ≤ c.toNat ∧ c.toNat ≤ r.2 := by
  simp [inRanges, CodeRange.covers]

end DefIndex.Text
