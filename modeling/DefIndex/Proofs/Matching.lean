import DefIndex.Pattern
import DefIndex.Proofs.Dotted

/-!
# `DefIndex.Proofs.Matching`: the first occurrence is always good enough

A pattern with stars is matched from left to right. The piece in front of
the first star has to start the name, every middle piece is taken where it
occurs first, and the last piece has to end what is left. Nothing is ever
tried again. This file proves that nothing has to be: the pattern matches
exactly if some texts in the places of the stars make it the name.

* `Text.afterFirst?_eq_some` and `Text.afterFirst?_eq_none`: the first
  occurrence leaves more of the text than any other one.
* `Pattern.Spread` says that pieces stand in a text one after the other,
  each behind any text. More text in front does no harm
  (`Pattern.Spread.append_left`), and that is why a later occurrence of a
  piece can be exchanged for the first one.
* `Pattern.matchRest_iff` is the induction over the pieces, and
  `Pattern.holds_iff_fills` the statement about patterns.
-/

set_option autoImplicit false

namespace DefIndex

namespace Text

/-! ### The first occurrence -/

/-- Where a text is found first it stands, and what follows any other
occurrence is an end of what follows this one. -/
theorem afterFirst?_eq_some {needle t rest : Text} (h : afterFirst? needle t = some rest) :
    (∃ before, t = before ++ needle ++ rest) ∧
      ∀ before other, t = before ++ needle ++ other → other <:+ rest := by
  induction t with
  | nil =>
      have hnil : [] = needle ++ rest := dropStart?_eq_some_iff.1 h
      refine ⟨⟨[], by simpa using hnil⟩, ?_⟩
      intro before other hother
      obtain ⟨-, rfl⟩ := List.append_eq_nil_iff.1 hother.symm
      exact List.nil_suffix
  | cons c cs ih =>
      rw [afterFirst?] at h
      cases hhere : dropStart? needle (c :: cs) with
      | some here =>
          rw [hhere] at h
          obtain rfl : here = rest := Option.some.inj h
          have hstart := dropStart?_eq_some_iff.1 hhere
          refine ⟨⟨[], by simpa using hstart⟩, ?_⟩
          intro before other hother
          -- Both are ends of the text, so the shorter one is an end of the other.
          refine List.suffix_of_suffix_length_le (hother ▸ List.suffix_append _ _)
            (hstart ▸ List.suffix_append _ _) ?_
          have hlength := congrArg List.length (hstart.symm.trans hother)
          simp only [List.length_append] at hlength
          omega
      | none =>
          rw [hhere] at h
          obtain ⟨⟨before, hbefore⟩, hlater⟩ := ih h
          refine ⟨⟨c :: before, by rw [hbefore]; rfl⟩, ?_⟩
          intro before other hother
          cases before with
          | nil =>
              -- The text does not stand at the start.
              have hstart := dropStart?_eq_some_iff.2 hother
              rw [List.nil_append, hhere] at hstart
              cases hstart
          | cons b before => exact hlater before other (List.cons.inj hother).2

/-- A text that is not found stands nowhere. -/
theorem afterFirst?_eq_none {needle t : Text} (h : afterFirst? needle t = none)
    (before rest : Text) : t ≠ before ++ needle ++ rest := by
  induction t generalizing before with
  | nil =>
      intro hnil
      obtain ⟨hfront, rfl⟩ := List.append_eq_nil_iff.1 hnil.symm
      obtain ⟨-, rfl⟩ := List.append_eq_nil_iff.1 hfront
      cases h
  | cons c cs ih =>
      rw [afterFirst?] at h
      cases hhere : dropStart? needle (c :: cs) with
      | some here =>
          rw [hhere] at h
          cases h
      | none =>
          rw [hhere] at h
          intro hstands
          cases before with
          | nil =>
              have hstart := dropStart?_eq_some_iff.2 hstands
              rw [List.nil_append, hhere] at hstart
              cases hstart
          | cons b before => exact ih h before (List.cons.inj hstands).2

/-- Pieces without the separator are those that their join is cut into. -/
theorem cut_join {sep : Char} {first : Text} {pieces : List Text}
    (h : ∀ piece ∈ first :: pieces, sep ∉ piece) :
    cut sep (join [sep] (first :: pieces)) = first :: pieces := by
  induction pieces generalizing first with
  | nil => exact cut_of_notMem (h first List.mem_cons_self)
  | cons piece pieces ih =>
      show cut sep (first ++ [sep] ++ join [sep] (piece :: pieces)) = _
      rw [List.append_assoc, List.singleton_append, cut_append_cons,
        cut_of_notMem (h first List.mem_cons_self),
        ih fun p hp => h p (List.mem_cons_of_mem _ hp)]
      rfl

end Text

namespace Pattern

/-! ### Pieces behind stars -/

/-- Pieces stand in a text one after the other, each behind any text, and
the last one at the end. -/
def Spread (pieces : List Text) (t : Text) : Prop :=
  ∃ gaps : List Text, gaps.length = pieces.length ∧
    t = (List.zipWith (· ++ ·) gaps pieces).flatten

/-- The first piece stands behind any text, the others stand behind it. -/
theorem spread_cons {piece : Text} {pieces : List Text} {t : Text} :
    Spread (piece :: pieces) t ↔ ∃ gap rest, t = gap ++ piece ++ rest ∧ Spread pieces rest := by
  constructor
  · rintro ⟨gaps, hlength, rfl⟩
    cases gaps with
    | nil => cases hlength
    | cons gap gaps =>
        refine ⟨gap, _, ?_, gaps, Nat.succ.inj hlength, rfl⟩
        rw [List.zipWith_cons_cons, List.flatten_cons]
  · rintro ⟨gap, rest, rfl, gaps, hlength, rfl⟩
    refine ⟨gap :: gaps, congrArg Nat.succ hlength, ?_⟩
    rw [List.zipWith_cons_cons, List.flatten_cons]

/-- The text behind the first star may be longer. -/
theorem Spread.append_left {piece : Text} {pieces : List Text} {t : Text}
    (h : Spread (piece :: pieces) t) (more : Text) : Spread (piece :: pieces) (more ++ t) := by
  obtain ⟨gap, rest, rfl, hrest⟩ := spread_cons.1 h
  refine spread_cons.2 ⟨more ++ gap, rest, ?_, hrest⟩
  rw [List.append_assoc, List.append_assoc, List.append_assoc]

/-- One piece stands behind any text if it ends the text. -/
theorem spread_singleton {last t : Text} : Spread [last] t ↔ ∃ gap, t = gap ++ last := by
  rw [spread_cons]
  constructor
  · rintro ⟨gap, rest, rfl, gaps, hlength, rfl⟩
    rw [List.length_eq_zero_iff.1 hlength]
    exact ⟨gap, List.append_nil _⟩
  · rintro ⟨gap, rfl⟩
    exact ⟨gap, [], (List.append_nil _).symm, [], rfl, rfl⟩

/-! ### Matching -/

/-- Taking every piece at its first occurrence finds a way to spread the
pieces if there is one. -/
theorem matchRest_iff {piece : Text} {pieces : List Text} {t : Text} :
    matchRest (piece :: pieces) t = true ↔ Spread (piece :: pieces) t := by
  induction pieces generalizing piece t with
  | nil =>
      rw [matchRest, spread_singleton, Option.isSome_iff_exists]
      simp only [Text.dropEnd?_eq_some_iff]
  | cons next pieces ih =>
      rw [spread_cons]
      cases hfirst : Text.afterFirst? piece t with
      | none =>
          have hstep : matchRest (piece :: next :: pieces) t = false := by
            simp only [matchRest, hfirst]
          refine iff_of_false (by simp [hstep]) ?_
          rintro ⟨gap, rest, hstands, -⟩
          exact Text.afterFirst?_eq_none hfirst gap rest hstands
      | some after =>
          obtain ⟨⟨before, hbefore⟩, hlater⟩ := Text.afterFirst?_eq_some hfirst
          have hstep : matchRest (piece :: next :: pieces) t
              = matchRest (next :: pieces) after := by
            simp only [matchRest, hfirst]
          rw [hstep, ih]
          constructor
          · intro hspread
            exact ⟨before, after, hbefore, hspread⟩
          · -- The piece may stand further back. Then what lies between its
            -- first occurrence and this one goes to the next star.
            rintro ⟨gap, rest, hstands, hspread⟩
            obtain ⟨more, rfl⟩ := hlater gap rest hstands
            exact hspread.append_left more

/-- A pattern with stars matches a name exactly if texts in the places of the
stars make it the name. -/
theorem holds_iff_fills (pattern name first : Text) (pieces : List Text)
    (hstar : '*' ∈ pattern) (hpieces : Text.join ['*'] (first :: pieces) = pattern)
    (hplain : ∀ piece ∈ first :: pieces, '*' ∉ piece) :
    holds pattern name = true ↔ ∃ gaps : List Text, gaps.length = pieces.length ∧
      name = first ++ (List.zipWith (· ++ ·) gaps pieces).flatten := by
  have hcut : Text.cut '*' pattern = first :: pieces := by
    rw [← hpieces, Text.cut_join hplain]
  cases pieces with
  | nil =>
      -- One piece has no star between its neighbours.
      rw [Text.join] at hpieces
      exact absurd (hpieces ▸ hstar) (hplain first List.mem_cons_self)
  | cons piece pieces =>
      rw [holds, if_pos (List.contains_iff_mem.2 hstar), hcut, matchPieces]
      cases hrest : Text.dropStart? first name with
      | none =>
          refine iff_of_false Bool.false_ne_true ?_
          rintro ⟨gaps, -, hname⟩
          rw [Text.dropStart?_eq_some_iff.2 hname] at hrest
          cases hrest
      | some rest =>
          obtain rfl := Text.dropStart?_eq_some_iff.1 hrest
          show matchRest (piece :: pieces) rest = true ↔ _
          rw [matchRest_iff]
          simp only [List.append_cancel_left_eq]
          exact Iff.rfl

/-- Two stars in a row, an empty piece between them, and a piece that stands
twice in the name. -/
theorem holds_doubledStar :
    holds "*ab**b" "abxabb" = true ∧ ∃ gaps : List Text, gaps.length = 3 ∧
      ("abxabb" : Text)
        = [] ++ (List.zipWith (· ++ ·) gaps (["ab", "", "b"] : List Text)).flatten := by
  have hholds : holds "*ab**b" "abxabb" = true := by decide
  have hfills := holds_iff_fills "*ab**b" "abxabb" [] ["ab", "", "b"] (by decide) (by decide)
    (by decide)
  exact ⟨hholds, hfills.1 hholds⟩

end Pattern

end DefIndex
