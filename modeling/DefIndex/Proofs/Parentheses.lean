import Mathlib.Data.List.Infix
import DefIndex.Text.Basic

/-!
# `DefIndex.Proofs.Parentheses`: how many parentheses are open

Parentheses are matched in the ordinary way, and a closing one that finds
none open is ignored. `Parens.unclosed` counts those that are open at the end
of a text, without a depth that is carried along: an opening parenthesis is
open at the end if nowhere behind it there are more closing parentheses than
opening ones.

`Parens.foldl_step` is the principal equation. A depth that goes up at each
opening parenthesis and down at each closing one, but not below zero, ends at
that number, plus what is left of the depth it started from once every
closing parenthesis without a partner has taken one away.
-/

set_option autoImplicit false

namespace DefIndex

namespace Parens

/-- An opening parenthesis in front of a text is still open at its end: up to
no place are there more closing parentheses than opening ones. -/
def StaysOpen (inside : Text) : Prop := ∀ part, part <+: inside → part.count ')' ≤ part.count '('

instance : DecidablePred StaysOpen := fun inside =>
  decidable_of_iff (∀ part ∈ inside.inits, part.count ')' ≤ part.count '(') (by
    simp only [List.mem_inits, StaysOpen])

/-- The number of opening parentheses of a text that are open at its end. -/
def unclosed (t : Text) : Nat :=
  t.tails.countP fun rest => rest.head? = some '(' ∧ StaysOpen rest.tail

/-- Nothing is open in front of a text. -/
@[simp] theorem unclosed_nil : unclosed [] = 0 := rfl

/-- The first character adds to the others what it opens itself. -/
theorem unclosed_cons (c : Char) (cs : Text) :
    unclosed (c :: cs) = unclosed cs + if c = '(' ∧ StaysOpen cs then 1 else 0 := by
  simp only [unclosed, List.tails_cons, List.countP_cons, List.head?_cons, Option.some.injEq,
    List.tail_cons, decide_eq_true_eq]

/-! ### Closing parentheses without a partner -/

/-- The number of closing parentheses that have no partner. -/
def unmatched : Text → Nat
  | [] => 0
  | c :: cs =>
    if c = '(' then unmatched cs - 1 else if c = ')' then unmatched cs + 1 else unmatched cs

/-- A start of a text is empty or takes its first character. -/
theorem forall_prefix_cons {c : Char} {cs : Text} {P : Text → Prop} :
    (∀ part, part <+: c :: cs → P part) ↔ P [] ∧ ∀ part, part <+: cs → P (c :: part) := by
  simp only [List.prefix_cons_iff, or_imp, forall_and, forall_eq, forall_exists_index, and_imp]
  exact and_congr_right fun _ => ⟨fun h part hpart => h _ part rfl hpart,
    fun h _ part heq hpart => heq ▸ h part hpart⟩

/-- So many partners in front of a text are enough for it. -/
theorem unmatched_le_iff {t : Text} {k : Nat} :
    unmatched t ≤ k ↔ ∀ part, part <+: t → part.count ')' ≤ part.count '(' + k := by
  induction t generalizing k with
  | nil => simp [unmatched]
  | cons c cs ih =>
      rw [forall_prefix_cons, unmatched]
      have hnil : ([] : Text).count ')' ≤ ([] : Text).count '(' + k := Nat.zero_le _
      rw [and_iff_right hnil]
      split
      next hopening =>
        -- The first character is a partner more for the others.
        subst hopening
        rw [Nat.sub_le_iff_le_add, ih]
        refine forall₂_congr fun part _ => ?_
        have hne : '(' ≠ ')' := by decide
        rw [List.count_cons_self, List.count_cons_of_ne hne]
        omega
      next hopening =>
        split
        next hclosing =>
          subst hclosing
          have hcount (part : Text) :
              (')' :: part).count ')' ≤ (')' :: part).count '(' + k ↔
                part.count ')' + 1 ≤ part.count '(' + k := by
            rw [List.count_cons_self, List.count_cons_of_ne hopening]
          simp only [hcount]
          cases k with
          | zero =>
              -- Nothing is in front that could be its partner.
              refine ⟨fun h => absurd h (Nat.not_succ_le_zero _), fun h => ?_⟩
              exact absurd (h [] List.nil_prefix) (by decide)
          | succ k =>
              rw [Nat.succ_le_succ_iff, ih]
              exact forall₂_congr fun part _ => Nat.succ_le_succ_iff.symm
        next hclosing =>
          rw [ih]
          refine forall₂_congr fun part _ => ?_
          rw [List.count_cons_of_ne hopening, List.count_cons_of_ne hclosing]

/-- An opening parenthesis stays open in front of a text without a need for
partners. -/
theorem unmatched_eq_zero_iff {t : Text} : unmatched t = 0 ↔ StaysOpen t := by
  rw [← Nat.le_zero, unmatched_le_iff]
  rfl

/-! ### The depth as it is carried along -/

/-- The depth behind a character. -/
def step (depth : Nat) (c : Char) : Nat :=
  if c = '(' then depth + 1 else if c = ')' then depth - 1 else depth

/-- The depth behind a text: what the text opens, and what is left of the depth
in front of it. -/
theorem foldl_step (depth : Nat) (t : Text) :
    t.foldl step depth = unclosed t + (depth - unmatched t) := by
  induction t generalizing depth with
  | nil => simp [unmatched]
  | cons c cs ih =>
      rw [List.foldl_cons, ih, unclosed_cons]
      by_cases hopening : c = '('
      · -- Either the others need this one, or it stays open.
        rw [step, if_pos hopening, unmatched, if_pos hopening]
        by_cases hzero : unmatched cs = 0
        · rw [if_pos ⟨hopening, unmatched_eq_zero_iff.1 hzero⟩]
          omega
        · rw [if_neg fun h => hzero (unmatched_eq_zero_iff.2 h.2)]
          omega
      · have hnone : ¬ (c = '(' ∧ StaysOpen cs) := fun h => hopening h.1
        rw [if_neg hnone, step, if_neg hopening, unmatched, if_neg hopening]
        split <;> omega

/-- The depth behind a text from its start. -/
theorem unclosed_eq_foldl (t : Text) : unclosed t = t.foldl step 0 := by
  rw [foldl_step, Nat.zero_sub, Nat.add_zero]

/-- The depth is carried from one text to the next. -/
theorem unclosed_append (s t : Text) : unclosed (s ++ t) = t.foldl step (unclosed s) := by
  rw [unclosed_eq_foldl, unclosed_eq_foldl, List.foldl_append]

/-- One more character. -/
theorem unclosed_concat (t : Text) (c : Char) : unclosed (t ++ [c]) = step (unclosed t) c :=
  unclosed_append t [c]

end Parens

end DefIndex
