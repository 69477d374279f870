import Mathlib.Data.List.Infix
import DefIndex.Proofs.EventOrder

/-!
# `DefIndex.Proofs.Braces`: which braces are open

Braces are matched in the ordinary way: a closing brace closes the
innermost brace that is open, and one that finds none open closes nothing.
This file says so without a stack. An opening brace is still open at the
end of a text if nowhere behind it there are more closing braces than
opening ones.

* `Braces.StaysOpen` and `Braces.HasOpen` are about texts. Both can be
  decided, and both look at nothing but braces (`Braces.hasOpen_filter`).
* `inTurn` collects what elements give in view of those before them.
* `Event.filterMap_mark?_ofLines`: cutting lines into events keeps every
  brace at its place.
-/

set_option autoImplicit false

namespace DefIndex

/-! ### Elements in view of those before them -/

section InTurn

variable {α β γ : Type}

/-- What the elements of a list give, each in view of those before it;
`past` is what came before the list. -/
def inTurnFrom (f : List α → α → Option β) (past : List α) : List α → List β
  | [] => []
  | x :: xs => (f past x).toList ++ inTurnFrom f (past ++ [x]) xs

/-- What the elements of a list give, each in view of those before it. -/
def inTurn (f : List α → α → Option β) (xs : List α) : List β := inTurnFrom f [] xs

/-- The last element is seen in view of all others. -/
theorem inTurn_concat (f : List α → α → Option β) (xs : List α) (x : α) :
    inTurn f (xs ++ [x]) = inTurn f xs ++ (f xs x).toList := by
  have hfrom (past : List α) :
      inTurnFrom f past (xs ++ [x]) = inTurnFrom f past xs ++ (f (past ++ xs) x).toList := by
    induction xs generalizing past with
    | nil => simp [inTurnFrom]
    | cons y ys ih => simp [inTurnFrom, ih]
  exact hfrom []

/-- A view of a list gives what the list gives through the view. -/
theorem inTurn_map (f : List β → β → Option γ) (g : α → β) (xs : List α) :
    inTurn f (xs.map g) = inTurn (fun past x => f (past.map g) (g x)) xs := by
  induction xs using List.reverseRecOn with
  | nil => rfl
  | append_singleton xs x ih => rw [List.map_append, List.map_singleton, inTurn_concat, ih,
      inTurn_concat]

/-- What is collected comes from an element in view of those before it. -/
theorem exists_of_mem_inTurn {f : List α → α → Option β} {xs : List α} {y : β}
    (hy : y ∈ inTurn f xs) : ∃ past, ∃ x ∈ xs, f past x = some y := by
  induction xs using List.reverseRecOn with
  | nil => cases hy
  | append_singleton xs x ih =>
      rw [inTurn_concat, List.mem_append, Option.mem_toList] at hy
      rcases hy with hy | hy
      · obtain ⟨past, x', hx', hfound⟩ := ih hy
        exact ⟨past, x', List.mem_append_left _ hx', hfound⟩
      · exact ⟨xs, x, by simp, hy⟩

end InTurn

/-! ### Texts -/

namespace Braces

/-- An opening brace in front of a text is still open at its end: up to no
place are there more closing braces than opening ones. -/
def StaysOpen (inside : Text) : Prop := ∀ part, part <+: inside → part.count '}' ≤ part.count '{'

/-- An opening brace of a text is still open at its end. -/
def HasOpen (t : Text) : Prop := ∃ outer inside, t = outer ++ '{' :: inside ∧ StaysOpen inside

instance : DecidablePred StaysOpen := fun inside =>
  decidable_of_iff (∀ part ∈ inside.inits, part.count '}' ≤ part.count '{') (by
    simp only [List.mem_inits, StaysOpen])

instance : DecidablePred HasOpen := fun t =>
  decidable_of_iff (∃ rest ∈ t.tails, rest.head? = some '{' ∧ StaysOpen rest.tail) (by
    constructor
    · rintro ⟨rest, hrest, hhead, hopen⟩
      obtain ⟨outer, rfl⟩ := (List.mem_tails _ _).1 hrest
      obtain ⟨inside, rfl⟩ := List.head?_eq_some_iff.1 hhead
      exact ⟨outer, inside, rfl, hopen⟩
    · rintro ⟨outer, inside, rfl, hopen⟩
      exact ⟨'{' :: inside, (List.mem_tails _ _).2 (List.suffix_append _ _), rfl, hopen⟩)

/-- Nothing closes a brace that nothing comes after. -/
theorem staysOpen_nil : StaysOpen [] := by
  intro part hpart
  rw [List.prefix_nil.1 hpart]
  exact Nat.le_refl _

/-- Of a text that is longer by one character only the whole is new. -/
theorem staysOpen_concat {t : Text} {c : Char} :
    StaysOpen (t ++ [c]) ↔ StaysOpen t ∧ (t ++ [c]).count '}' ≤ (t ++ [c]).count '{' := by
  constructor
  · intro h
    exact ⟨fun part hpart => h part (hpart.trans (List.prefix_append _ _)),
      h _ (List.prefix_refl _)⟩
  · rintro ⟨hopen, hwhole⟩ part hpart
    rcases List.prefix_concat_iff.1 hpart with rfl | hpart
    · exact hwhole
    · exact hopen part hpart

/-- One more opening brace. -/
theorem count_concat_opening (t : Text) :
    (t ++ ['{']).count '{' = t.count '{' + 1 ∧ (t ++ ['{']).count '}' = t.count '}' := by
  simp

/-- One more closing brace. -/
theorem count_concat_closing (t : Text) :
    (t ++ ['}']).count '{' = t.count '{' ∧ (t ++ ['}']).count '}' = t.count '}' + 1 := by
  simp

/-- Whether a character is a brace. -/
def isBrace (c : Char) : Bool := c == '{' || c == '}'

/-- Leaving out what is no brace leaves the braces. -/
theorem count_filter (t : Text) :
    (t.filter isBrace).count '{' = t.count '{' ∧ (t.filter isBrace).count '}' = t.count '}' :=
  ⟨List.count_filter rfl, List.count_filter rfl⟩

/-- Whether a brace stays open is up to the braces. -/
theorem staysOpen_filter {t : Text} : StaysOpen (t.filter isBrace) ↔ StaysOpen t := by
  constructor
  · intro h part hpart
    obtain ⟨hopening, hclosing⟩ := count_filter part
    rw [← hopening, ← hclosing]
    exact h _ (hpart.filter _)
  · intro h part hpart
    obtain ⟨whole, hwhole, rfl⟩ := List.prefix_filter_iff.1 hpart
    obtain ⟨hopening, hclosing⟩ := count_filter whole
    rw [hopening, hclosing]
    exact h whole hwhole

/-- Whether a brace is open is up to the braces. -/
theorem hasOpen_filter {t : Text} : HasOpen (t.filter isBrace) ↔ HasOpen t := by
  constructor
  · rintro ⟨outer, inside, ht, hopen⟩
    obtain ⟨before, rest, rfl, -, hrest⟩ := List.filter_eq_append_iff.1 ht
    obtain ⟨between, behind, rfl, -, -, rfl⟩ := List.filter_eq_cons_iff.1 hrest
    exact ⟨before ++ between, behind, by simp, staysOpen_filter.1 hopen⟩
  · rintro ⟨outer, inside, rfl, hopen⟩
    exact ⟨outer.filter isBrace, inside.filter isBrace, by simp [isBrace], staysOpen_filter.2 hopen⟩

/-! ### Places -/

/-- A character with its line and its column. -/
structure Mark where
  line : Nat
  column : Nat
  char : Char
deriving DecidableEq, Repr

/-- The characters of a line with their places, the first at `column`. -/
def marksFrom (line column : Nat) (t : Text) : List Mark :=
  (t.zipIdx column).map fun (c, column) => ⟨line, column, c⟩

/-- The characters of clean lines with their places. -/
def marksOf (lines : List CleanLine) : List Mark :=
  lines.flatMap fun line => marksFrom line.number 1 line.text

/-- A closing brace that closes nothing, in view of what stands before it. -/
def stray? (past : List Mark) (mark : Mark) : Option Mark :=
  if mark.char = '}' ∧ ¬ HasOpen (past.map Mark.char) then some mark else none

/-- The closing braces that close nothing. -/
def strays (marks : List Mark) : List Mark := inTurn stray? marks

/-- Whether a brace closes anything is up to the braces before it. -/
theorem strays_filter (marks : List Mark) :
    strays (marks.filter fun mark => isBrace mark.char) = strays marks := by
  have hpast (past : List Mark) (mark : Mark) :
      stray? (past.filter fun mark => isBrace mark.char) mark = stray? past mark := by
    have hchars : (past.filter fun mark => isBrace mark.char).map Mark.char
        = (past.map Mark.char).filter isBrace :=
      (List.filter_map (f := Mark.char) (p := isBrace)).symm
    simp only [stray?, hchars, hasOpen_filter]
  induction marks using List.reverseRecOn with
  | nil => rfl
  | append_singleton marks mark ih =>
      rw [strays, strays] at ih ⊢
      rw [List.filter_append, inTurn_concat, ← ih, List.filter_singleton]
      cases hbrace : isBrace mark.char with
      | true => rw [cond_true, inTurn_concat, hpast]
      | false =>
          have hnone : stray? marks mark = none :=
            if_neg fun hstray => by simp [hstray.1, isBrace] at hbrace
          rw [cond_false, List.append_nil, hnone, Option.toList_none, List.append_nil]

end Braces

/-! ### Events -/

namespace Event

open Braces

/-- The brace that an event is, with its place. -/
def mark? : Nat × Event → Option Mark
  | (line, .opening column) => some ⟨line, column, '{'⟩
  | (line, .closing column) => some ⟨line, column, '}'⟩
  | (_, .statement ..) => none

/-- The braces among events. -/
def marks (events : List (Nat × Event)) : List Mark := events.filterMap mark?

/-- A finished piece has no braces. -/
theorem marks_finish (line : Nat) (p : Piece) (terminated : Bool) :
    marks ((p.finish terminated).map fun event => (line, event)) = [] := by
  rw [Piece.finish]
  split <;> rfl

/-- Cutting a line keeps its braces at their places. -/
theorem marks_splitFrom (line column depth : Nat) (piece : Piece) (t : Text) :
    marks ((splitFrom column depth piece t).1.map fun event => (line, event))
      = (marksFrom line column t).filter fun mark => isBrace mark.char := by
  induction t generalizing column depth piece with
  | nil => exact marks_finish line piece false
  | cons c cs ih =>
      have hfinish (terminated : Bool) := marks_finish line piece terminated
      simp only [marks] at ih hfinish
      simp only [splitFrom, lead, marks]
      -- Only the two cuts at braces give a brace, all other characters none.
      split
      next hc => subst hc; simp [ih, hfinish, marksFrom, isBrace, mark?]
      next hopening =>
        split
        next hc => subst hc; simp [ih, hfinish, marksFrom, isBrace, mark?]
        next hclosing =>
          have hskip : (marksFrom line column (c :: cs)).filter (fun mark => isBrace mark.char)
              = (marksFrom line (column + 1) cs).filter fun mark => isBrace mark.char := by
            simp [marksFrom, isBrace, hopening, hclosing]
          rw [hskip]
          split
          · rw [List.map_append, List.filterMap_append, hfinish, ih, List.nil_append]
          split
          · exact ih ..
          split
          · exact ih ..
          · exact ih ..

/-- The braces among the events of lines are those of the lines. -/
theorem marks_ofLines (depth : Nat) (lines : List CleanLine) :
    marks (ofLines depth lines) = (marksOf lines).filter fun mark => isBrace mark.char := by
  induction lines generalizing depth with
  | nil => rfl
  | cons line rest ih =>
      have hline := marks_splitFrom line.number 1 depth (.start 1 depth) line.text
      rw [marksOf, List.flatMap_cons, List.filter_append, ← hline]
      rw [marks, ofLines, List.filterMap_append]
      exact congrArg _ (ih _)

/-- The braces among events, as a text. -/
def braces (events : List (Nat × Event)) : Text := (marks events).map Mark.char

/-- One more event adds the brace that it is. -/
theorem marks_concat (events : List (Nat × Event)) (event : Nat × Event) :
    marks (events ++ [event]) = marks events ++ (mark? event).toList := by
  rw [marks, List.filterMap_append]
  rfl

/-- One more event adds the brace that it is. -/
theorem braces_concat (events : List (Nat × Event)) (event : Nat × Event) :
    braces (events ++ [event]) = braces events ++ ((mark? event).map Mark.char).toList := by
  rw [braces, marks_concat, List.map_append, ← Option.toList_map, braces]

/-- An opening brace among the braces of events is one of the events. -/
theorem exists_of_braces_eq {events : List (Nat × Event)} {outer inside : Text}
    (h : braces events = outer ++ '{' :: inside) :
    ∃ front line column behind, events = front ++ (line, .opening column) :: behind ∧
      braces behind = inside := by
  obtain ⟨before, marked, hmarks, -, hchars⟩ := List.map_eq_append_iff.1 h
  obtain ⟨mark, after, rfl, hchar, rfl⟩ := List.map_eq_cons_iff.1 hchars
  obtain ⟨front, rest, rfl, -, hrest⟩ := List.filterMap_eq_append_iff.1 hmarks
  obtain ⟨between, event, behind, rfl, -, hmark, rfl⟩ := List.filterMap_eq_cons_iff.1 hrest
  obtain ⟨line, event⟩ := event
  cases event with
  | opening column => exact ⟨front ++ between, line, column, behind, by simp, rfl⟩
  | closing column =>
      obtain rfl := Option.some.inj hmark
      have hne : '}' ≠ '{' := by decide
      exact absurd hchar hne
  | statement => cases hmark

end Event

end DefIndex
