/-!
# `DefIndex.Text.Basic`: text as a list of characters

Everything the index reads and writes is a list of Unicode scalar
values. Columns, lengths and cuts are therefore counted in characters,
and every function below recurses on the list itself.

* `Text.cut` splits at a separator; `Text.join` undoes it.
* `Text.lines` are the physical lines of a file: a line ends at a line
  feed, and one carriage return directly before it belongs to the line
  end. A carriage return anywhere else is text.
* `Text.afterFirst?` finds the first occurrence of a text in another.
-/

set_option autoImplicit false

namespace DefIndex

/-- Text, one Unicode scalar value after the other. -/
abbrev Text := List Char

instance : Coe String Text := ⟨String.toList⟩

namespace Text

/-! ### Cutting and joining -/

/-- The pieces between the occurrences of `sep`, at least one. -/
def cut {α : Type} [DecidableEq α] (sep : α) : List α → List (List α)
  | [] => [[]]
  | c :: cs =>
    match cut sep cs with
    | [] => [[c]]
    | piece :: pieces =>
      if c = sep then [] :: piece :: pieces else (c :: piece) :: pieces

/-- The texts one after the other with `sep` between neighbours. -/
def join (sep : Text) : List Text → Text
  | [] => []
  | [t] => t
  | t :: ts => t ++ sep ++ join sep ts

/-- The physical lines of a file, without their line ends. A text that
ends in a line feed has no further empty line after it. -/
def lines : Text → List Text
  | [] => []
  | '\n' :: cs => [] :: lines cs
  | '\r' :: '\n' :: cs => [] :: lines cs
  | c :: cs =>
    match lines cs with
    | [] => [[c]]
    | line :: rest => (c :: line) :: rest

/-! ### Trimming -/

/-- Drop the longest run of `p` at the end. -/
def dropEndWhile (p : Char → Bool) (t : Text) : Text :=
  (t.reverse.dropWhile p).reverse

/-- The longest run of `p` at the end. -/
def takeEndWhile (p : Char → Bool) (t : Text) : Text :=
  (t.reverse.takeWhile p).reverse

/-- Drop the longest runs of `p` at both ends. -/
def trimBy (p : Char → Bool) (t : Text) : Text :=
  dropEndWhile p (t.dropWhile p)

/-! ### Searching -/

/-- What follows `needle` at the start of a text, if it stands there. -/
def dropStart? : (needle : Text) → Text → Option Text
  | [], t => some t
  | _ :: _, [] => none
  | n :: ns, c :: cs => if n = c then dropStart? ns cs else none

/-- What precedes `needle` at the end of a text, if it stands there. -/
def dropEnd? (needle t : Text) : Option Text :=
  (dropStart? needle.reverse t.reverse).map List.reverse

/-- What follows the first occurrence of `needle`, if there is one. -/
def afterFirst? (needle : Text) : Text → Option Text
  | [] => dropStart? needle []
  | c :: cs =>
    match dropStart? needle (c :: cs) with
    | some rest => some rest
    | none => afterFirst? needle cs

/-- Whether `needle` occurs in a text. -/
def holds (needle t : Text) : Bool := (afterFirst? needle t).isSome

/-! ### Numbers -/

/-- A number in decimal digits. -/
def ofNat (n : Nat) : Text := Nat.toDigits 10 n

/-- Pad with blanks on the right up to a width. -/
def padRight (width : Nat) (t : Text) : Text :=
  t ++ List.replicate (width - t.length) ' '

/-! ### Small laws -/

/-- A text starts with `needle` exactly when it is `needle` and a rest. -/
theorem dropStart?_eq_some_iff {needle t rest : Text} :
    dropStart? needle t = some rest ↔ t = needle ++ rest := by
  induction needle generalizing t with
  | nil => simp [dropStart?, eq_comm]
  | cons n ns ih =>
      cases t with
      | nil => simp [dropStart?]
      | cons c cs =>
          by_cases h : n = c
          · subst h; simp [dropStart?, ih]
          · simp [dropStart?, h, Ne.symm h]

/-- A text ends with `needle` exactly when it is a lead and `needle`. -/
theorem dropEnd?_eq_some_iff {needle t lead : Text} :
    dropEnd? needle t = some lead ↔ t = lead ++ needle := by
  simp only [dropEnd?, Option.map_eq_some_iff, dropStart?_eq_some_iff]
  constructor
  · rintro ⟨rest, h, rfl⟩
    rw [← List.reverse_reverse t, h]; simp
  · rintro rfl
    exact ⟨lead.reverse, by simp, by simp⟩

/-- Cutting gives at least one piece. -/
theorem cut_ne_nil {α : Type} [DecidableEq α] (sep : α) (t : List α) : cut sep t ≠ [] := by
  cases t with
  | nil => simp [cut]
  | cons c cs =>
      simp only [cut]
      split
      · simp
      · split <;> simp

end Text

end DefIndex
