import DefIndex.EditDistance

/-!
# `DefIndex.Proofs.Edits`: the distance is the number of edits needed

`EditDistance.distance` fills two rows that change places. This file proves
that the number it ends with is the least number of edits that turn one
text into the other: so many edits do it, and no fewer do, in whatever
order and at whatever places they are made.

## From rows to a recurrence

`needed a b` is the recurrence that the rows compute, from the front of the
texts. The rows compute it from their starts, so a row of the table belongs
to the characters that were taken, latest first. `Rows.Tracks` is the
invariant of the rows: the one that is read holds the right numbers, of the
other one only the size is known. `fill` reads a column of the row that it
writes only after it has written it (`fill_holds`), so what the row held
before does not matter.

## From the recurrence to edits

`edits_needed` makes the edits that the recurrence counts. For the other
direction one edit at any place changes `needed` by one at most
(`needed_le_of_edit`), so it cannot be more than the number of edits.
-/

set_option autoImplicit false

namespace DefIndex.EditDistance

/-! ### Edits -/

/-- One character is inserted, deleted or substituted, at any place. -/
inductive Edit : Text → Text → Prop where
  | insert (front : Text) (c : Char) (back : Text) : Edit (front ++ back) (front ++ c :: back)
  | delete (front : Text) (c : Char) (back : Text) : Edit (front ++ c :: back) (front ++ back)
  | substitute (front : Text) (c d : Char) (back : Text) :
      Edit (front ++ c :: back) (front ++ d :: back)

/-- So many edits, one after the other, turn a text into another. -/
inductive Edits : Nat → Text → Text → Prop where
  | none (a : Text) : Edits 0 a a
  | more {n : Nat} {a b c : Text} (before : Edits n a b) (last : Edit b c) : Edits (n + 1) a c

/-- An edit can be made behind a character. -/
theorem Edit.cons {a b : Text} (h : Edit a b) (x : Char) : Edit (x :: a) (x :: b) := by
  cases h with
  | insert front c back => exact .insert (x :: front) c back
  | delete front c back => exact .delete (x :: front) c back
  | substitute front c d back => exact .substitute (x :: front) c d back

/-- An edit can be made from the other end. -/
theorem Edit.reverse {a b : Text} (h : Edit a b) : Edit a.reverse b.reverse := by
  cases h with
  | insert front c back => simpa using Edit.insert back.reverse c front.reverse
  | delete front c back => simpa using Edit.delete back.reverse c front.reverse
  | substitute front c d back => simpa using Edit.substitute back.reverse c d front.reverse

/-- Edits can be made behind a character. -/
theorem Edits.cons {n : Nat} {a b : Text} (h : Edits n a b) (x : Char) :
    Edits n (x :: a) (x :: b) := by
  induction h with
  | none a => exact .none (x :: a)
  | more _ last ih => exact .more ih (last.cons x)

/-- Edits can be made from the other end. -/
theorem Edits.reverse {n : Nat} {a b : Text} (h : Edits n a b) :
    Edits n a.reverse b.reverse := by
  induction h with
  | none a => exact .none a.reverse
  | more _ last ih => exact .more ih last.reverse

/-- An edit can be made first. -/
theorem Edits.of_first {n : Nat} {a b c : Text} (first : Edit a b) (h : Edits n b c) :
    Edits (n + 1) a c := by
  induction h with
  | none b => exact .more (.none a) first
  | more _ last ih => exact .more (ih first) last

/-! ### The recurrence -/

/-- The cost of putting one character in the place of another. -/
def cost (a b : Char) : Nat := if a = b then 0 else 1

/-- The number of edits needed, by what happens to the first characters. -/
def needed : Text → Text → Nat
  | [], b => b.length
  | a, [] => a.length
  | x :: a, y :: b =>
    min (min (needed a b + cost x y) (needed a (y :: b) + 1)) (needed (x :: a) b + 1)
termination_by a b => a.length + b.length

/-- The empty text needs insertions. -/
theorem needed_nil_left (b : Text) : needed [] b = b.length := by
  rw [needed]

/-- To get the empty text deletions are needed. -/
theorem needed_nil_right (a : Text) : needed a [] = a.length := by
  cases a with
  | nil => rw [needed]
  | cons x a => rw [needed]; exact List.cons_ne_nil x a

/-- The three things that can happen to first characters. -/
theorem needed_cons_cons (x y : Char) (a b : Text) : needed (x :: a) (y :: b)
    = min (min (needed a b + cost x y) (needed a (y :: b) + 1)) (needed (x :: a) b + 1) := by
  rw [needed]

/-- So many edits as are needed do it. -/
theorem edits_needed (a b : Text) : Edits (needed a b) a b := by
  induction a generalizing b with
  | nil =>
      rw [needed_nil_left]
      induction b with
      | nil => exact .none []
      | cons y b ih => exact .more ih (.insert [] y b)
  | cons x a iha =>
      induction b with
      | nil =>
          have hdelete := Edits.of_first (.delete [] x a) (iha [])
          rw [needed_nil_right] at hdelete ⊢
          exact hdelete
      | cons y b ihb =>
          have hkeep : Edits (needed a b + cost x y) (x :: a) (y :: b) := by
            rw [cost]
            split
            next hsame => exact hsame ▸ (iha b).cons x
            next => exact .more ((iha b).cons x) (.substitute [] x y b)
          have hdelete : Edits (needed a (y :: b) + 1) (x :: a) (y :: b) :=
            .of_first (.delete [] x a) (iha (y :: b))
          have hinsert : Edits (needed (x :: a) b + 1) (x :: a) (y :: b) :=
            .more ihb (.insert [] y b)
          -- The least of three numbers is one of them.
          rw [needed_cons_cons]
          rcases Nat.le_total (min (needed a b + cost x y) (needed a (y :: b) + 1))
            (needed (x :: a) b + 1) with hle | hle
          · rw [Nat.min_eq_left hle]
            rcases Nat.le_total (needed a b + cost x y) (needed a (y :: b) + 1) with hle | hle
            · rw [Nat.min_eq_left hle]
              exact hkeep
            · rw [Nat.min_eq_right hle]
              exact hdelete
          · rw [Nat.min_eq_right hle]
            exact hinsert

/-! ### One edit changes the recurrence by one at most -/

/-- No more than one edit is needed for a pair of characters. -/
theorem cost_le (x y : Char) : cost x y ≤ 1 := by
  rw [cost]
  split <;> omega

/-- A character more in the first text. -/
theorem needed_cons_left_le (x : Char) (a b : Text) : needed (x :: a) b ≤ needed a b + 1 := by
  cases b with
  | nil =>
      have hlong := needed_nil_right (x :: a)
      have hshort := needed_nil_right a
      rw [List.length_cons] at hlong
      omega
  | cons y b =>
      rw [needed_cons_cons]
      omega

/-- A character more in the second text. -/
theorem needed_cons_right_le (a : Text) (y : Char) (b : Text) :
    needed a (y :: b) ≤ needed a b + 1 := by
  cases a with
  | nil =>
      have hlong := needed_nil_left (y :: b)
      have hshort := needed_nil_left b
      rw [List.length_cons] at hlong
      omega
  | cons x a =>
      rw [needed_cons_cons]
      omega

/-- A character less in the second text. -/
theorem needed_le_cons_right (a : Text) (y : Char) (b : Text) :
    needed a b ≤ needed a (y :: b) + 1 := by
  induction a with
  | nil =>
      rw [needed_nil_left, needed_nil_left, List.length_cons]
      omega
  | cons x a ih =>
      have hleft := needed_cons_left_le x a b
      rw [needed_cons_cons]
      omega

/-- Another first character in the second text. -/
theorem needed_substitute_le (a : Text) (y z : Char) (b : Text) :
    needed a (z :: b) ≤ needed a (y :: b) + 1 := by
  induction a with
  | nil =>
      rw [needed_nil_left, needed_nil_left, List.length_cons, List.length_cons]
      omega
  | cons x a ih =>
      have hcost := cost_le x z
      rw [needed_cons_cons, needed_cons_cons]
      omega

/-- What changes the second text by one edit does so behind a character. -/
theorem needed_cons_cons_le {b c : Text} (h : ∀ a, needed a c ≤ needed a b + 1) (y : Char)
    (a : Text) : needed a (y :: c) ≤ needed a (y :: b) + 1 := by
  induction a with
  | nil =>
      have hlength := h []
      rw [needed_nil_left, needed_nil_left] at hlength ⊢
      rw [List.length_cons, List.length_cons]
      omega
  | cons x a ih =>
      have hbelow := h a
      have hbehind := h (x :: a)
      rw [needed_cons_cons, needed_cons_cons]
      omega

/-- What changes the second text by one edit does so at any place. -/
theorem needed_append_le {b c : Text} (h : ∀ a, needed a c ≤ needed a b + 1) (front a : Text) :
    needed a (front ++ c) ≤ needed a (front ++ b) + 1 := by
  induction front generalizing a with
  | nil => exact h a
  | cons y front ih => exact needed_cons_cons_le ih y a

/-- An edit of the second text changes what is needed by one at most. -/
theorem needed_le_of_edit {b c : Text} (h : Edit b c) (a : Text) :
    needed a c ≤ needed a b + 1 := by
  cases h with
  | insert front y back =>
      exact needed_append_le (fun a => needed_cons_right_le a y back) front a
  | delete front y back =>
      exact needed_append_le (fun a => needed_le_cons_right a y back) front a
  | substitute front y z back =>
      exact needed_append_le (fun a => needed_substitute_le a y z back) front a

/-- Nothing is needed for a text itself. -/
theorem needed_self (a : Text) : needed a a = 0 := by
  induction a with
  | nil => rw [needed_nil_left, List.length_nil]
  | cons x a ih =>
      rw [needed_cons_cons, ih, cost, if_pos rfl]
      omega

/-- Fewer edits than are needed do not do it. -/
theorem needed_le {n : Nat} {a b : Text} (h : Edits n a b) : needed a b ≤ n := by
  induction h with
  | none a => exact Nat.le_of_eq (needed_self a)
  | @more n a b c _ last ih =>
      have hlast := needed_le_of_edit last a
      omega

/-! ### The rows -/

/-- A row holds the numbers of its columns up to `last`: the characters `a` of
the first text are taken, and of the second one as many as the column says,
both latest first. -/
def Holds (row : Array Nat) (a b : Text) (last : Nat) : Prop :=
  ∀ j ≤ last, row.getD j 0 = needed a (b.take j).reverse

/-- The rows of a table after some characters of the first text, latest first. -/
structure Rows.Tracks (rows : Rows) (a b : Text) : Prop where
  /-- The row that is read next holds the right numbers. -/
  previous : Holds rows.previous a b b.length
  /-- Both rows have a place for each column. -/
  sizes : rows.previous.size = b.length + 1 ∧ rows.current.size = b.length + 1

/-- A column that is written has its number, the other ones keep theirs. -/
theorem getD_setIfInBounds (row : Array Nat) (i j n : Nat) (hi : i < row.size) :
    (row.setIfInBounds i n).getD j 0 = if i = j then n else row.getD j 0 := by
  rw [Array.getD_eq_getD_getElem?, Array.getD_eq_getD_getElem?, Array.getElem?_setIfInBounds,
    if_pos hi]
  split <;> rfl

/-- Writing keeps the size of a row. -/
theorem size_fill (previous : Array Nat) (a : Char) (j : Nat) (bs : Text) (current : Array Nat) :
    (fill previous a j bs current).size = current.size := by
  induction bs generalizing j current with
  | nil => rfl
  | cons b bs ih => rw [fill, ih, Array.size_setIfInBounds]

/-- A row that holds its columns up to `j` is written to its end. -/
theorem fill_holds (done : Text) {previous current : Array Nat} {a bs b : Text} {x : Char}
    (hprevious : Holds previous a b b.length) (hb : b = done ++ bs)
    (hsize : current.size = b.length + 1) (hcurrent : Holds current (x :: a) b done.length) :
    Holds (fill previous x done.length bs current) (x :: a) b b.length := by
  induction bs generalizing done current with
  | nil =>
      rw [List.append_nil] at hb
      rw [fill, hb]
      exact hb ▸ hcurrent
  | cons y bs ih =>
      have hlength : b.length = done.length + (bs.length + 1) := by
        rw [hb, List.length_append, List.length_cons]
      have hnow : b.take done.length = done := by rw [hb, List.take_left]
      have hnext : (b.take (done.length + 1)).reverse = y :: done.reverse := by
        rw [hb, List.take_length_add_append]
        simp
      -- The cell reads two columns of the row above and one that is written.
      have hcell : cell previous current x y done.length = needed (x :: a) (y :: done.reverse) := by
        have hdiagonal := hprevious done.length (by omega)
        have habove := hprevious (done.length + 1) (by omega)
        have hleft := hcurrent done.length (Nat.le_refl _)
        rw [hnow] at hdiagonal hleft
        rw [hnext] at habove
        rw [cell, hdiagonal, habove, hleft, needed_cons_cons]
        rfl
      have hstep : b = (done ++ [y]) ++ bs := by rw [hb, List.append_assoc, List.singleton_append]
      have hdone : (done ++ [y]).length = done.length + 1 := by simp
      rw [fill, ← hdone]
      refine ih (done ++ [y]) hstep (by rw [Array.size_setIfInBounds, hsize]) ?_
      intro j hj
      rw [hdone] at hj ⊢
      rw [getD_setIfInBounds _ _ _ _ (by omega)]
      split
      next heq => rw [← heq, hnext, hcell]
      next hne => exact hcurrent j (by omega)

/-- The first row and the row of zeros. -/
theorem tracks_start (b : Text) : (Rows.start b).Tracks [] b := by
  refine ⟨?_, by simp [Rows.start], by simp [Rows.start]⟩
  intro j hj
  have hlength : (b.take j).reverse.length = j := by
    rw [List.length_reverse, List.length_take_of_le hj]
  rw [needed_nil_left, hlength]
  simp [Rows.start, Array.getD_eq_getD_getElem?, Nat.lt_succ_of_le hj]

/-- One more character of the first text. -/
theorem Rows.Tracks.take {rows : Rows} {a b : Text} (h : rows.Tracks a b) (x : Char) :
    (rows.take b a.length x).Tracks (x :: a) b := by
  obtain ⟨hprevious, hsizes⟩ := h
  refine ⟨?_, ?_, hsizes.1⟩
  · -- Only the first column is written before the characters are gone through.
    refine fill_holds [] hprevious rfl ?_ ?_
    · rw [Array.size_setIfInBounds, hsizes.2]
    · intro j hj
      obtain rfl := Nat.le_zero.1 hj
      rw [getD_setIfInBounds _ _ _ _ (by omega), if_pos rfl, List.take_zero, List.reverse_nil,
        needed_nil_right, List.length_cons]
  · show (fill rows.previous x 0 b _).size = _
    rw [size_fill, Array.size_setIfInBounds, hsizes.2]

/-- The rows after the whole first text. -/
theorem Rows.Tracks.takeAll {rows : Rows} {done b : Text} (h : rows.Tracks done b) (a : Text) :
    (rows.takeAll b done.length a).Tracks (a.reverse ++ done) b := by
  induction a generalizing rows done with
  | nil => exact h
  | cons x a ih =>
      rw [Rows.takeAll, List.reverse_cons, List.append_assoc, List.singleton_append]
      exact ih (h.take x)

/-- The rows end with the recurrence, read from the ends of the texts. -/
theorem distance_eq_needed (a b : Text) : distance a b = needed a.reverse b.reverse := by
  rw [distance]
  split
  next ha =>
    rw [List.isEmpty_iff.1 ha, List.reverse_nil, needed_nil_left, List.length_reverse]
  split
  next hb =>
    rw [List.isEmpty_iff.1 hb, List.reverse_nil, needed_nil_right, List.length_reverse]
  next =>
    have hrows := ((tracks_start b).takeAll a).previous b.length (Nat.le_refl _)
    rw [List.take_length, List.append_nil] at hrows
    exact hrows

/-- The distance of two texts is the least number of edits that turn the one
into the other. -/
theorem edits_distance_least (a b : Text) :
    Edits (distance a b) a b ∧ ∀ n, Edits n a b → distance a b ≤ n := by
  constructor
  · have hedits := (edits_needed a.reverse b.reverse).reverse
    rw [List.reverse_reverse, List.reverse_reverse] at hedits
    rw [distance_eq_needed]
    exact hedits
  · intro n hn
    rw [distance_eq_needed]
    exact needed_le hn.reverse

/-- Two substitutions and an insertion. -/
example : distance "kitten" "sitting" = 3 := by decide +kernel

end DefIndex.EditDistance
