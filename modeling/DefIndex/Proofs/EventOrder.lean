import DefIndex.Event

/-!
# `DefIndex.Proofs.EventOrder`: events stand one after the other

`Event.splitFrom` keeps three counters: the column, the column where the
current piece started, and the piece itself. This file proves that they
stay in step, so that the events of a line cover disjoint parts of it
from left to right.

* `Event.endColumn` is the first column past an event; braces are one
  character wide.
* `Event.orderedFrom_splitFrom` is the loop invariant. It needs the piece
  to reach exactly up to the column (`Event.Piece.ReachesTo`).
* `Event.pairwise_precedes_ofLines` lifts it to the events of a file,
  whose lines are numbered upwards.
-/

set_option autoImplicit false

namespace DefIndex

namespace Event

/-- The column of the first character. -/
def column : Event → Nat
  | statement _ column _ _ => column
  | opening column => column
  | closing column => column

/-- The first column past an event. -/
def endColumn : Event → Nat
  | statement text column _ _ => column + text.length
  | opening column => column + 1
  | closing column => column + 1

/-- An event does not end before it starts. -/
theorem column_le_endColumn (e : Event) : e.column ≤ e.endColumn := by
  cases e <;> simp [column, endColumn]

/-- One event of a file ends before the next one starts. -/
def Precedes (a b : Nat × Event) : Prop :=
  a.1 < b.1 ∨ a.1 = b.1 ∧ a.2.endColumn ≤ b.2.column

/-! ### One line -/

/-- The events stand at `low` or after it, each past the one before. -/
def OrderedFrom (low : Nat) : List Event → Prop
  | [] => True
  | e :: es => low ≤ e.column ∧ OrderedFrom e.endColumn es

/-- A smaller bound holds as well. -/
theorem OrderedFrom.mono {low low' : Nat} {es : List Event} (hle : low' ≤ low)
    (h : OrderedFrom low es) : OrderedFrom low' es := by
  cases es with
  | nil => trivial
  | cons e es => exact ⟨Nat.le_trans hle h.1, h.2⟩

/-- No event of an ordered list starts below its bound. -/
theorem OrderedFrom.le_column {low : Nat} {es : List Event} (h : OrderedFrom low es) :
    ∀ e ∈ es, low ≤ e.column := by
  induction es generalizing low with
  | nil => simp
  | cons x xs ih =>
      intro e he
      rcases List.mem_cons.1 he with rfl | he
      · exact h.1
      · exact Nat.le_trans (Nat.le_trans h.1 (column_le_endColumn x)) (ih h.2 e he)

/-- In an ordered list every event ends before all later ones start. -/
theorem OrderedFrom.pairwise {low : Nat} {es : List Event} (h : OrderedFrom low es) :
    es.Pairwise fun a b => a.endColumn ≤ b.column := by
  induction es generalizing low with
  | nil => exact List.Pairwise.nil
  | cons e es ih => exact List.pairwise_cons.2 ⟨h.2.le_column, ih h.2⟩

/-- A piece covers the characters from its start up to a column. -/
def Piece.ReachesTo (p : Piece) (column : Nat) : Prop :=
  p.column + p.reversed.length = column

/-- A fresh piece covers nothing yet. -/
theorem Piece.reachesTo_start (column depth : Nat) : (Piece.start column depth).ReachesTo column :=
  rfl

/-- One more character moves the end of a piece by one column. -/
theorem Piece.ReachesTo.push {p : Piece} {column : Nat} (h : p.ReachesTo column) (c : Char) :
    (p.push c).ReachesTo (column + 1) := by
  simp only [Piece.ReachesTo, Piece.push, List.length_cons] at h ⊢
  omega

/-- The statement of a finished piece stands before anything from its end
on. -/
theorem orderedFrom_finish_append {p : Piece} {column : Nat} (h : p.ReachesTo column)
    (terminated : Bool) {es : List Event} (hes : OrderedFrom column es) :
    OrderedFrom p.column (p.finish terminated ++ es) := by
  have hend : p.column + p.reversed.length = column := h
  simp only [Piece.finish]
  split
  · -- The statement ends where the piece does.
    refine ⟨Nat.le_refl _, ?_⟩
    show OrderedFrom (p.column + p.reversed.reverse.length) es
    rw [List.length_reverse, hend]
    exact hes
  · exact hes.mono (by omega)

/-- The events of a line are in order: cutting keeps the piece at hand up
to the current column. -/
theorem orderedFrom_splitFrom (column depth : Nat) (piece : Piece) (t : Text)
    (h : piece.ReachesTo column) : OrderedFrom piece.column (splitFrom column depth piece t).1 := by
  induction t generalizing column depth piece with
  | nil =>
      have hnil : OrderedFrom column [] := trivial
      simpa [splitFrom] using orderedFrom_finish_append h false hnil
  | cons c cs ih =>
      -- A cut starts a fresh piece past the character that cuts.
      have fresh (d : Nat) := ih (column + 1) d (.start (column + 1) d)
        (Piece.reachesTo_start _ _)
      simp only [splitFrom, lead]
      split
      · rw [List.append_assoc]
        exact orderedFrom_finish_append h false ⟨Nat.le_refl _, fresh depth⟩
      split
      · rw [List.append_assoc]
        exact orderedFrom_finish_append h false ⟨Nat.le_refl _, fresh depth⟩
      split
      · exact orderedFrom_finish_append h true ((fresh 0).mono (Nat.le_succ column))
      split
      · exact ih _ _ _ (h.push c)
      split
      · exact ih _ _ _ (h.push c)
      · exact ih _ _ _ (h.push c)

/-! ### All lines -/

/-- An event of a file belongs to one of its lines. -/
theorem number_of_mem_ofLines {depth : Nat} {lines : List CleanLine} {e : Nat × Event}
    (h : e ∈ ofLines depth lines) : ∃ line ∈ lines, line.number = e.1 := by
  induction lines generalizing depth with
  | nil => simp [ofLines] at h
  | cons line rest ih =>
      simp only [ofLines, List.mem_append, List.mem_map] at h
      rcases h with ⟨x, -, rfl⟩ | h
      · exact ⟨line, List.mem_cons_self, rfl⟩
      · obtain ⟨l, hl, hnumber⟩ := ih h
        exact ⟨l, List.mem_cons_of_mem _ hl, hnumber⟩

/-- The events of lines that are numbered upwards are in order. -/
theorem pairwise_precedes_ofLines (depth : Nat) {lines : List CleanLine}
    (h : lines.Pairwise fun a b => a.number < b.number) :
    (ofLines depth lines).Pairwise Precedes := by
  induction lines generalizing depth with
  | nil => exact List.Pairwise.nil
  | cons line rest ih =>
      obtain ⟨hfirst, hrest⟩ := List.pairwise_cons.1 h
      simp only [ofLines]
      refine List.pairwise_append.2 ⟨?_, ih _ hrest, ?_⟩
      -- On one line columns decide, across lines their numbers.
      · have hline := orderedFrom_splitFrom 1 depth (.start 1 depth) line.text
          (Piece.reachesTo_start 1 depth)
        exact List.pairwise_map.2 (hline.pairwise.imp fun hab => Or.inr ⟨rfl, hab⟩)
      · intro a ha b hb
        obtain ⟨x, -, rfl⟩ := List.mem_map.1 ha
        obtain ⟨l, hl, hnumber⟩ := number_of_mem_ofLines hb
        exact Or.inl (hnumber ▸ hfirst l hl)

end Event

namespace Comment

/-- Lines in front are numbered on their own. -/
theorem numberFrom_append (n : Nat) (above rest : List Text) :
    numberFrom n (above ++ rest) = numberFrom n above ++ numberFrom (n + above.length) rest := by
  induction above generalizing n with
  | nil => rfl
  | cons l above ih =>
      rw [List.cons_append, numberFrom, numberFrom, ih, List.length_cons, List.cons_append,
        show n + 1 + above.length = n + (above.length + 1) by omega]

/-- Lines that are numbered from `n` on have no smaller number. -/
theorem le_number_of_mem_numberFrom {n : Nat} {ts : List Text} {line : CleanLine}
    (h : line ∈ numberFrom n ts) : n ≤ line.number := by
  induction ts generalizing n with
  | nil => simp [numberFrom] at h
  | cons t ts ih =>
      rcases List.mem_cons.1 h with rfl | h
      · exact Nat.le_refl _
      · exact Nat.le_of_succ_le (ih h)

/-- Lines are numbered upwards. -/
theorem pairwise_numberFrom (n : Nat) (ts : List Text) :
    (numberFrom n ts).Pairwise fun a b => a.number < b.number := by
  induction ts generalizing n with
  | nil => exact List.Pairwise.nil
  | cons t ts ih =>
      exact List.pairwise_cons.2 ⟨fun line hline => le_number_of_mem_numberFrom hline, ih (n + 1)⟩

end Comment

/-- The events of a source text are in order. -/
theorem Event.pairwise_precedes_cleanLines (source : Text) :
    (Event.ofLines 0 (Comment.cleanLines source)).Pairwise Event.Precedes :=
  Event.pairwise_precedes_ofLines 0 (Comment.pairwise_numberFrom 1 _)

end DefIndex
