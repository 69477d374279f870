import DefIndex.Document
import DefIndex.Proofs.Marks
import DefIndex.Proofs.Sketch

/-!
# `DefIndex.Proofs.Positions`: positions of a document and lines of its text

The index counts lines and columns on `Text.lines`, which leaves line ends
out and takes a carriage return before a line feed for part of one. An open
document counts positions on `Document.linePieces`, which keeps every
character. A replacement in the document should hit what the index means.

Both views agree on a text that is cut as `broken above ++ (front ++ rest)`:
whole lines with their line feeds, and the start of one more line that does
not end yet. `lines_open` and `linePieces_open` read such a text either way,
`exists_broken` cuts a text in front of any of its lines, and
`Document.change_open` carries out a replacement inside of it.
-/

set_option autoImplicit false

namespace DefIndex

/-- Lines, each ended by a line feed. -/
def broken (above : List Text) : Text := above.flatMap fun l => l ++ ['\n']

/-- Lines that hold no line feed. -/
def Unbroken (above : List Text) : Prop := ∀ l ∈ above, '\n' ∉ l

/-- The start of a line that does not end yet: it is not empty, holds no line
feed and does not end in a carriage return. -/
structure Open (t : Text) : Prop where
  unbroken : '\n' ∉ t
  last : ∃ front c, t = front ++ [c] ∧ c ≠ '\r'

/-- A line stays open after characters that end no line. -/
theorem Open.append {front t : Text} (hfront : '\n' ∉ front) (hne : t ≠ [])
    (ht : ∀ c ∈ t, c ≠ '\n' ∧ c ≠ '\r') : Open (front ++ t) where
  unbroken := by
    rw [List.mem_append, not_or]
    exact ⟨hfront, fun hmem => (ht _ hmem).1 rfl⟩
  last := by
    obtain ⟨body, c, rfl⟩ := List.eq_nil_or_concat t |>.resolve_left hne
    exact ⟨front ++ body, c, by simp, (ht c (by simp)).2⟩

namespace Text

open Comment (prepend lines_cons EndsLine)

/-- No line holds a line feed. -/
theorem unbroken_lines (t : Text) : Unbroken (lines t) := by
  fun_induction lines t with
  | case1 => simp [Unbroken]
  | case2 cs ih => exact List.forall_mem_cons.2 ⟨by simp, ih⟩
  | case3 cs ih => exact List.forall_mem_cons.2 ⟨by simp, ih⟩
  | case4 c cs hfeed _ hnone ih =>
      intro l hl
      rw [List.mem_singleton.1 hl, List.mem_singleton]
      exact fun h => hfeed h.symm
  | case5 c cs hfeed _ line rest hsome ih =>
      rw [hsome, Unbroken, List.forall_mem_cons] at ih
      refine List.forall_mem_cons.2 ⟨?_, ih.2⟩
      rw [List.mem_cons, not_or]
      exact ⟨fun h => hfeed h.symm, ih.1⟩

/-- Lines in front are read on their own. -/
theorem exists_lines_broken {above : List Text} (h : Unbroken above) :
    ∃ read : List Text, read.length = above.length ∧
      ∀ rest, lines (broken above ++ rest) = read ++ lines rest := by
  induction above with
  | nil => exact ⟨[], rfl, fun rest => rfl⟩
  | cons l above ih =>
      obtain ⟨hl, habove⟩ := List.forall_mem_cons.1 h
      obtain ⟨read, hlength, hread⟩ := ih habove
      obtain ⟨l', -, hl'⟩ := lines_append_break hl
      refine ⟨l' :: read, by simp [hlength], fun rest => ?_⟩
      have hcut : broken (l :: above) ++ rest = l ++ '\n' :: (broken above ++ rest) := by
        simp [broken]
      rw [hcut, hl', hread, List.cons_append]

/-- The start of a line is read as the start of a line. -/
theorem lines_open {t : Text} (h : Open t) (rest : Text) :
    lines (t ++ rest) = prepend t (lines rest) := by
  obtain ⟨hunbroken, front, last, rfl, hlast⟩ := h
  induction front with
  | nil =>
      have hends : ¬ EndsLine last rest := by
        rintro (rfl | ⟨rfl, -⟩)
        · simp at hunbroken
        · exact hlast rfl
      exact lines_cons hends
  | cons c front ih =>
      rw [List.cons_append, List.mem_cons, not_or] at hunbroken
      have hends : ¬ EndsLine c (front ++ [last] ++ rest) := by
        rintro (rfl | ⟨-, tail, htail⟩)
        · exact hunbroken.1 rfl
        · -- A line feed would come next, and it would be in the text.
          refine hunbroken.2 ?_
          cases front with
          | nil =>
              obtain ⟨rfl, -⟩ := List.cons.inj htail
              exact List.mem_cons_self
          | cons b front =>
              obtain ⟨rfl, -⟩ := List.cons.inj htail
              exact List.mem_cons_self
      rw [List.cons_append, List.cons_append, lines_cons hends, ih hunbroken.2,
        Comment.prepend_prepend, List.singleton_append]

/-- A text can be cut in front of any of its lines. -/
theorem exists_broken {t : Text} {above below : List Text} {l : Text}
    (h : lines t = above ++ l :: below) :
    ∃ whole rest, Unbroken whole ∧ whole.length = above.length ∧ t = broken whole ++ rest ∧
      lines rest = l :: below := by
  induction above generalizing t with
  | nil => exact ⟨[], t, by simp [Unbroken], rfl, rfl, h⟩
  | cons first above ih =>
      obtain ⟨body, rest, rfl, hbody, hrest⟩ := Comment.exists_line t
      cases rest with
      | nil =>
          -- Without a line feed there is one line at most.
          rw [List.append_nil] at h
          by_cases hnil : body = []
          · rw [hnil] at h
            cases h
          · rw [lines_of_unbroken hbody hnil] at h
            simp at h
      | cons c rest =>
          obtain rfl := hrest c rfl
          obtain ⟨l', -, hl'⟩ := lines_append_break hbody
          rw [hl', List.cons_append, List.cons.injEq] at h
          obtain ⟨whole, tail, hwhole, hlength, rfl, htail⟩ := ih h.2
          refine ⟨body :: whole, tail, ?_, by simp [hlength], by simp [broken], htail⟩
          exact List.forall_mem_cons.2 ⟨hbody, hwhole⟩

end Text

namespace Document

open Comment (prepend)

/-! ### Pieces -/

/-- A character that is no line feed belongs to the piece behind it. -/
theorem linePieces_cons {c : Char} (h : c ≠ '\n') (cs : Text) :
    linePieces (c :: cs) = prepend [c] (linePieces cs) := by
  rw [linePieces]
  · cases linePieces cs <;> rfl
  · exact h

/-- The start of a line is the start of a piece. -/
theorem linePieces_append {t : Text} (h : '\n' ∉ t) (hne : t ≠ []) (rest : Text) :
    linePieces (t ++ rest) = prepend t (linePieces rest) := by
  induction t with
  | nil => exact absurd rfl hne
  | cons c cs ih =>
      rw [List.mem_cons, not_or] at h
      rw [List.cons_append, linePieces_cons (Ne.symm h.1)]
      by_cases hnil : cs = []
      · rw [hnil, List.nil_append]
      · rw [ih h.2 hnil, Comment.prepend_prepend, List.singleton_append]

/-- Pieces in front are cut on their own. -/
theorem linePieces_broken {above : List Text} (h : Unbroken above) (rest : Text) :
    linePieces (broken above ++ rest) = above.map (· ++ ['\n']) ++ linePieces rest := by
  induction above with
  | nil => rfl
  | cons l above ih =>
      obtain ⟨hl, habove⟩ := List.forall_mem_cons.1 h
      have hcut : broken (l :: above) ++ rest = l ++ '\n' :: (broken above ++ rest) := by
        simp [broken]
      have hfeed : linePieces ('\n' :: (broken above ++ rest))
          = ['\n'] :: linePieces (broken above ++ rest) := rfl
      rw [hcut]
      by_cases hnil : l = []
      · rw [hnil, List.nil_append, hfeed, ih habove]
        rfl
      · rw [linePieces_append hl hnil, hfeed, prepend, ih habove]
        rfl

/-! ### Offsets -/

/-- The lines above a place are in front of it with all their characters. -/
theorem offsetIn?_append (above : List Text) (pieces : List Text) (character : Nat) :
    offsetIn? (above.map (· ++ ['\n']) ++ pieces) above.length character
      = (offsetIn? pieces 0 character).map ((broken above).length + ·) := by
  induction above with
  | nil => simp [broken]
  | cons l above ih =>
      have hlength :
          (broken (l :: above)).length = (l ++ ['\n']).length + (broken above).length := by
        rw [broken, List.flatMap_cons, List.length_append, broken]
      -- The first line counts in front of the others, with its line feed.
      rw [List.map_cons, List.cons_append, List.length_cons, offsetIn?, ih, Option.map_map, hlength]
      refine congrArg (Option.map · _) (funext fun n => ?_)
      show (l ++ ['\n']).length + ((broken above).length + n) = _
      omega

/-- Nothing is dropped in front of a character that stays. -/
theorem dropEndWhile_append {p : Char → Bool} {c : Char} (hc : p c = false) (front rest : Text) :
    Text.dropEndWhile p (front ++ [c] ++ rest) = front ++ [c] ++ Text.dropEndWhile p rest := by
  have hdrop : (rest.reverse ++ c :: front.reverse).dropWhile p
      = rest.reverse.dropWhile p ++ c :: front.reverse := by
    rw [List.dropWhile_append]
    split
    next hempty => rw [List.isEmpty_iff.1 hempty, List.dropWhile_cons_of_neg (by simp [hc]),
      List.nil_append]
    next => rfl
  rw [Text.dropEndWhile, Text.dropEndWhile, List.reverse_append, List.reverse_append,
    List.reverse_singleton, List.singleton_append, hdrop]
  simp

/-- An open line belongs to the body of its piece. -/
theorem length_le_bodyLength {t : Text} (h : Open t) (rest : Text) :
    t.length ≤ bodyLength (t ++ rest) := by
  obtain ⟨hunbroken, front, c, rfl, hreturn⟩ := h
  have hfeed : c ≠ '\n' := by
    rintro rfl
    exact hunbroken (by simp)
  rw [bodyLength, dropEndWhile_append (by simp [hfeed, hreturn])]
  exact (List.prefix_append _ _).length_le

/-- A column of an open line is as many characters into it. -/
theorem offsetIn?_open {above : List Text} (habove : Unbroken above) {t : Text} (h : Open t)
    (rest : Text) {character : Nat} (hle : character ≤ t.length) :
    offsetIn? (linePieces (broken above ++ (t ++ rest))) above.length character
      = some ((broken above).length + character) := by
  have hne : t ≠ [] := by
    obtain ⟨front, c, rfl, -⟩ := h.last
    simp
  -- The column lies in front of the line end, so it is not cut off there.
  have hbody (piece : Text) : min character (bodyLength (t ++ piece)) = character :=
    Nat.min_eq_left (Nat.le_trans hle (length_le_bodyLength h piece))
  rw [linePieces_broken habove, offsetIn?_append, linePieces_append h.unbroken hne]
  cases linePieces rest with
  | nil =>
      have hbody' := hbody []
      rw [List.append_nil] at hbody'
      rw [prepend, offsetIn?, hbody', Option.map_some]
  | cons piece pieces => rw [prepend, offsetIn?, hbody, Option.map_some]

/-! ### Replacements -/

/-- A replacement inside an open line. -/
theorem change_open {above : List Text} (habove : Unbroken above) {front middle : Text}
    (h : Open (front ++ middle)) (rest replacement : Text) (version : Int) {range : Range}
    (hstart : range.start.line.toNat = above.length ∧
      range.start.character.toNat = front.length)
    (hstop : range.stop.line.toNat = above.length ∧
      range.stop.character.toNat = front.length + middle.length) :
    (Document.mk (broken above ++ (front ++ middle ++ rest)) version).change
        ⟨some range, replacement⟩
      = ⟨broken above ++ (front ++ replacement ++ rest), version⟩ := by
  have hfirst : (Document.mk (broken above ++ (front ++ middle ++ rest)) version).offset?
      range.start = some ((broken above).length + front.length) := by
    rw [offset?, hstart.1, hstart.2]
    exact offsetIn?_open habove h rest (by simp)
  have hlast : (Document.mk (broken above ++ (front ++ middle ++ rest)) version).offset?
      range.stop = some ((broken above).length + (front.length + middle.length)) := by
    rw [offset?, hstop.1, hstop.2]
    exact offsetIn?_open habove h rest (by simp)
  have htake : (broken above ++ (front ++ middle ++ rest)).take
      ((broken above).length + front.length) = broken above ++ front := by
    rw [List.append_assoc, ← List.append_assoc, ← List.length_append, List.take_left]
  have hdrop : (broken above ++ (front ++ middle ++ rest)).drop
      ((broken above).length + (front.length + middle.length)) = rest := by
    rw [← List.length_append, ← List.append_assoc, ← List.length_append, List.drop_left]
  simp only [change, hfirst, hlast]
  rw [if_pos (by omega), replace, htake, hdrop]
  simp only [List.append_assoc]

end Document

end DefIndex
