import Mathlib.Data.List.Forall2
import DefIndex.Proofs.Replacement

/-!
# `DefIndex.Proofs.Blanking`: what is left of a text without its comments

`Comment.cleanLines` reads line by line, with one state and one character of
lookahead. `Comment.RightlyMarked` reads the whole text, comment by comment.
This file compares the two, and follows what is left.

* `Comment.unmarked_blankOut` finds no mark of a comment on a clean line.
  Blanks stand where the marks stood, and two characters that were not
  neighbours have not become neighbours.
* `Comment.cleanFrom_of_unmarked` reads lines without marks: nothing changes.
* `Outline.read_congr_outside` compares two texts whose comments stand in the
  same places: what is written in the comments does not matter.
* `Comment.blanked_cleanLines` is the statement about a whole text.
-/

set_option autoImplicit false

namespace DefIndex

namespace Comment

/-! ### Lines without marks -/

/-- A text in which no comment opens, wherever one looks. -/
structure Unmarked (t : Text) : Prop where
  line : ¬ ['/', '/'] <:+: t
  block : ¬ ['/', '*'] <:+: t

/-- No comment opens in the empty text. -/
theorem unmarked_nil : Unmarked [] := ⟨by simp, by simp⟩

/-- No comment opens at the first character, nor behind it. -/
theorem unmarked_cons {c : Char} {cs : Text} :
    Unmarked (c :: cs) ↔ ¬ ['/', '/'] <+: c :: cs ∧ ¬ ['/', '*'] <+: c :: cs ∧ Unmarked cs := by
  constructor
  · rintro ⟨hline, hblock⟩
    rw [List.infix_cons_iff, not_or] at hline hblock
    exact ⟨hline.1, hblock.1, hline.2, hblock.2⟩
  · rintro ⟨hline, hblock, hrest⟩
    constructor
    · rw [List.infix_cons_iff, not_or]
      exact ⟨hline, hrest.line⟩
    · rw [List.infix_cons_iff, not_or]
      exact ⟨hblock, hrest.block⟩

/-- A blank opens no comment. -/
theorem Unmarked.blank {t : Text} (h : Unmarked t) : Unmarked (' ' :: t) :=
  unmarked_cons.2 ⟨by simp, by simp, h⟩

/-- What a slash and the character behind it show was there before: blanking
out makes no mark. -/
theorem not_isPrefix_blankOut {c second : Char} {cs : Text} (hsecond : second ≠ ' ')
    (h : ¬ ['/', second] <+: c :: cs) : ¬ ['/', second] <+: c :: (blankOut .code cs).1 := by
  -- A character of a clean line that is no blank was there before.
  intro hprefix
  obtain ⟨rfl, hnext⟩ := List.cons_prefix_cons.1 hprefix
  obtain ⟨rest, hrest⟩ := hnext
  have hshown := forall₂_blankOut .code cs
  rw [← hrest] at hshown
  cases hshown with
  | cons hhead _ =>
      rw [hhead.resolve_right hsecond] at h
      exact h (by simp)

/-- No comment opens on a line whose comments are blanked out. -/
theorem unmarked_blankOut (state : CommentState) (t : Text) : Unmarked (blankOut state t).1 := by
  fun_induction blankOut state t with
  | case1 => exact unmarked_nil
  | case2 cs ih => exact ih.blank.blank
  | case3 cs ih => exact ih.blank.blank
  | case4 c cs hline hblock ih =>
      -- The only character that is shown here is one that opens no comment.
      refine unmarked_cons.2 ⟨not_isPrefix_blankOut (by decide) ?_,
        not_isPrefix_blankOut (by decide) ?_, ih⟩
      · rintro ⟨rest, hrest⟩
        obtain ⟨rfl, rfl⟩ := List.cons.inj hrest
        exact hline rest rfl rfl
      · rintro ⟨rest, hrest⟩
        obtain ⟨rfl, rfl⟩ := List.cons.inj hrest
        exact hblock rest rfl rfl
  | case5 cs ih => exact ih.blank.blank
  | case6 c cs _ ih => exact ih.blank
  | case7 c cs ih => exact ih.blank

/-- A line on which no comment opens is clean. -/
theorem blankOut_of_unmarked {t : Text} (h : Unmarked t) : blankOut .code t = (t, .code) := by
  induction t with
  | nil => rfl
  | cons c cs ih =>
      obtain ⟨hline, hblock, hrest⟩ := unmarked_cons.1 h
      rw [blankOut_code_cons hline hblock, ih hrest]
      rfl

/-- Lines on which no comment opens are clean, and each is read from outside
comments. -/
theorem cleanFrom_of_unmarked {ts : List Text} (h : ∀ t ∈ ts, Unmarked t) :
    cleanFrom .code ts = ts.map fun t => (t, .code) := by
  induction ts with
  | nil => rfl
  | cons t ts ih =>
      obtain ⟨ht, hts⟩ := List.forall_mem_cons.1 h
      have hclean : cleanLine .code t = (t, .code) := by
        rw [cleanLine, blankOut_of_unmarked ht]
        rfl
      rw [cleanFrom, hclean, ih hts, List.map_cons]

/-- No comment opens on a clean line. -/
theorem unmarked_of_mem_cleanTexts {state : CommentState} {ls : List Text} {t : Text}
    (h : t ∈ cleanTexts state ls) : Unmarked t := by
  induction ls generalizing state with
  | nil => cases h
  | cons l ls ih =>
      rcases List.mem_cons.1 h with rfl | h
      · exact unmarked_blankOut state l
      · exact ih h

/-! ### Numbers and texts -/

/-- The texts of numbered lines. -/
theorem map_text_numberFrom (n : Nat) (ts : List Text) :
    (numberFrom n ts).map CleanLine.text = ts := by
  induction ts generalizing n with
  | nil => rfl
  | cons t ts ih => exact congrArg (t :: ·) (ih (n + 1))

/-- Their numbers. -/
theorem map_number_numberFrom (n : Nat) (ts : List Text) :
    (numberFrom n ts).map CleanLine.number = List.range' n ts.length := by
  induction ts generalizing n with
  | nil => rfl
  | cons t ts ih => exact congrArg (n :: ·) (ih (n + 1))

/-- The clean lines are the marked ones, as they are shown. -/
theorem cleanLines_eq (source : Text) :
    cleanLines source = numberFrom 1 ((marked source).map (List.map shown)) :=
  congrArg (numberFrom 1) (shownAs_mark .code source).symm

/-- The texts of the clean lines. -/
theorem map_text_cleanLines (source : Text) :
    (cleanLines source).map CleanLine.text = cleanTexts .code (Text.lines source) :=
  map_text_numberFrom 1 _

/-! ### Texts that differ inside comments -/

/-- Two marked characters that are both covered, or both not covered and
the same. -/
def AlikeOutside (m m' : Char × Bool) : Prop := m.2 = m'.2 ∧ (m.2 = false → m.1 = m'.1)

/-- They are shown alike. -/
theorem AlikeOutside.shown_eq {m m' : Char × Bool} (h : AlikeOutside m m') :
    shown m = shown m' := by
  rw [shown, shown, ← h.1]
  split
  next => rfl
  next hcovered => exact h.2 (Bool.eq_false_iff.2 hcovered)

/-- Lists whose members correspond under `f` are the same under `f`. -/
theorem map_eq_of_forall₂ {α β : Type} {R : α → α → Prop} {f : α → β}
    (hf : ∀ a b, R a b → f a = f b) {as bs : List α} (h : List.Forall₂ R as bs) :
    as.map f = bs.map f := by
  induction h with
  | nil => rfl
  | cons hab _ ih => rw [List.map_cons, List.map_cons, hf _ _ hab, ih]

/-- Two texts have the same clean lines if their lines are alike outside
comments. -/
theorem cleanLines_congr_outside {a b : Text}
    (h : List.Forall₂ (List.Forall₂ AlikeOutside) (marked a) (marked b)) :
    cleanLines a = cleanLines b := by
  have hline (l l' : MarkedText) (hl : List.Forall₂ AlikeOutside l l') :
      l.map shown = l'.map shown :=
    map_eq_of_forall₂ (fun _ _ h => AlikeOutside.shown_eq h) hl
  rw [cleanLines_eq, cleanLines_eq, map_eq_of_forall₂ hline h]

end Comment

/-- The outline of a text depends on its clean lines only. -/
theorem Outline.read_congr {a b : Text} (h : Comment.cleanLines a = Comment.cleanLines b)
    (file : Path) : Outline.read file a = Outline.read file b := by
  rw [Outline.read, Outline.read, h]

/-- What is written in comments does not matter to an outline. -/
theorem Outline.read_congr_outside {a b : Text}
    (h : List.Forall₂ (List.Forall₂ Comment.AlikeOutside) (Comment.marked a) (Comment.marked b))
    (file : Path) : Outline.read file a = Outline.read file b :=
  read_congr (Comment.cleanLines_congr_outside h) file

namespace Comment

/-! ### Whole texts -/

/-- A marking of a source text in which every comment is where it should
be. -/
structure Marks (source : Text) (ms : MarkedText) : Prop where
  text : ms.map Prod.fst = source
  right : RightlyMarked ms

/-- It is the marking that is computed. -/
theorem marks_iff {source : Text} {ms : MarkedText} : Marks source ms ↔ ms = mark .code source := by
  constructor
  · rintro ⟨rfl, hright⟩
    exact hright.eq_mark
  · rintro rfl
    exact ⟨map_fst_mark .code source, rightlyMarked_mark source⟩

/-- What blanking out comments does to a source text. -/
structure Blanked (source : Text) : Prop where
  /-- The text is read in exactly one way. -/
  reading : ∃! ms, Marks source ms
  /-- The clean lines are numbered from one, one for each physical line. -/
  numbers : (cleanLines source).map CleanLine.number = List.range' 1 (Text.lines source).length
  /-- They are as long as the physical lines. -/
  widths : (cleanLines source).map (fun line => line.text.length)
    = (Text.lines source).map List.length
  /-- They show the characters of the physical lines, and a blank for each
  one that a comment covers. -/
  shows : ∀ ms, Marks source ms → (markedLines ms).map (List.map Prod.fst) = Text.lines source ∧
    (cleanLines source).map CleanLine.text = (markedLines ms).map (List.map shown)
  /-- No comment opens on them. -/
  unmarked : ∀ line ∈ cleanLines source, Unmarked line.text
  /-- Nothing changes when they are read again, and each of them ends outside
  comments. -/
  again : cleanFrom .code ((cleanLines source).map CleanLine.text)
    = (cleanLines source).map fun line => (line.text, .code)
  /-- A text with other characters inside its comments has the same outline. -/
  outlines : ∀ ms other ms', Marks source ms → Marks other ms' →
    List.Forall₂ (List.Forall₂ AlikeOutside) (markedLines ms) (markedLines ms') →
    ∀ file, Outline.read file source = Outline.read file other

/-- Reading line by line blanks out the comments of the text. -/
theorem blanked_cleanLines (source : Text) : Blanked source := by
  -- The marks tell what is shown, and what is shown holds no marks.
  have hunmarked : ∀ t ∈ (cleanLines source).map CleanLine.text, Unmarked t := by
    rw [map_text_cleanLines]
    exact fun t ht => unmarked_of_mem_cleanTexts ht
  have hshown : (cleanLines source).map CleanLine.text = (marked source).map (List.map shown) := by
    rw [map_text_cleanLines]
    exact (shownAs_mark .code source).symm
  constructor
  case reading => exact ⟨mark .code source, marks_iff.2 rfl, fun ms hms => marks_iff.1 hms⟩
  case numbers =>
    show (numberFrom 1 (cleanTexts .code (Text.lines source))).map CleanLine.number = _
    rw [map_number_numberFrom, length_cleanTexts]
  case widths =>
    rw [← Function.comp_def List.length CleanLine.text, ← List.map_map, hshown,
      ← map_fst_marked source, List.map_map, List.map_map]
    exact List.map_congr_left fun ms _ => by simp
  case shows =>
    intro ms hms
    rw [marks_iff.1 hms]
    exact ⟨map_fst_marked source, hshown⟩
  case unmarked => exact fun line hline => hunmarked _ (List.mem_map_of_mem hline)
  case again => rw [cleanFrom_of_unmarked hunmarked, List.map_map]; rfl
  case outlines =>
    intro ms other ms' hms hms' halike file
    rw [marks_iff.1 hms, marks_iff.1 hms'] at halike
    exact Outline.read_congr_outside halike file

/-- The star of `/*` ends no comment, and in a line comment none begins. -/
example : (cleanLines "/*/a*/b//*\nc").map CleanLine.text = ["      b   ", "c"] := by
  decide +kernel

end Comment

end DefIndex
