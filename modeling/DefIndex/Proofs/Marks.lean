import Mathlib.Data.List.Infix
import DefIndex.Comment

/-!
# `DefIndex.Proofs.Marks`: which characters of a source text lie in comments

`Comment.cleanLines` reads a text line by line and leaves blanks where the
comments were. A blank of a clean line may have been a blank before, so the
clean lines alone do not tell what a comment covers. Here every character
of the whole text gets a mark that tells it.

* `Comment.RightlyMarked` says what the marks should be, comment by
  comment and without a state: `//` covers the rest of its line, `/*`
  everything through the first `*/` after it.
* `Comment.mark` computes marks, and `Comment.rightlyMarked_iff` proves
  that they are right and that no others are.
* `Comment.markedLines` cuts marked text into physical lines, as
  `Text.lines` does. `Comment.map_shown_markedLines` ties the marks to
  `cleanLines`: a clean line is the physical line with blanks for what is
  covered.
-/

set_option autoImplicit false

namespace DefIndex

/-- A text whose characters tell whether a comment covers them. -/
abbrev MarkedText := List (Char × Bool)

namespace Comment

/-- A text inside a comment. -/
def covered (t : Text) : MarkedText := t.map fun c => (c, true)

/-! ### What the marks should be -/

/-- The marks of a text that is read from outside comments. -/
inductive RightlyMarked : MarkedText → Prop where
  | nil : RightlyMarked []
  /-- A character that opens no comment is not covered. -/
  | code {c : Char} {rest : MarkedText} (noLine : ¬ ['/', '/'] <+: c :: rest.map Prod.fst)
      (noBlock : ¬ ['/', '*'] <+: c :: rest.map Prod.fst) (further : RightlyMarked rest) :
      RightlyMarked ((c, false) :: rest)
  /-- A line comment ends before the next line feed. -/
  | line {body : Text} {rest : MarkedText} (unbroken : '\n' ∉ body)
      (ends : ∀ m ∈ rest.head?, m.1 = '\n') (further : RightlyMarked rest) :
      RightlyMarked (covered ('/' :: '/' :: body) ++ rest)
  /-- A block comment ends with the first `*/` behind its opening. -/
  | block {body : Text} {rest : MarkedText} (first : ¬ ['*', '/'] <:+: body ++ ['*'])
      (further : RightlyMarked rest) :
      RightlyMarked (covered ('/' :: '*' :: body ++ ['*', '/']) ++ rest)
  /-- A block comment without an end covers all that follows. -/
  | unclosed {body : Text} (never : ¬ ['*', '/'] <:+: body) :
      RightlyMarked (covered ('/' :: '*' :: body))

/-! ### Computing them -/

/-- Mark a text, or the rest of one, from a state. -/
def mark : CommentState → Text → MarkedText
  | _, [] => []
  | .code, '/' :: '/' :: cs => ('/', true) :: ('/', true) :: mark .line cs
  | .code, '/' :: '*' :: cs => ('/', true) :: ('*', true) :: mark .block cs
  | .code, c :: cs => (c, false) :: mark .code cs
  | .block, '*' :: '/' :: cs => ('*', true) :: ('/', true) :: mark .code cs
  | .block, c :: cs => (c, true) :: mark .block cs
  | .line, '\n' :: cs => ('\n', false) :: mark .code cs
  | .line, c :: cs => (c, true) :: mark .line cs

/-- Marks leave the text alone. -/
theorem map_fst_mark (state : CommentState) (t : Text) : (mark state t).map Prod.fst = t := by
  fun_induction mark state t <;> simp_all

/-- In a line comment everything is covered up to the line feed. -/
theorem mark_line {body rest : Text} (hbody : '\n' ∉ body) (hrest : ∀ c ∈ rest.head?, c = '\n') :
    mark .line (body ++ rest) = covered body ++ mark .code rest := by
  induction body with
  | nil =>
      cases rest with
      | nil => rfl
      | cons c cs =>
          obtain rfl := hrest c rfl
          simp [mark, covered]
  | cons c body ih =>
      rw [List.mem_cons, not_or] at hbody
      rw [List.cons_append, mark, ih hbody.2, covered, covered, List.map_cons, List.cons_append]
      exact Ne.symm hbody.1

/-- A text has a first line. -/
theorem exists_line (t : Text) :
    ∃ body rest, t = body ++ rest ∧ '\n' ∉ body ∧ ∀ c ∈ rest.head?, c = '\n' := by
  induction t with
  | nil => exact ⟨[], [], rfl, by simp, by simp⟩
  | cons c cs ih =>
      by_cases hc : c = '\n'
      · exact ⟨[], c :: cs, rfl, by simp, by simp [hc]⟩
      · obtain ⟨body, rest, rfl, hbody, hrest⟩ := ih
        refine ⟨c :: body, rest, rfl, ?_, hrest⟩
        rw [List.mem_cons, not_or]
        exact ⟨Ne.symm hc, hbody⟩

/-- A character that ends no block comment is covered by it. -/
theorem mark_block_cons {c : Char} {cs : Text} (h : ¬ ['*', '/'] <+: c :: cs) :
    mark .block (c :: cs) = (c, true) :: mark .block cs := by
  rw [mark]
  rintro rest rfl rfl
  exact h ⟨rest, rfl⟩

/-- In a block comment everything is covered if it does not end. -/
theorem mark_block_of_never {t : Text} (never : ¬ ['*', '/'] <:+: t) :
    mark .block t = covered t := by
  induction t with
  | nil => rfl
  | cons c cs ih =>
      rw [List.infix_cons_iff, not_or] at never
      rw [mark_block_cons never.1, ih never.2]
      rfl

/-- In a block comment everything is covered through the first `*/`. -/
theorem mark_block {body : Text} (first : ¬ ['*', '/'] <:+: body ++ ['*']) (rest : Text) :
    mark .block (body ++ '*' :: '/' :: rest)
      = covered (body ++ ['*', '/']) ++ mark .code rest := by
  induction body with
  | nil => rfl
  | cons c body ih =>
      rw [List.cons_append, List.infix_cons_iff, not_or] at first
      have hends : ¬ ['*', '/'] <+: c :: (body ++ '*' :: '/' :: rest) := by
        intro hstart
        refine first.1 ?_
        -- The two characters lie in front of the slash that is left out.
        have hlonger : c :: (body ++ ['*']) <+: c :: (body ++ '*' :: '/' :: rest) :=
          ⟨'/' :: rest, by simp⟩
        exact List.prefix_of_prefix_length_le hstart hlonger (by simp)
      rw [List.cons_append, mark_block_cons hends, ih first.2]
      rfl

/-- A text with a `*/` has a first one. -/
theorem exists_first {t : Text} (h : ['*', '/'] <:+: t) :
    ∃ body rest, t = body ++ '*' :: '/' :: rest ∧ ¬ ['*', '/'] <:+: body ++ ['*'] := by
  induction t with
  | nil => simp at h
  | cons c cs ih =>
      by_cases hends : ['*', '/'] <+: c :: cs
      · obtain ⟨rest, hrest⟩ := hends
        exact ⟨[], rest, hrest.symm, by decide⟩
      · obtain ⟨body, rest, rfl, hfirst⟩ := ih ((List.infix_cons_iff.1 h).resolve_left hends)
        refine ⟨c :: body, rest, rfl, ?_⟩
        rw [List.cons_append, List.infix_cons_iff, not_or]
        refine ⟨fun hstart => hends (hstart.trans ?_), hfirst⟩
        exact ⟨'/' :: rest, by simp⟩

/-- A character that opens no comment is not covered. -/
theorem mark_code_cons {c : Char} {cs : Text} (noLine : ¬ ['/', '/'] <+: c :: cs)
    (noBlock : ¬ ['/', '*'] <+: c :: cs) :
    mark .code (c :: cs) = (c, false) :: mark .code cs := by
  rw [mark]
  · rintro rest rfl rfl
    exact noLine ⟨rest, rfl⟩
  · rintro rest rfl rfl
    exact noBlock ⟨rest, rfl⟩

/-- The marks of a line comment and of what follows it. -/
theorem mark_code_line {body rest : Text} (hbody : '\n' ∉ body)
    (hrest : ∀ c ∈ rest.head?, c = '\n') :
    mark .code ('/' :: '/' :: body ++ rest)
      = covered ('/' :: '/' :: body) ++ mark .code rest := by
  rw [List.cons_append, List.cons_append, mark, mark_line hbody hrest]
  rfl

/-- The marks of a block comment and of what follows it. -/
theorem mark_code_block {body : Text} (first : ¬ ['*', '/'] <:+: body ++ ['*']) (rest : Text) :
    mark .code ('/' :: '*' :: body ++ '*' :: '/' :: rest)
      = covered ('/' :: '*' :: body ++ ['*', '/']) ++ mark .code rest := by
  rw [List.cons_append, List.cons_append, mark, mark_block first rest]
  rfl

/-- The marks of a block comment that does not end. -/
theorem mark_code_unclosed {body : Text} (never : ¬ ['*', '/'] <:+: body) :
    mark .code ('/' :: '*' :: body) = covered ('/' :: '*' :: body) := by
  rw [mark, mark_block_of_never never]
  rfl

/-- The marks of a text start as the text does. -/
theorem head?_mark {t : Text} (h : ∀ c ∈ t.head?, c = '\n') :
    ∀ m ∈ (mark .code t).head?, m.1 = '\n' := by
  intro m hm
  refine h m.1 ?_
  rw [← map_fst_mark .code t, List.head?_map]
  exact Option.mem_map_of_mem Prod.fst hm

/-- The marks are right. -/
theorem rightlyMarked_mark (t : Text) : RightlyMarked (mark .code t) := by
  induction hn : t.length using Nat.strong_induction_on generalizing t with
  | _ n ih =>
      by_cases hline : ['/', '/'] <+: t
      · obtain ⟨cs, rfl⟩ := hline
        obtain ⟨body, rest, rfl, hbody, hrest⟩ := exists_line cs
        have hfurther := ih rest.length (by simp at hn; omega) rest rfl
        have hmark := mark_code_line hbody hrest
        exact hmark ▸ .line hbody (head?_mark hrest) hfurther
      by_cases hblock : ['/', '*'] <+: t
      · obtain ⟨cs, rfl⟩ := hblock
        by_cases hends : ['*', '/'] <:+: cs
        · obtain ⟨body, rest, rfl, hfirst⟩ := exists_first hends
          have hfurther := ih rest.length (by simp at hn; omega) rest rfl
          exact (mark_code_block hfirst rest) ▸ .block hfirst hfurther
        · exact (mark_code_unclosed hends) ▸ .unclosed hends
      cases t with
      | nil => exact .nil
      | cons c cs =>
          have hfurther := ih cs.length (by simp at hn; omega) cs rfl
          rw [mark_code_cons hline hblock]
          exact .code (by rwa [map_fst_mark]) (by rwa [map_fst_mark]) hfurther

/-- No other marks are right. -/
theorem RightlyMarked.eq_mark {ms : MarkedText} (h : RightlyMarked ms) :
    ms = mark .code (ms.map Prod.fst) := by
  have hcovered (t : Text) (rest : MarkedText) :
      (covered t ++ rest).map Prod.fst = t ++ rest.map Prod.fst := by
    rw [List.map_append, covered, List.map_map]
    exact congrArg (· ++ rest.map Prod.fst) (List.map_id t)
  induction h with
  | nil => rfl
  | code noLine noBlock _ ih => rw [List.map_cons, mark_code_cons noLine noBlock, ← ih]
  | @line body rest unbroken ends _ ih =>
      have hrest : ∀ c ∈ (rest.map Prod.fst).head?, c = '\n' := by
        intro c hc
        rw [List.head?_map, Option.mem_def, Option.map_eq_some_iff] at hc
        obtain ⟨m, hm, rfl⟩ := hc
        exact ends m hm
      rw [hcovered, mark_code_line unbroken hrest, ← ih]
  | @block body rest first _ ih =>
      rw [hcovered, List.append_assoc]
      exact (congrArg _ ih).trans (mark_code_block first _).symm
  | @unclosed body never =>
      have hfst := hcovered ('/' :: '*' :: body) []
      rw [List.append_nil, List.map_nil, List.append_nil] at hfst
      rw [hfst, mark_code_unclosed never]

/-- The right marks are those that are computed. -/
theorem rightlyMarked_iff {ms : MarkedText} :
    RightlyMarked ms ↔ ms = mark .code (ms.map Prod.fst) :=
  ⟨RightlyMarked.eq_mark, fun h => h ▸ rightlyMarked_mark _⟩

/-! ### Physical lines -/

/-- Put something in front of the first line. -/
def prepend {α : Type} (front : List α) : List (List α) → List (List α)
  | [] => [front]
  | line :: rest => (front ++ line) :: rest

/-- Mapping a line maps what is in front of it. -/
theorem map_prepend {α β : Type} (f : α → β) (front : List α) (lines : List (List α)) :
    (prepend front lines).map (List.map f) = prepend (front.map f) (lines.map (List.map f)) := by
  cases lines <;> simp [prepend]

/-- What is put in front in two steps is put in front at once. -/
theorem prepend_prepend {α : Type} (front more : List α) (lines : List (List α)) :
    prepend front (prepend more lines) = prepend (front ++ more) lines := by
  cases lines <;> simp [prepend]

/-- The physical lines of a marked text. -/
def markedLines : MarkedText → List MarkedText
  | [] => []
  | ('\n', _) :: ms => [] :: markedLines ms
  | ('\r', _) :: ('\n', _) :: ms => [] :: markedLines ms
  | m :: ms => prepend [m] (markedLines ms)

/-- A character belongs to the end of a line: it is a line feed, or a
carriage return before one. -/
def EndsLine (c : Char) (cs : Text) : Prop := c = '\n' ∨ c = '\r' ∧ ['\n'] <+: cs

/-- Any other character belongs to its line. -/
theorem lines_cons {c : Char} {cs : Text} (h : ¬ EndsLine c cs) :
    Text.lines (c :: cs) = prepend [c] (Text.lines cs) := by
  rw [Text.lines]
  · cases Text.lines cs <;> rfl
  · rintro rfl
    exact h (Or.inl rfl)
  · rintro rest rfl rfl
    exact h (Or.inr ⟨rfl, rest, rfl⟩)

/-- So does a marked one. -/
theorem markedLines_cons {c : Char} {covered : Bool} {ms : MarkedText}
    (h : ¬ EndsLine c (ms.map Prod.fst)) :
    markedLines ((c, covered) :: ms) = prepend [(c, covered)] (markedLines ms) := by
  rw [markedLines]
  · rintro b ⟨⟩
    exact h (Or.inl rfl)
  · rintro b b' rest ⟨⟩ rfl
    exact h (Or.inr ⟨rfl, rest.map Prod.fst, rfl⟩)

/-- Marks do not change where lines end. -/
theorem map_fst_markedLines (ms : MarkedText) :
    (markedLines ms).map (List.map Prod.fst) = Text.lines (ms.map Prod.fst) := by
  fun_induction markedLines ms with
  | case1 => rfl
  | case2 _ ms ih => simp [Text.lines, ih]
  | case3 _ _ ms ih => simp [Text.lines, ih]
  | case4 m ms hfeed hreturn ih =>
      obtain ⟨c, covered⟩ := m
      have hends : ¬ EndsLine c (ms.map Prod.fst) := by
        rintro (rfl | ⟨rfl, rest, hrest⟩)
        · exact hfeed covered rfl
        · cases ms with
          | nil => cases hrest
          | cons m' ms' =>
              obtain ⟨c', covered'⟩ := m'
              cases hrest
              exact hreturn covered covered' ms' rfl rfl
      rw [map_prepend, ih]
      exact (lines_cons hends).symm

/-! ### Clean lines -/

/-- What a clean line shows of a character: a blank if a comment covers it. -/
def shown (m : Char × Bool) : Char := if m.2 then ' ' else m.1

/-- The texts of clean lines. -/
def cleanTexts (state : CommentState) (lines : List Text) : List Text :=
  (cleanFrom state lines).map Prod.fst

/-- There is one clean text for each line. -/
theorem length_cleanTexts (state : CommentState) (ls : List Text) :
    (cleanTexts state ls).length = ls.length := by
  induction ls generalizing state with
  | nil => rfl
  | cons l ls ih => exact congrArg (· + 1) (ih _)

/-- Reading the start of a line in one go. -/
theorem cleanTexts_prepend {state state' : CommentState} {front clean : Text} {lines : List Text}
    (h : blankOut state (front ++ lines.headD [])
      = lead clean (blankOut state' (lines.headD []))) :
    cleanTexts state (prepend front lines) = prepend clean (cleanTexts state' lines) := by
  cases lines with
  | nil =>
      simp only [List.headD_nil, List.append_nil] at h
      simp [cleanTexts, prepend, cleanFrom, cleanLine, h, lead, blankOut]
  | cons line rest =>
      simp only [List.headD_cons] at h
      simp [cleanTexts, prepend, cleanFrom, cleanLine, h, lead]

/-- The first line of a text is its start. -/
theorem headD_lines_isPrefix (t : Text) : (Text.lines t).headD [] <+: t := by
  fun_induction Text.lines t with
  | case1 => exact List.nil_prefix
  | case2 => exact List.nil_prefix
  | case3 => exact List.nil_prefix
  | case4 c cs hfeed hreturn hnone ih =>
      exact ⟨cs, rfl⟩
  | case5 c cs hfeed hreturn line rest hsome ih =>
      rw [hsome] at ih
      exact List.cons_prefix_cons.2 ⟨rfl, ih⟩

/-- What the first line of a text starts with, the text starts with. -/
theorem exists_of_headD_lines {t line : Text} {c : Char}
    (h : (Text.lines t).headD [] = c :: line) : ∃ rest, t = c :: rest := by
  obtain ⟨more, hmore⟩ := headD_lines_isPrefix t
  exact ⟨line ++ more, by rw [← hmore, h, List.cons_append]⟩

/-- The clean lines from a state are those of the marks. -/
def ShownAs (state : CommentState) (t : Text) : Prop :=
  (markedLines (mark state t)).map (List.map shown) = cleanTexts state (Text.lines t)

/-- A line feed ends the line, and with it a line comment. -/
theorem mark_feed (state : CommentState) (cs : Text) :
    ∃ covered, mark state ('\n' :: cs) = ('\n', covered) :: mark state.afterLine cs := by
  cases state with
  | code => exact ⟨false, by rw [mark] <;> simp [CommentState.afterLine]⟩
  | line => exact ⟨false, rfl⟩
  | block => exact ⟨true, by rw [mark] <;> simp [CommentState.afterLine]⟩

/-- A line without characters is clean. -/
theorem cleanTexts_nil_cons (state : CommentState) (lines : List Text) :
    cleanTexts state ([] :: lines) = [] :: cleanTexts state.afterLine lines := by
  simp [cleanTexts, cleanFrom, cleanLine, blankOut]

/-- Marks and clean lines agree on a line feed. -/
theorem ShownAs.feed {state : CommentState} {cs : Text} (h : ShownAs state.afterLine cs) :
    ShownAs state ('\n' :: cs) := by
  obtain ⟨covered, hmark⟩ := mark_feed state cs
  rw [ShownAs, hmark, markedLines, Text.lines, cleanTexts_nil_cons, ← h]
  rfl

/-- Marks and clean lines agree on a character that is taken alone. -/
theorem ShownAs.single {state : CommentState} {c : Char} {cs : Text} {covered : Bool}
    (hfeed : c ≠ '\n') (hmark : mark state (c :: cs) = (c, covered) :: mark state cs)
    (hclean : blankOut state (c :: (Text.lines cs).headD [])
      = lead [shown (c, covered)] (blankOut state ((Text.lines cs).headD [])))
    (h : ShownAs state cs) : ShownAs state (c :: cs) := by
  by_cases hends : EndsLine c cs
  · -- A carriage return before a line feed leaves no trace.
    obtain ⟨rfl, rest, rfl⟩ := hends.resolve_left hfeed
    obtain ⟨covered', hrest⟩ := mark_feed state rest
    rw [ShownAs, List.singleton_append, hrest, markedLines, Text.lines] at h
    rw [ShownAs, hmark, List.singleton_append, hrest, markedLines, Text.lines]
    exact h
  · rw [ShownAs, hmark, markedLines_cons (by rwa [map_fst_mark]), map_prepend, lines_cons hends, h,
      cleanTexts_prepend hclean]
    rfl

/-- Marks and clean lines agree on two characters that are taken together. -/
theorem ShownAs.pair {state state' : CommentState} {a b : Char} {cs : Text}
    (ha : ¬ EndsLine a (b :: cs)) (hb : ¬ EndsLine b cs)
    (hmark : mark state (a :: b :: cs) = (a, true) :: (b, true) :: mark state' cs)
    (hclean : ∀ t, blankOut state (a :: b :: t) = lead [' ', ' '] (blankOut state' t))
    (h : ShownAs state' cs) : ShownAs state (a :: b :: cs) := by
  have hmarked : markedLines (mark state (a :: b :: cs))
      = prepend [(a, true), (b, true)] (markedLines (mark state' cs)) := by
    rw [hmark, markedLines_cons, markedLines_cons, prepend_prepend]
    · rfl
    · rwa [map_fst_mark]
    · rwa [List.map_cons, map_fst_mark]
  rw [ShownAs, hmarked, map_prepend, lines_cons ha, lines_cons hb, prepend_prepend, h]
  exact (cleanTexts_prepend (hclean _)).symm

/-- Marks and clean lines agree. -/
theorem shownAs_mark (state : CommentState) (t : Text) : ShownAs state t := by
  fun_induction mark state t with
  | case1 => rfl
  | case2 cs ih => exact ih.pair (by simp [EndsLine]) (by simp [EndsLine]) rfl fun _ => rfl
  | case3 cs ih => exact ih.pair (by simp [EndsLine]) (by simp [EndsLine]) rfl fun _ => rfl
  | case4 c cs hline hblock ih =>
      by_cases hc : c = '\n'
      · subst hc
        exact ShownAs.feed ih
      · refine ih.single hc (by rw [mark] <;> assumption) ?_
        rw [blankOut]
        · rfl
        · intro line hslash hhead
          obtain ⟨rest, hrest⟩ := exists_of_headD_lines hhead
          exact hline rest hslash hrest
        · intro line hslash hhead
          obtain ⟨rest, hrest⟩ := exists_of_headD_lines hhead
          exact hblock rest hslash hrest
  | case5 cs ih => exact ih.pair (by simp [EndsLine]) (by simp [EndsLine]) rfl fun _ => rfl
  | case6 c cs hends ih =>
      by_cases hc : c = '\n'
      · subst hc
        exact ShownAs.feed ih
      · refine ih.single hc (by rw [mark]; assumption) ?_
        rw [blankOut]
        · rfl
        · intro line hstar hhead
          obtain ⟨rest, hrest⟩ := exists_of_headD_lines hhead
          exact hends rest hstar hrest
  | case7 cs ih => exact ShownAs.feed ih
  | case8 c cs hfeed ih =>
      refine ih.single hfeed (by rw [mark]; assumption) ?_
      rw [blankOut]
      rfl

/-- The physical lines of a source text with their marks. -/
def marked (source : Text) : List MarkedText := markedLines (mark .code source)

/-- The marked lines are the physical lines. -/
theorem map_fst_marked (source : Text) :
    (marked source).map (List.map Prod.fst) = Text.lines source := by
  rw [marked, map_fst_markedLines, map_fst_mark]

/-- Lines are numbered by their places. -/
theorem getElem?_of_mem_numberFrom {n : Nat} {ts : List Text} {line : CleanLine}
    (h : line ∈ numberFrom n ts) : ∃ i, line.number = n + i ∧ ts[i]? = some line.text := by
  induction ts generalizing n with
  | nil => cases h
  | cons t ts ih =>
      rcases List.mem_cons.1 h with rfl | h
      · exact ⟨0, rfl, rfl⟩
      · obtain ⟨i, hnumber, hi⟩ := ih h
        exact ⟨i + 1, by omega, hi⟩

/-- A clean line is a physical line with blanks for what comments cover. -/
theorem exists_marked_of_mem_cleanLines {source : Text} {line : CleanLine}
    (h : line ∈ cleanLines source) :
    0 < line.number ∧ ∃ ms, (marked source)[line.number - 1]? = some ms ∧
      line.text = ms.map shown := by
  obtain ⟨i, hnumber, hi⟩ := getElem?_of_mem_numberFrom h
  have hshown : (marked source).map (List.map shown)
      = (cleanFrom .code (Text.lines source)).map Prod.fst := shownAs_mark .code source
  rw [← hshown, List.getElem?_map, Option.map_eq_some_iff] at hi
  obtain ⟨ms, hms, htext⟩ := hi
  refine ⟨by omega, ms, ?_, htext.symm⟩
  rw [hnumber, Nat.add_sub_cancel_left]
  exact hms

end Comment

end DefIndex
