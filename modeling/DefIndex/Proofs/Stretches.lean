import Mathlib.Data.List.Nodup
import DefIndex.Proofs.EventOrder
import DefIndex.Proofs.Parentheses
import DefIndex.Proofs.Slices

/-!
# `DefIndex.Proofs.Stretches`: cutting a line loses nothing

The events of a line can be told from the line and the text in front of it
alone. A brace delimits wherever it stands, and a `;` where no parenthesis is
open, counted from the first line. What lies between neighbouring delimiters,
or between one and an end of the line, is a stretch, and each stretch is a
statement unless it is all blank and no `;` ends it.

* `Event.Stretch` is a stretch with what stands before and behind it;
  `Event.Belongs` says which events a line has. Neither counts a column or
  carries a depth.
* `Event.LaysOut` reads events from left to right and tells what line they
  are from. Nothing but blanks is left out.
* `Event.Cut` is where the two halves meet: `Event.cut_splitFrom` shows that
  the loop cuts so, and all that is said of the events is shown of a line
  that is cut so.
* `Event.restored_splitLines` is about lines that are cut one after the other.
-/

set_option autoImplicit false

namespace DefIndex

namespace Event

open Parens (unclosed)

/-! ### Delimiters and stretches -/

/-- A character that delimits, in view of all the text before it. -/
def Delimits (past : Text) (c : Char) : Prop := c = '{' ∨ c = '}' ∨ c = ';' ∧ unclosed past = 0

/-- No character of a text delimits. -/
def Unbroken (past body : Text) : Prop :=
  ∀ front c back, body = front ++ c :: back → ¬ Delimits (past ++ front) c

/-- Behind a text stands a delimiter or nothing. -/
def ClosedBy (past after : Text) : Prop := ∀ c rest, after = c :: rest → Delimits past c

/-- A stretch of a line: what lies between neighbouring delimiters, or between
one and an end of the line. -/
structure Stretch (past line before body after : Text) : Prop where
  line_eq : line = before ++ body ++ after
  /-- A delimiter stands before it, or nothing. -/
  opens : ∀ front c, before = front ++ [c] → Delimits (past ++ front) c
  unbroken : Unbroken (past ++ before) body
  closes : ClosedBy (past ++ before ++ body) after

/-- The events of a line, of which the first character stands at a column. -/
inductive Belongs (past : Text) (column : Nat) (line : Text) : Event → Prop where
  | opening {before after : Text} (h : line = before ++ '{' :: after) :
      Belongs past column line (.opening (column + before.length))
  | closing {before after : Text} (h : line = before ++ '}' :: after) :
      Belongs past column line (.closing (column + before.length))
  | statement {before body after : Text} (h : Stretch past line before body after)
      (said : after.head? = some ';' ∨ Text.allBlank body = false) :
      Belongs past column line (.statement body (column + before.length)
        (unclosed (past ++ before)) (after.head? == some ';'))

/-- Nothing delimits in nothing. -/
theorem unbroken_nil (past : Text) : Unbroken past [] := by
  intro front c back h
  cases front <;> cases h

/-- One more character that does not delimit. -/
theorem Unbroken.concat {past body : Text} (h : Unbroken past body) {c : Char}
    (hc : ¬ Delimits (past ++ body) c) : Unbroken past (body ++ [c]) := by
  intro front d back heq
  rcases List.eq_nil_or_concat back with rfl | ⟨back, e, rfl⟩
  · obtain ⟨rfl, hlast⟩ := List.append_inj' heq rfl
    obtain rfl := List.singleton_inj.1 hlast
    exact hc
  · rw [List.concat_eq_append, ← List.cons_append, ← List.append_assoc] at heq
    exact h front d back (List.append_inj' heq rfl).1

/-- There is one way to read up to the first delimiter. -/
theorem Unbroken.unique {past s t s' t' : Text} (hs : Unbroken past s)
    (hs' : ClosedBy (past ++ s) s') (ht : Unbroken past t) (ht' : ClosedBy (past ++ t) t')
    (heq : s ++ s' = t ++ t') : s = t ∧ s' = t' := by
  rcases List.append_eq_append_iff.1 heq with ⟨more, rfl, rfl⟩ | ⟨more, rfl, rfl⟩
  · cases more with
    | nil => simp
    | cons c more => exact absurd (hs' c (more ++ t') rfl) (ht s c more rfl)
  · cases more with
    | nil => simp
    | cons c more => exact absurd (ht' c (more ++ s') rfl) (hs t c more rfl)

/-- A delimiter stands behind a text without any. -/
theorem Unbroken.in_front {past body tail before after : Text} {c : Char}
    (hbody : Unbroken past body) (hc : Delimits (past ++ before) c)
    (heq : body ++ tail = before ++ c :: after) :
    ∃ more, before = body ++ more ∧ tail = more ++ c :: after := by
  rcases List.append_eq_append_iff.1 heq with ⟨more, rfl, rfl⟩ | ⟨more, rfl, hmore⟩
  · exact ⟨more, rfl, rfl⟩
  · cases more with
    | nil => exact ⟨[], by simp, hmore.symm⟩
    | cons d more =>
        obtain rfl := (List.cons.inj hmore).1
        exact absurd hc (hbody before c more rfl)

/-- A text without delimiters in front of one is the first stretch, and every
other one starts behind it. -/
theorem Stretch.first_or_later {past body tail before inner after : Text}
    (hbody : Unbroken past body) (htail : ClosedBy (past ++ body) tail)
    (h : Stretch past (body ++ tail) before inner after) :
    before = [] ∧ inner = body ∧ after = tail ∨ ∃ c rest, before = body ++ c :: rest := by
  have hline := h.line_eq
  rcases List.eq_nil_or_concat before with rfl | ⟨front, d, rfl⟩
  · have hunbroken := h.unbroken
    have hcloses := h.closes
    rw [List.append_nil] at hunbroken hcloses
    obtain ⟨rfl, rfl⟩ := hbody.unique htail hunbroken hcloses hline
    exact .inl ⟨rfl, rfl, rfl⟩
  · -- The delimiter in front of a later stretch is not in `body`.
    rw [List.concat_eq_append] at hline ⊢
    rw [List.append_assoc, List.append_assoc, List.singleton_append] at hline
    have hd := h.opens front d (List.concat_eq_append ..)
    obtain ⟨more, rfl, -⟩ := hbody.in_front hd hline
    cases more with
    | nil => exact .inr ⟨d, [], by simp⟩
    | cons c more => exact .inr ⟨c, more ++ [d], by simp⟩

/-- The stretches behind a delimiter are those of the rest of the line. -/
theorem stretch_behind_iff {past body rest before inner after : Text} {c : Char}
    (hc : Delimits (past ++ body) c) :
    Stretch past (body ++ c :: rest) (body ++ c :: before) inner after ↔
      Stretch (past ++ body ++ [c]) rest before inner after := by
  have hseen (t : Text) : past ++ (body ++ c :: t) = past ++ body ++ [c] ++ t := by simp
  constructor
  · intro h
    refine ⟨?_, ?_, ?_, ?_⟩
    · have hline := h.line_eq
      simp only [List.append_assoc, List.cons_append] at hline
      simpa using hline
    · rintro front d rfl
      have hd := h.opens (body ++ c :: front) d (by simp)
      rwa [hseen] at hd
    · rw [← hseen]
      exact h.unbroken
    · rw [← hseen]
      exact h.closes
  · intro h
    refine ⟨?_, ?_, ?_, ?_⟩
    · rw [h.line_eq]
      simp
    · intro front d heq
      rcases List.eq_nil_or_concat before with rfl | ⟨between, e, rfl⟩
      · obtain ⟨rfl, hlast⟩ := List.append_inj' heq rfl
        obtain rfl := List.singleton_inj.1 hlast
        exact hc
      · rw [List.concat_eq_append, ← List.cons_append, ← List.append_assoc] at heq
        obtain ⟨rfl, hlast⟩ := List.append_inj' heq rfl
        obtain rfl := List.singleton_inj.1 hlast
        rw [hseen]
        exact h.opens between e (List.concat_eq_append ..)
    · rw [hseen]
      exact h.unbroken
    · rw [hseen]
      exact h.closes

/-! ### Events of a line that is cut -/

/-- The statement that a stretch is, if it is one. -/
def saidBy (column depth : Nat) (body : Text) (terminated : Bool) : List Event :=
  if terminated || !Text.allBlank body then [.statement body column depth terminated] else []

/-- The event that a delimiter is. A terminator belongs to its statement. -/
def ofDelimiter (column : Nat) (c : Char) : List Event :=
  if c = '{' then [.opening column] else if c = '}' then [.closing column] else []

/-- A line, behind some text and from a column on, with the events it is cut
into at its delimiters, one after the other. -/
inductive Cut : Text → Nat → Text → List Event → Prop where
  | last {past body : Text} {column : Nat} (hbody : Unbroken past body) :
      Cut past column body (saidBy column (unclosed past) body false)
  | next {past body rest : Text} {c : Char} {column : Nat} {events : List Event}
      (hbody : Unbroken past body) (hc : Delimits (past ++ body) c)
      (further : Cut (past ++ body ++ [c]) (column + body.length + 1) rest events) :
      Cut past column (body ++ c :: rest)
        (saidBy column (unclosed past) body (c == ';')
          ++ ofDelimiter (column + body.length) c ++ events)

/-- A piece that is finished is a statement if the stretch is one. -/
theorem Piece.finish_eq (column depth : Nat) (body : Text) (terminated : Bool) :
    Piece.finish ⟨body.reverse, column, depth⟩ terminated
      = saidBy column depth body terminated := by
  have hblank : Text.allBlank body.reverse = Text.allBlank body := List.all_reverse
  rw [Piece.finish, hblank, List.reverse_reverse, saidBy]

/-- At a delimiter the piece is finished and a new one begun. -/
theorem splitFrom_of_delimits {past cs : Text} {c : Char} (hc : Delimits past c) (column : Nat)
    (piece : Piece) :
    splitFrom column (unclosed past) piece (c :: cs)
      = lead (piece.finish (c == ';') ++ ofDelimiter column c)
          (splitFrom (column + 1) (unclosed (past ++ [c]))
            (.start (column + 1) (unclosed (past ++ [c]))) cs) := by
  rw [Parens.unclosed_concat]
  rcases hc with rfl | rfl | ⟨rfl, hdepth⟩
  · rfl
  · rfl
  · rw [hdepth]
    simp [splitFrom, ofDelimiter, Parens.step]

/-- Any other character becomes part of the piece. -/
theorem splitFrom_of_not_delimits {past cs : Text} {c : Char} (hc : ¬ Delimits past c)
    (column : Nat) (piece : Piece) :
    splitFrom column (unclosed past) piece (c :: cs)
      = splitFrom (column + 1) (unclosed (past ++ [c])) (piece.push c) cs := by
  simp only [Delimits, not_or] at hc
  obtain ⟨hopening, hclosing, hend⟩ := hc
  rw [Parens.unclosed_concat, splitFrom, if_neg hopening, if_neg hclosing, if_neg hend, Parens.step]
  split
  · rfl
  · split <;> rfl

/-- The loop cuts the rest of a line so, with the piece at hand in front. -/
theorem cut_splitFrom {past done : Text} (hdone : Unbroken past done) (column : Nat)
    (rest : Text) :
    Cut past column (done ++ rest)
      (splitFrom (column + done.length) (unclosed (past ++ done))
        ⟨done.reverse, column, unclosed past⟩ rest).1 := by
  induction rest generalizing past done column with
  | nil =>
      rw [List.append_nil, splitFrom, Piece.finish_eq]
      exact .last hdone
  | cons c cs ih =>
      by_cases hc : Delimits (past ++ done) c
      · rw [splitFrom_of_delimits hc, lead, Piece.finish_eq]
        have hfresh := ih (unbroken_nil (past ++ done ++ [c])) (column + done.length + 1)
        rw [List.append_nil] at hfresh
        exact .next hdone hc hfresh
      · rw [splitFrom_of_not_delimits hc]
        have hpushed := ih (hdone.concat hc) column
        rw [List.append_assoc, List.singleton_append, List.length_append, List.length_singleton,
          ← List.append_assoc, List.reverse_append] at hpushed
        exact hpushed

/-- A line is cut so. -/
theorem cut_split (past line : Text) : Cut past 1 line (split (unclosed past) line).1 := by
  have h := cut_splitFrom (unbroken_nil past) 1 line
  rwa [List.append_nil] at h

/-- The depth behind a line counts all that was read. -/
theorem depth_splitFrom (past line : Text) (column : Nat) (piece : Piece) :
    (splitFrom column (unclosed past) piece line).2 = unclosed (past ++ line) := by
  induction line generalizing past column piece with
  | nil => rw [List.append_nil, splitFrom]
  | cons c cs ih =>
      rw [← List.singleton_append, ← List.append_assoc]
      by_cases hc : Delimits past c
      · rw [List.singleton_append, splitFrom_of_delimits hc, lead, ih]
      · rw [List.singleton_append, splitFrom_of_not_delimits hc, ih]

/-! ### Which events a line has -/

/-- The event of a delimiter is a brace. -/
theorem mem_ofDelimiter_iff {column : Nat} {c : Char} {e : Event} :
    e ∈ ofDelimiter column c ↔
      c = '{' ∧ e = .opening column ∨ c = '}' ∧ e = .closing column := by
  rw [ofDelimiter]
  split
  next h => simp [h]
  next h => split <;> simp_all

/-- The statement of a stretch. -/
theorem mem_saidBy_iff {column depth : Nat} {body : Text} {terminated : Bool} {e : Event} :
    e ∈ saidBy column depth body terminated ↔
      (terminated = true ∨ Text.allBlank body = false) ∧
        e = .statement body column depth terminated := by
  rw [saidBy]
  split <;> simp_all

/-- The events of a line are that of its first stretch and those behind it. -/
theorem belongs_append_iff {past body tail : Text} {column : Nat} {e : Event}
    (hbody : Unbroken past body) (htail : ClosedBy (past ++ body) tail) :
    Belongs past column (body ++ tail) e ↔
      e ∈ saidBy column (unclosed past) body (tail.head? == some ';') ∨
        ∃ c rest, tail = c :: rest ∧ (e ∈ ofDelimiter (column + body.length) c ∨
          Belongs (past ++ body ++ [c]) (column + body.length + 1) rest e) := by
  have hbehind (c : Char) (more : Text) :
      column + body.length + 1 + more.length = column + (body ++ c :: more).length := by
    rw [List.length_append, List.length_cons]
    omega
  have hseen (c : Char) (more : Text) :
      past ++ body ++ [c] ++ more = past ++ (body ++ c :: more) := by simp
  constructor
  · rintro (⟨h⟩ | ⟨h⟩ | ⟨h, said⟩)
    case opening =>
      obtain ⟨more, rfl, rfl⟩ := hbody.in_front (.inl rfl) h
      cases more with
      | nil => exact .inr ⟨_, _, rfl, .inl (mem_ofDelimiter_iff.2 (.inl ⟨rfl, by simp⟩))⟩
      | cons c more =>
          rw [← hbehind]
          exact .inr ⟨c, _, rfl, .inr (.opening rfl)⟩
    case closing =>
      obtain ⟨more, rfl, rfl⟩ := hbody.in_front (.inr (.inl rfl)) h
      cases more with
      | nil => exact .inr ⟨_, _, rfl, .inl (mem_ofDelimiter_iff.2 (.inr ⟨rfl, by simp⟩))⟩
      | cons c more =>
          rw [← hbehind]
          exact .inr ⟨c, _, rfl, .inr (.closing rfl)⟩
    case statement =>
      rcases h.first_or_later hbody htail with ⟨rfl, rfl, rfl⟩ | ⟨c, more, rfl⟩
      · exact .inl (mem_saidBy_iff.2 ⟨by simpa using said, by simp⟩)
      · have hline := h.line_eq
        simp only [List.append_assoc, List.cons_append, List.append_cancel_left_eq] at hline
        subst hline
        rw [← hbehind, ← hseen]
        have hrest := (stretch_behind_iff (htail c _ rfl)).1 h
        exact .inr ⟨c, _, rfl, .inr (.statement hrest said)⟩
  · rintro (h | ⟨c, rest, rfl, h | h⟩)
    · obtain ⟨said, rfl⟩ := mem_saidBy_iff.1 h
      have hfirst : Stretch past (body ++ tail) [] body tail :=
        ⟨rfl, by simp, by rwa [List.append_nil], by rwa [List.append_nil]⟩
      have hbelongs : Belongs past column (body ++ tail) _ :=
        .statement hfirst (by simpa using said)
      rwa [List.append_nil] at hbelongs
    · rcases mem_ofDelimiter_iff.1 h with ⟨rfl, rfl⟩ | ⟨rfl, rfl⟩
      · exact .opening rfl
      · exact .closing rfl
    · rcases h with ⟨rfl⟩ | ⟨rfl⟩ | ⟨h, said⟩
      · rw [hbehind]
        exact .opening (List.append_assoc body (c :: _) _).symm
      · rw [hbehind]
        exact .closing (List.append_assoc body (c :: _) _).symm
      · rw [hbehind, hseen]
        exact .statement ((stretch_behind_iff (htail c rest rfl)).2 h) said

/-- The events of a line that is cut. -/
theorem Cut.mem_iff {past line : Text} {column : Nat} {events : List Event}
    (h : Cut past column line events) {e : Event} : e ∈ events ↔ Belongs past column line e := by
  induction h with
  | @last past body column hbody =>
      have hfirst : Belongs past column (body ++ []) e ↔ _ := belongs_append_iff hbody nofun
      rw [List.append_nil] at hfirst
      simp [hfirst]
  | next hbody hc further ih =>
      rw [belongs_append_iff hbody (by rintro d rest ⟨⟩; exact hc)]
      simp [ih]

/-! ### Reading events from left to right -/

/-- The characters that an event stands for. A terminator belongs to its
statement. -/
def written : Event → Text
  | statement text _ _ terminated => text ++ if terminated then [';'] else []
  | opening _ => ['{']
  | closing _ => ['}']

/-- The line that events give, from a column on: each event at its column, and
blanks before, between and behind them. -/
inductive LaysOut : Nat → List Event → Text → Prop where
  | blank {column : Nat} {gap : Text} (hgap : Text.allBlank gap = true) : LaysOut column [] gap
  | event {column : Nat} {gap rest : Text} {e : Event} {es : List Event}
      (hgap : Text.allBlank gap = true) (hcolumn : e.column = column + gap.length)
      (further : LaysOut (e.column + e.written.length) es rest) :
      LaysOut column (e :: es) (gap ++ e.written ++ rest)

/-- More blanks in front. -/
theorem LaysOut.gap {column : Nat} {es : List Event} {blanks rest : Text}
    (hblanks : Text.allBlank blanks = true) (h : LaysOut (column + blanks.length) es rest) :
    LaysOut column es (blanks ++ rest) := by
  have hboth {gap : Text} (hgap : Text.allBlank gap = true) :
      Text.allBlank (blanks ++ gap) = true := by
    rw [Text.allBlank, List.all_append, Bool.and_eq_true]
    exact ⟨hblanks, hgap⟩
  cases h with
  | blank hgap => exact .blank (hboth hgap)
  | event hgap hcolumn further =>
      rw [← List.append_assoc, ← List.append_assoc]
      exact .event (hboth hgap) (by rw [hcolumn, List.length_append, Nat.add_assoc]) further

/-- A statement without a terminator in front, or the blanks that it is not. -/
theorem LaysOut.said {column : Nat} (depth : Nat) {es : List Event} (body : Text) {rest : Text}
    (h : LaysOut (column + body.length) es rest) :
    LaysOut column (saidBy column depth body false ++ es) (body ++ rest) := by
  rw [saidBy]
  split
  · have hbehind : LaysOut (column + (statement body column depth false).written.length) es
        rest := by
      simpa [written] using h
    have hstart : LaysOut column (statement body column depth false :: es) ([] ++ _ ++ rest) :=
      .event rfl rfl hbehind
    simpa [written] using hstart
  next hblank => exact h.gap (by simpa using hblank)

/-- The events of a line that is cut give the line. -/
theorem Cut.laysOut {past line : Text} {column : Nat} {events : List Event}
    (h : Cut past column line events) : LaysOut column events line := by
  induction h with
  | @last past body column hbody =>
      have hblank : LaysOut (column + body.length) [] [] := .blank rfl
      have hsaid := hblank.said (unclosed past) body
      rwa [List.append_nil, List.append_nil] at hsaid
  | @next past body rest c column events hbody hc further ih =>
      have hnil : Text.allBlank [] = true := rfl
      rw [List.append_assoc]
      rcases hc with rfl | rfl | ⟨rfl, -⟩
      · exact .said _ body (.event (e := .opening (column + body.length)) hnil rfl ih)
      · exact .said _ body (.event (e := .closing (column + body.length)) hnil rfl ih)
      · have hlength : (statement body column (unclosed past) true).written.length
            = body.length + 1 := by simp [written]
        have hstart : LaysOut column (statement body column (unclosed past) true :: events)
            ([] ++ _ ++ rest) := .event hnil rfl (by rwa [hlength])
        simpa [written, saidBy, ofDelimiter] using hstart

/-- No event stands in front of where the line starts, and each one ends before
the next one starts. -/
theorem LaysOut.pairwise {column : Nat} {es : List Event} {line : Text}
    (h : LaysOut column es line) :
    (∀ e ∈ es, column ≤ e.column) ∧
      es.Pairwise fun a b => a.column + a.written.length ≤ b.column := by
  induction h with
  | blank => simp
  | event hgap hcolumn further ih =>
      refine ⟨?_, List.pairwise_cons.2 ih⟩
      rintro e (_ | ⟨_, he⟩)
      · omega
      · have hle := ih.1 e he
        omega

/-- An event stands for at least one character. -/
theorem Belongs.written_ne_nil {past line : Text} {column : Nat} {e : Event}
    (h : Belongs past column line e) : e.written ≠ [] := by
  rcases h with ⟨-⟩ | ⟨-⟩ | ⟨-, said⟩
  · exact List.cons_ne_nil _ _
  · exact List.cons_ne_nil _ _
  · rw [written, ne_eq, List.append_eq_nil_iff]
    rintro ⟨rfl, hend⟩
    rcases said with said | said
    · simp [said] at hend
    · cases said

/-- The events of a line stand in order, each at a column of its own. -/
theorem Cut.ordered {past line : Text} {column : Nat} {events : List Event}
    (h : Cut past column line events) :
    events.Pairwise fun a b => a.column < b.column := by
  refine h.laysOut.pairwise.2.imp_of_mem fun {a b} ha _ hab => ?_
  have hpos := List.length_pos_iff.2 (h.mem_iff.1 ha).written_ne_nil
  omega

/-! ### What ends a statement -/

/-- In front of a place there is a stretch that reaches up to it. -/
theorem exists_stretch_to (past before : Text) :
    ∃ front body, before = front ++ body ∧
      (∀ start c, front = start ++ [c] → Delimits (past ++ start) c) ∧
        Unbroken (past ++ front) body := by
  induction before using List.reverseRecOn with
  | nil => exact ⟨[], [], rfl, by simp, unbroken_nil _⟩
  | append_singleton before c ih =>
      obtain ⟨front, body, rfl, hopens, hunbroken⟩ := ih
      by_cases hc : Delimits (past ++ (front ++ body)) c
      · refine ⟨front ++ body ++ [c], [], (List.append_nil _).symm, ?_, unbroken_nil _⟩
        intro start d heq
        obtain ⟨rfl, hlast⟩ := List.append_inj' heq rfl
        obtain rfl := List.singleton_inj.1 hlast
        exact hc
      · refine ⟨front, body ++ [c], List.append_assoc .., hopens, hunbroken.concat ?_⟩
        rwa [List.append_assoc]

/-- No delimiter lies in a stretch, so no other one starts there. -/
theorem Stretch.eq_nil_of_append {past line front more body after after' : Text}
    (h : Stretch past line front (more ++ body) after)
    (h' : Stretch past line (front ++ more) body after') : more = [] := by
  rcases List.eq_nil_or_concat more with rfl | ⟨start, c, rfl⟩
  · rfl
  · have hc := h'.opens (front ++ start) c (by simp)
    rw [← List.append_assoc] at hc
    exact absurd hc (h.unbroken start c body (by simp))

/-- Two stretches that reach up to the same place are one. -/
theorem Stretch.unique {past line front body front' body' after after' : Text}
    (h : Stretch past line front body after) (h' : Stretch past line front' body' after')
    (hend : (front ++ body).length = (front' ++ body').length) :
    front = front' ∧ body = body' ∧ after = after' := by
  obtain ⟨hboth, rfl⟩ := List.append_inj (h.line_eq.symm.trans h'.line_eq) hend
  rcases List.append_eq_append_iff.1 hboth with ⟨more, rfl, rfl⟩ | ⟨more, rfl, rfl⟩
  · obtain rfl := h.eq_nil_of_append h'
    simp
  · obtain rfl := h'.eq_nil_of_append h
    simp

/-! ### Lines that are cut one after the other -/

/-- The events of a line, in front of which some text was read, keep all of it
but blanks. -/
structure Restores (past line : Text) (events : List Event) : Prop where
  /-- Read from left to right, the events give the line. -/
  laysOut : LaysOut 1 events line
  ordered : events.Pairwise fun a b => a.column < b.column
  opening : ∀ before after, line = before ++ '{' :: after →
    events.count (.opening (before.length + 1)) = 1
  closing : ∀ before after, line = before ++ '}' :: after →
    events.count (.closing (before.length + 1)) = 1
  /-- Where no parenthesis is open, a `;` ends one terminated statement. -/
  terminator : ∀ before after, line = before ++ ';' :: after → unclosed (past ++ before) = 0 →
    ∃! e, e ∈ events ∧ ∃ text column depth,
      e = .statement text column depth true ∧ column + text.length = before.length + 1
  /-- A stretch is one statement, unless it is all blank and no `;` ends it. -/
  stretch : ∀ before body after, Stretch past line before body after →
    events.count (.statement body (before.length + 1) (unclosed (past ++ before))
        (after.head? == some ';'))
      = if after.head? = some ';' ∨ Text.allBlank body = false then 1 else 0
  /-- There are no other events, and the text of a statement is the part of the
  line between the columns that it starts and ends at. -/
  only : ∀ e ∈ events, Belongs past 1 line e ∧ slice e.column e.endColumn line = e.text

/-- What a splitter gives for lines, and the depths behind them. -/
inductive Restored : Text → List Text → List (List Event × Nat) → Prop where
  | nil {past : Text} : Restored past [] []
  | cons {past line : Text} {lines : List Text} {events : List Event}
      {cuts : List (List Event × Nat)} (hline : Restores past line events)
      (further : Restored (past ++ line) lines cuts) :
      Restored past (line :: lines) ((events, unclosed (past ++ line)) :: cuts)

/-- The text of an event is the part of the line between its columns. -/
theorem Belongs.slice_eq {past line : Text} {e : Event} (h : Belongs past 1 line e) :
    slice e.column e.endColumn line = e.text := by
  have hcut (before inner after : Text) :
      slice (1 + before.length) (1 + before.length + inner.length) (before ++ inner ++ after)
        = inner := by
    rw [Nat.add_comm]
    exact slice_append before inner after
  rcases h with ⟨rfl⟩ | ⟨rfl⟩ | ⟨h, -⟩
  · rw [List.append_cons]
    exact hcut _ ['{'] _
  · rw [List.append_cons]
    exact hcut _ ['}'] _
  · rw [h.line_eq]
    exact hcut _ _ _

/-- A statement of a line is that of a stretch. -/
theorem Belongs.exists_stretch {past line text : Text} {column start depth : Nat}
    {terminated : Bool} (h : Belongs past column line (.statement text start depth terminated)) :
    ∃ before after, Stretch past line before text after ∧ start = column + before.length ∧
      depth = unclosed (past ++ before) ∧ terminated = (after.head? == some ';') ∧
        (after.head? = some ';' ∨ Text.allBlank text = false) := by
  generalize he : Event.statement text start depth terminated = e at h
  rcases h with ⟨-⟩ | ⟨-⟩ | ⟨h, said⟩
  · cases he
  · cases he
  · cases he
    exact ⟨_, _, h, rfl, rfl, rfl, said⟩

/-- A line that is cut is restored. -/
theorem Cut.restores {past line : Text} {events : List Event} (h : Cut past 1 line events) :
    Restores past line events := by
  have hnodup : events.Nodup := h.ordered.imp fun hab heq => by simp [heq] at hab
  have hcount {e : Event} (he : Belongs past 1 line e) : events.count e = 1 :=
    List.count_eq_one_of_mem hnodup (h.mem_iff.2 he)
  constructor
  case laysOut => exact h.laysOut
  case ordered => exact h.ordered
  case opening =>
    intro before after hline
    rw [Nat.add_comm]
    exact hcount (.opening hline)
  case closing =>
    intro before after hline
    rw [Nat.add_comm]
    exact hcount (.closing hline)
  case terminator =>
    intro before after hline hdepth
    obtain ⟨front, body, rfl, hopens, hunbroken⟩ := exists_stretch_to past before
    have hstretch : Stretch past line front body (';' :: after) := by
      refine ⟨hline, hopens, hunbroken, ?_⟩
      rintro c rest ⟨⟩
      rw [List.append_assoc]
      exact .inr (.inr ⟨rfl, hdepth⟩)
    have hbelongs : Belongs past 1 line _ := .statement hstretch (.inl rfl)
    refine ⟨_, ⟨h.mem_iff.2 hbelongs, _, _, _, rfl, ?_⟩, ?_⟩
    · rw [List.length_append]
      omega
    · rintro e ⟨he, text, column, depth, rfl, hend⟩
      obtain ⟨front', after', hstretch', rfl, rfl, -, -⟩ := (h.mem_iff.1 he).exists_stretch
      have hlength : (front' ++ text).length = (front ++ body).length := by
        rw [List.length_append]
        omega
      obtain ⟨rfl, rfl, -⟩ := hstretch'.unique hstretch hlength
      rfl
  case stretch =>
    intro before body after hstretch
    rw [Nat.add_comm]
    split
    next said => exact hcount (.statement hstretch said)
    next unsaid =>
      rw [List.count_eq_zero]
      intro hmem
      obtain ⟨before', after', hstretch', hstart, -, -, said⟩ := (h.mem_iff.1 hmem).exists_stretch
      have hlength : (before' ++ body).length = (before ++ body).length := by
        rw [List.length_append, List.length_append]
        omega
      obtain ⟨-, -, rfl⟩ := hstretch'.unique hstretch hlength
      exact unsaid said
  case only =>
    intro e he
    exact ⟨h.mem_iff.1 he, (h.mem_iff.1 he).slice_eq⟩

/-- Cutting lines one after the other keeps all of them but blanks. -/
theorem restored_splitLines (lines : List Text) : Restored [] lines (splitLines 0 lines) := by
  suffices hpast : ∀ past, Restored past lines (splitLines (unclosed past) lines) from hpast []
  induction lines with
  | nil => exact fun past => .nil
  | cons line lines ih =>
      intro past
      have hcut : split (unclosed past) line
          = ((split (unclosed past) line).1, unclosed (past ++ line)) :=
        Prod.ext rfl (depth_splitFrom past line 1 _)
      rw [splitLines, hcut]
      exact .cons (cut_split past line).restores (ih _)

/-- The second line starts with a parenthesis open, so its first `;` is text. -/
example : splitLines 0 ["f(a", "b;c) ;\x7b ;".toList]
    = [([.statement "f(a" 1 0 false], 1),
      ([.statement "b;c) " 1 1 true, .opening 7, .statement " " 8 0 true], 0)] := by
  decide

end Event

end DefIndex
