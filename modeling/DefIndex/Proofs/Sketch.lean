import Mathlib.Data.List.Forall2
import DefIndex.Outline
import DefIndex.Proofs.Heading

/-!
# `DefIndex.Proofs.Sketch`: written declarations

A `Sketch` is a declaration as somebody may write it: its form and name,
the declarations inside, and all that the writer is free to choose. That
is the blanks between the words and at the beginning of a line, whether a
declaration with nothing inside ends in `;` or in an empty block, and a
comment at the end of any line.

* `Sketch.source` is the text of a forest of sketches.
* `Line` is one line of it up to its last mark; `Line.events` are the
  statements and braces on it. A `Trail` is what comes behind.
* `shows_lines`: the lines of the text are the lines that were written. A
  carriage return at the end of a comment may get lost.
* `ofLines_source`: the events of the text are the events of its lines.
-/

set_option autoImplicit false

namespace DefIndex

/-! ### Lines -/

/-- What may come behind the last mark of a line: blanks, and a comment
that ends with the line. -/
structure Trail where
  blank : Blank
  comment : Option Text
  unbroken : ∀ t ∈ comment, '\n' ∉ t

/-- A trail as it is written. -/
def Trail.text (t : Trail) : Text :=
  t.blank.text ++ match t.comment with
    | none => []
    | some comment => '/' :: '/' :: comment

/-- A line up to its last mark. -/
inductive Line where
  /-- A declaration that ends. -/
  | leaf (heading : Heading)
  /-- A declaration with an empty block. -/
  | hollow (heading : Heading) (inside : Blank)
  /-- A declaration whose block begins. -/
  | opening (heading : Heading)
  /-- The end of a block. -/
  | closing (indent : Blank)

namespace Line

/-- A line as it is written, up to its last mark. -/
def code : Line → Text
  | leaf heading => heading.text ++ [';']
  | hollow heading inside => heading.text ++ '{' :: (inside.text ++ ['}'])
  | opening heading => heading.text ++ ['{']
  | closing indent => indent.text ++ ['}']

/-- The statements and braces on a line. -/
def events : Line → List Event
  | leaf heading => [.statement heading.text 1 0 true]
  | hollow heading inside =>
    [.statement heading.text 1 0 false, .opening (1 + heading.text.length),
      .closing (1 + heading.text.length + 1 + inside.text.length)]
  | opening heading =>
    [.statement heading.text 1 0 false, .opening (1 + heading.text.length)]
  | closing indent => [.closing (1 + indent.text.length)]

/-- The events of lines, numbered from `n` on. -/
def eventsFrom : Nat → List Line → List (Nat × Event)
  | _, [] => []
  | n, line :: rest => line.events.map (fun event => (n, event)) ++ eventsFrom (n + 1) rest

/-- The events of two lists of lines, one behind the other. -/
theorem eventsFrom_append (n : Nat) (some more : List Line) :
    eventsFrom n (some ++ more) = eventsFrom n some ++ eventsFrom (n + some.length) more := by
  induction some generalizing n with
  | nil => rfl
  | cons line rest ih =>
      rw [List.cons_append, eventsFrom, eventsFrom, ih, List.append_assoc, List.length_cons,
        Nat.add_comm rest.length 1, ← Nat.add_assoc]

end Line

/-- A text shows a line: it is the line with some trail. -/
def Shows (line : Line) (t : Text) : Prop := ∃ trail : Trail, t = line.code ++ trail.text

/-- A declaration as it may be written. -/
inductive Sketch where
  /-- A declaration that ends with a semicolon. -/
  | leaf (heading : Heading) (trail : Trail)
  /-- A declaration with an empty block on the same line. -/
  | hollow (heading : Heading) (inside : Blank) (trail : Trail)
  /-- A declaration with a block, its end on a line of its own. -/
  | block (heading : Heading) (trail : Trail) (children : List Sketch) (indent : Blank)
      (last : Trail)

namespace Sketch

mutual

/-- The lines of a declaration, each with its trail. -/
def lines : Sketch → List (Line × Trail)
  | leaf heading trail => [(.leaf heading, trail)]
  | hollow heading inside trail => [(.hollow heading inside, trail)]
  | block heading trail children indent last =>
    (.opening heading, trail) :: (linesAll children ++ [(.closing indent, last)])

/-- The lines of a forest. -/
def linesAll : List Sketch → List (Line × Trail)
  | [] => []
  | sketch :: rest => lines sketch ++ linesAll rest

end

/-- The text of lines, one behind the other. The last one may be ended or
not. -/
def written (ended : Bool) (ls : List (Line × Trail)) : Text :=
  Text.join ['\n'] (ls.map (fun l => l.1.code ++ l.2.text) ++ if ended then [[]] else [])

/-- The text of a forest. -/
def source (ended : Bool) (forest : List Sketch) : Text := written ended (linesAll forest)

end Sketch

/-! ### Characters of a line -/

/-- A heading is made of plain characters and blanks. -/
theorem Heading.mem_text {h : Heading} {c : Char} (hc : c ∈ h.text) :
    (c.isAlphanum = true ∨ c = '_') ∨ c = ' ' ∨ c = '\t' := by
  obtain ⟨⟨hfirst, -⟩, hsecond, -⟩ := Kind.plain_words h.opens
  rw [text_eq] at hc
  simp only [List.mem_append] at hc
  rcases hc with hc | hc | hc | hc | hc | hc | hc
  · exact Or.inr (h.indent.spaces c hc)
  · exact Or.inl (hfirst c hc)
  · exact Or.inr (h.between.spaces c hc)
  · exact Or.inl (hsecond c hc)
  · exact Or.inr (h.before.spaces c hc)
  · exact Or.inl (h.name.plain c hc)
  · exact Or.inr (h.behind.spaces c hc)

/-- A heading has no other characters. -/
theorem Heading.not_mem_text (h : Heading) {c : Char}
    (hc : ¬ ((c.isAlphanum = true ∨ c = '_') ∨ c = ' ' ∨ c = '\t')) : c ∉ h.text :=
  fun hmem => hc (mem_text hmem)

/-- A run of spaces has no other characters. -/
theorem Spaces.not_mem {t : Text} (h : Spaces t) {c : Char} (hc : ¬ (c = ' ' ∨ c = '\t')) : c ∉ t :=
  fun hmem => hc (h c hmem)

/-- A line has no other characters than those of headings and the marks. -/
theorem Line.not_mem_code (line : Line) {c : Char}
    (hc : ¬ ((c.isAlphanum = true ∨ c = '_') ∨ c = ' ' ∨ c = '\t'))
    (hmark : c ≠ ';' ∧ c ≠ '{' ∧ c ≠ '}') : c ∉ line.code := by
  have hspace : ¬ (c = ' ' ∨ c = '\t') := fun h => hc (Or.inr h)
  obtain ⟨hend, hopen, hclose⟩ := hmark
  cases line with
  | leaf heading => simp [code, heading.not_mem_text hc, hend]
  | hollow heading inside =>
      simp [code, heading.not_mem_text hc, inside.spaces.not_mem hspace, hopen, hclose]
  | opening heading => simp [code, heading.not_mem_text hc, hopen]
  | closing indent => simp [code, indent.spaces.not_mem hspace, hclose]

/-! ### The lines of the text -/

namespace Text

/-- A line that is ended is read up to its end; a carriage return in front
of the end is part of it. -/
theorem lines_append_break {l : Text} (h : '\n' ∉ l) :
    ∃ l', (l' = l ∨ l = l' ++ ['\r']) ∧
      ∀ rest, lines (l ++ '\n' :: rest) = l' :: lines rest := by
  induction l with
  | nil => exact ⟨[], Or.inl rfl, fun rest => rfl⟩
  | cons c cs ih =>
      obtain ⟨hc, hcs⟩ := not_or.1 (List.mem_cons.not.1 h)
      obtain ⟨l', hl', heq⟩ := ih hcs
      by_cases hend : c = '\r' ∧ cs = []
      · obtain ⟨rfl, rfl⟩ := hend
        exact ⟨[], Or.inr rfl, fun rest => rfl⟩
      · refine ⟨c :: l', ?_, fun rest => ?_⟩
        · rcases hl' with rfl | hl'
          · exact Or.inl rfl
          · exact Or.inr (by rw [hl', List.cons_append])
        · rw [List.cons_append, lines, heq]
          · exact Ne.symm hc
          · rintro tail rfl htail
            cases cs with
            | nil => exact hend ⟨rfl, rfl⟩
            | cons b bs => exact hcs (by simp [(List.cons.inj htail).1])

/-- A line that is not ended is read as it is. -/
theorem lines_of_unbroken {l : Text} (h : '\n' ∉ l) (hne : l ≠ []) : lines l = [l] := by
  induction l with
  | nil => exact absurd rfl hne
  | cons c cs ih =>
      obtain ⟨hc, hcs⟩ := not_or.1 (List.mem_cons.not.1 h)
      rw [lines]
      · by_cases hnil : cs = []
        · rw [hnil, lines]
        · rw [ih hcs hnil]
      · exact Ne.symm hc
      · rintro tail - rfl
        exact hcs List.mem_cons_self

end Text

/-- A line ends in a mark. -/
theorem Line.code_eq (line : Line) :
    ∃ front mark, line.code = front ++ [mark] ∧ (mark = ';' ∨ mark = '{' ∨ mark = '}') := by
  cases line with
  | leaf heading => exact ⟨_, _, rfl, Or.inl rfl⟩
  | hollow heading inside =>
      exact ⟨heading.text ++ '{' :: inside.text, '}', by simp [code], Or.inr (Or.inr rfl)⟩
  | opening heading => exact ⟨_, _, rfl, Or.inr (Or.inl rfl)⟩
  | closing indent => exact ⟨_, _, rfl, Or.inr (Or.inr rfl)⟩

/-- A trail without a carriage return at its end is a trail. -/
theorem Trail.exists_text_eq {trail : Trail} {t : Text} (h : trail.text = t ++ ['\r']) :
    ∃ other : Trail, other.text = t := by
  obtain ⟨blank, comment, unbroken⟩ := trail
  cases comment with
  | none =>
      have hblank : blank.text = t ++ ['\r'] := by simpa [text] using h
      have hmem : '\r' ∈ blank.text := by simp [hblank]
      exact absurd hmem (blank.spaces.not_mem (by decide))
  | some comment =>
      rcases List.eq_nil_or_concat comment with rfl | ⟨front, c, rfl⟩
      · -- An empty comment ends in a slash.
        have hlast := congrArg List.getLast? h
        simp [text] at hlast
      · have hsplit : blank.text ++ '/' :: '/' :: front ++ [c] = t ++ ['\r'] := by
          simpa [text] using h
        obtain ⟨rfl, -⟩ := List.append_inj' hsplit rfl
        refine ⟨⟨blank, some front, fun k hk => ?_⟩, rfl⟩
        obtain rfl : front = k := by simpa using hk
        exact fun hmem => unbroken _ rfl (by simp [hmem])

/-- A line is still shown when a carriage return at the end is dropped. -/
theorem Shows.of_append_return {line : Line} {t : Text} (h : Shows line (t ++ ['\r'])) :
    Shows line t := by
  obtain ⟨trail, htext⟩ := h
  rcases List.eq_nil_or_concat trail.text with hnil | ⟨front, c, hfront⟩
  · -- The last character of a line is a mark.
    obtain ⟨code, mark, hcode, hmark⟩ := line.code_eq
    rw [hnil, List.append_nil, hcode] at htext
    obtain ⟨-, heq⟩ := List.append_inj' htext rfl
    rw [← (List.cons.inj heq).1] at hmark
    exact absurd hmark (by decide)
  · rw [List.concat_eq_append] at hfront
    rw [hfront, ← List.append_assoc] at htext
    obtain ⟨rfl, heq⟩ := List.append_inj' htext rfl
    rw [← (List.cons.inj heq).1] at hfront
    obtain ⟨other, hother⟩ := Trail.exists_text_eq hfront
    exact ⟨other, by rw [hother]⟩

/-- The text of a line with its trail is not broken. -/
theorem Line.unbroken (line : Line) (trail : Trail) : '\n' ∉ line.code ++ trail.text := by
  rw [List.mem_append, not_or, Trail.text, List.mem_append, not_or]
  refine ⟨line.not_mem_code (by decide) (by decide), trail.blank.spaces.not_mem (by decide), ?_⟩
  split
  · exact List.not_mem_nil
  next comment hcomment => simpa using trail.unbroken comment hcomment

/-- The lines of the text are the lines that were written. -/
theorem shows_lines (ended : Bool) (ls : List (Line × Trail)) :
    List.Forall₂ Shows (ls.map Prod.fst) (Text.lines (Sketch.written ended ls)) := by
  induction ls with
  | nil => cases ended <;> exact .nil
  | cons l rest ih =>
      obtain ⟨line, trail⟩ := l
      have hunbroken := line.unbroken trail
      have hshows : Shows line (line.code ++ trail.text) := ⟨trail, rfl⟩
      cases hbehind : rest.map (fun l => l.1.code ++ l.2.text) ++ if ended then [[]] else [] with
      | nil =>
          -- The last line, and nothing ends it.
          obtain ⟨front, mark, hcode, -⟩ := line.code_eq
          have hwritten : Sketch.written ended ((line, trail) :: rest)
              = line.code ++ trail.text := by
            rw [Sketch.written, List.map_cons, List.cons_append, hbehind, Text.join]
          obtain ⟨hrest, -⟩ := List.append_eq_nil_iff.1 hbehind
          rw [hwritten, Text.lines_of_unbroken hunbroken (by simp [hcode]),
            List.map_eq_nil_iff.1 hrest]
          exact .cons hshows .nil
      | cons next others =>
          have hwritten : Sketch.written ended ((line, trail) :: rest)
              = line.code ++ trail.text ++ '\n' :: Sketch.written ended rest := by
            rw [Sketch.written, Sketch.written, List.map_cons, List.cons_append, hbehind, Text.join,
              List.append_assoc, List.singleton_append]
            exact List.cons_ne_nil _ _
          -- A carriage return at the end of a comment is read as part of
          -- the line break.
          obtain ⟨t, ht, hlines⟩ := Text.lines_append_break hunbroken
          rw [hwritten, hlines]
          refine .cons ?_ ih
          rcases ht with rfl | ht
          · exact hshows
          · exact Shows.of_append_return (ht ▸ hshows)

/-! ### Comments -/

namespace Comment

/-- Without a slash no comment begins. -/
theorem blankOut_code_append {t : Text} (h : '/' ∉ t) (rest : Text) :
    blankOut .code (t ++ rest) = lead t (blankOut .code rest) := by
  induction t with
  | nil => rfl
  | cons c cs ih =>
      obtain ⟨hc, hcs⟩ := not_or.1 (List.mem_cons.not.1 h)
      rw [List.cons_append, blankOut, ih hcs]
      -- The other branches of `blankOut` start with a slash.
      · rfl
      · rintro tail rfl
        exact absurd rfl hc
      · rintro tail rfl
        exact absurd rfl hc

/-- A comment that ends with the line covers the rest of it. -/
theorem blankOut_line (t : Text) : blankOut .line t = (List.replicate t.length ' ', .line) := by
  induction t with
  | nil => rfl
  | cons c cs ih =>
      rw [blankOut, ih]
      rfl

end Comment

/-- A trail is cleaned to blanks, and the next line starts outside
comments. -/
theorem Trail.blankOut_text (trail : Trail) :
    ∃ blanks state, Spaces blanks ∧ CommentState.afterLine state = .code ∧
      Comment.blankOut .code trail.text = (blanks, state) := by
  rw [text, Comment.blankOut_code_append (trail.blank.spaces.not_mem (by decide))]
  cases trail.comment with
  | none =>
      refine ⟨trail.blank.text ++ [], .code, ?_, rfl, rfl⟩
      rw [List.append_nil]
      exact trail.blank.spaces
  | some comment =>
      rw [Comment.blankOut, Comment.blankOut_line]
      refine ⟨trail.blank.text ++ ([' ', ' '] ++ List.replicate comment.length ' '), .line, ?_,
        rfl, rfl⟩
      intro c hc
      simp only [List.mem_append, List.mem_cons, List.not_mem_nil, or_false,
        List.mem_replicate] at hc
      rcases hc with hc | (rfl | rfl) | ⟨-, rfl⟩
      · exact trail.blank.spaces c hc
      · exact Or.inl rfl
      · exact Or.inl rfl
      · exact Or.inl rfl

/-- A line that is shown is cleaned to the line and blanks. -/
theorem Shows.cleanLine {line : Line} {t : Text} (h : Shows line t) :
    ∃ blanks, Spaces blanks ∧ Comment.cleanLine .code t = (line.code ++ blanks, .code) := by
  obtain ⟨trail, rfl⟩ := h
  obtain ⟨blanks, state, hblanks, hstate, hclean⟩ := trail.blankOut_text
  have hslash : '/' ∉ line.code := line.not_mem_code (by decide) (by decide)
  refine ⟨blanks, hblanks, ?_⟩
  rw [Comment.cleanLine, Comment.blankOut_code_append hslash, hclean]
  exact congrArg (Prod.mk _) hstate

/-! ### Cutting a line -/

namespace Event

/-- A text without braces, semicolons and parentheses. -/
def Uncut (t : Text) : Prop := ∀ c ∈ t, c ≠ '{' ∧ c ≠ '}' ∧ c ≠ ';' ∧ c ≠ '(' ∧ c ≠ ')'

/-- A text that nothing cuts becomes part of the piece. -/
theorem splitFrom_uncut {t : Text} (h : Uncut t) (column depth : Nat) (piece : Piece)
    (rest : Text) :
    splitFrom column depth piece (t ++ rest)
      = splitFrom (column + t.length) depth
          { piece with reversed := t.reverse ++ piece.reversed } rest := by
  induction t generalizing column piece with
  | nil => rfl
  | cons c cs ih =>
      obtain ⟨⟨hopen, hclose, hend, hleft, hright⟩, hcs⟩ := List.forall_mem_cons.1 h
      rw [List.cons_append, splitFrom, if_neg hopen, if_neg hclose, if_neg (fun hc => hend hc.1),
        if_neg hleft, if_neg hright, ih hcs]
      simp [Piece.push, Nat.add_comm, Nat.add_left_comm]

/-- Spaces are not cut. -/
theorem uncut_of_spaces {t : Text} (h : Spaces t) : Uncut t := by
  intro c hc
  rcases h c hc with rfl | rfl <;> decide

/-- A heading is not cut. -/
theorem uncut_text (h : Heading) : Uncut h.text := by
  intro c hc
  refine ⟨?_, ?_, ?_, ?_, ?_⟩ <;>
    · rintro rfl
      exact h.not_mem_text (by decide) hc

/-- A piece of spaces is no statement. -/
theorem finish_of_spaces {t : Text} (h : Spaces t) (column : Nat) :
    Piece.finish ⟨t.reverse, column, 0⟩ false = [] := by
  have hblank : Text.allBlank t.reverse = true := by
    rw [Text.allBlank, List.all_eq_true]
    exact fun c hc => Text.isBlank_of_space (h c (List.mem_reverse.1 hc))
  simp [Piece.finish, hblank]

/-- A heading is a statement. -/
theorem finish_text (h : Heading) (column : Nat) (terminated : Bool) :
    Piece.finish ⟨h.text.reverse, column, 0⟩ terminated
      = [.statement h.text column 0 terminated] := by
  have hblank : Text.allBlank h.text.reverse = false := by
    obtain ⟨c, hc⟩ := List.exists_mem_of_ne_nil _ h.name.nonempty
    have hmem : c ∈ h.text.reverse := by simp [Heading.text_eq, hc]
    rw [Text.allBlank, List.all_eq_false]
    exact ⟨c, hmem, by simp [Text.isBlank_of_plain (h.name.plain c hc)]⟩
  simp [Piece.finish, hblank]

/-- Spaces at the end of a line give no event. -/
theorem splitFrom_spaces {t : Text} (h : Spaces t) (column : Nat) :
    splitFrom column 0 (.start column 0) t = ([], 0) := by
  have hcut := splitFrom_uncut (uncut_of_spaces h) column 0 (.start column 0) []
  rw [List.append_nil] at hcut
  rw [hcut, splitFrom, Piece.start, List.append_nil, finish_of_spaces h]

/-- Spaces in front of a closing brace give no event. -/
theorem splitFrom_closing {t : Text} (h : Spaces t) (column : Nat) (rest : Text) :
    splitFrom column 0 (.start column 0) (t ++ '}' :: rest)
      = lead [.closing (column + t.length)]
          (splitFrom (column + t.length + 1) 0 (.start (column + t.length + 1) 0) rest) := by
  rw [splitFrom_uncut (uncut_of_spaces h), splitFrom, if_neg (by decide), if_pos rfl, Piece.start,
    List.append_nil, finish_of_spaces h]
  rfl

/-- A heading in front of a semicolon. -/
theorem splitFrom_leaf (h : Heading) (rest : Text) :
    splitFrom 1 0 (.start 1 0) (h.text ++ ';' :: rest)
      = lead [.statement h.text 1 0 true]
          (splitFrom (1 + h.text.length + 1) 0 (.start (1 + h.text.length + 1) 0) rest) := by
  rw [splitFrom_uncut (uncut_text h), splitFrom, if_neg (by decide), if_neg (by decide),
    if_pos ⟨rfl, rfl⟩, Piece.start, List.append_nil, finish_text]

/-- A heading in front of an opening brace. -/
theorem splitFrom_opening (h : Heading) (rest : Text) :
    splitFrom 1 0 (.start 1 0) (h.text ++ '{' :: rest)
      = lead [.statement h.text 1 0 false, .opening (1 + h.text.length)]
          (splitFrom (1 + h.text.length + 1) 0 (.start (1 + h.text.length + 1) 0) rest) := by
  rw [splitFrom_uncut (uncut_text h), splitFrom, if_pos rfl, Piece.start, List.append_nil,
    finish_text]
  rfl

/-- Cutting a line gives its events, whatever blanks come behind. -/
theorem split_code (line : Line) {blanks : Text} (h : Spaces blanks) :
    split 0 (line.code ++ blanks) = (line.events, 0) := by
  rw [split]
  cases line with
  | leaf heading =>
      rw [Line.code, List.append_assoc, List.singleton_append, splitFrom_leaf, splitFrom_spaces h]
      rfl
  | hollow heading inside =>
      rw [Line.code, List.append_assoc, List.cons_append, splitFrom_opening, List.append_assoc,
        List.singleton_append, splitFrom_closing inside.spaces, splitFrom_spaces h]
      rfl
  | opening heading =>
      rw [Line.code, List.append_assoc, List.singleton_append, splitFrom_opening,
        splitFrom_spaces h]
      rfl
  | closing indent =>
      rw [Line.code, List.append_assoc, List.singleton_append, splitFrom_closing indent.spaces,
        splitFrom_spaces h]
      rfl

end Event

/-- The events of lines that are shown are the events of the lines. -/
theorem ofLines_of_shows {ls : List Line} {ts : List Text} (h : List.Forall₂ Shows ls ts)
    (n : Nat) :
    Event.ofLines 0 (Comment.numberFrom n ((Comment.cleanFrom .code ts).map Prod.fst))
      = Line.eventsFrom n ls := by
  induction h generalizing n with
  | nil => rfl
  | cons hshows _ ih =>
      obtain ⟨blanks, hblanks, hclean⟩ := hshows.cleanLine
      simp only [Comment.cleanFrom, hclean, List.map_cons, Comment.numberFrom, Event.ofLines,
        Event.split_code _ hblanks, Line.eventsFrom]
      rw [ih]

/-- The events of the text of a forest are the events of its lines. -/
theorem Sketch.ofLines_source (ended : Bool) (forest : List Sketch) :
    Event.ofLines 0 (Comment.cleanLines (source ended forest))
      = Line.eventsFrom 1 ((linesAll forest).map Prod.fst) :=
  ofLines_of_shows (shows_lines ended (linesAll forest)) 1

end DefIndex
