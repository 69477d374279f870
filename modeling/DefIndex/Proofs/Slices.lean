import Mathlib.Data.List.TakeWhile
import DefIndex.Reference
import DefIndex.Proofs.Marks
import DefIndex.Proofs.Phrase
import DefIndex.Proofs.Provenance

/-!
# `DefIndex.Proofs.Slices`: locations cut their text out of the source

A location is put together from columns of events, offsets in statements
and lengths of tokens, all counted on clean lines. This file proves that it
points at the right characters of the source as it was written, comments
and all, and that none of these characters lies in a comment.

* `Spells` says what it is to point at a text: the slice of the physical
  line reads so, and no mark of `Comment.marked` covers any of it.
* `StandsAt` and `WrittenAt` place a text in a clean line.
  `WrittenAt.spells` carries a text without blanks over to the source,
  since a covered character shows as a blank.
* `Event.placedIn_of_mem_ofLines`, `Statement.isLastOf_read` and
  `Term.standsAt_scan` place events in lines, tokens in statements and
  terms in lines. The first one also says what stands behind a statement.
* `sliced_read` puts it together for the locations of a file.
-/

set_option autoImplicit false

namespace DefIndex

/-! ### Slices of the source -/

/-- The part of a line from one column up to another. -/
def slice {α : Type} (column endColumn : Nat) (line : List α) : List α :=
  (line.take (endColumn - 1)).drop (column - 1)

/-- The columns of a line of the source read as a text, and no comment
covers any of it. -/
structure Spells (source : Text) (line column endColumn : Nat) (t : Text) : Prop where
  line_pos : 0 < line
  column_pos : 0 < column
  /-- The physical line has the text there. -/
  text : (Text.lines source)[line - 1]?.map (slice column endColumn) = some t
  /-- No comment covers it. -/
  code : (Comment.marked source)[line - 1]?.map (slice column endColumn)
    = some (t.map fun c => (c, false))

/-- A location points at a text on one line. -/
def Location.Spells (l : Location) (source t : Text) : Prop :=
  l.endLine = l.line ∧ DefIndex.Spells source l.line l.column l.endColumn t

/-- A text stands at a column of a line. -/
def StandsAt (t : Text) (column : Nat) (line : Text) : Prop :=
  ∃ before after, line = before ++ t ++ after ∧ column = before.length + 1

/-- A text stands at a column of the clean line with a number. -/
def WrittenAt (lines : List CleanLine) (number column : Nat) (t : Text) : Prop :=
  ∃ line ∈ lines, line.number = number ∧ StandsAt t column line.text

/-- A part of a text stands where the text does. -/
theorem StandsAt.part (before after : Text) {t line : Text} {column : Nat}
    (h : StandsAt (before ++ t ++ after) column line) :
    StandsAt t (column + before.length) line := by
  obtain ⟨front, back, rfl, rfl⟩ := h
  refine ⟨front ++ before, after ++ back, by simp, ?_⟩
  rw [List.length_append]
  omega

/-- A part of a text is written where the text is. -/
theorem WrittenAt.part (before after : Text) {lines : List CleanLine} {number column : Nat}
    {t : Text} (h : WrittenAt lines number column (before ++ t ++ after)) :
    WrittenAt lines number (column + before.length) t := by
  obtain ⟨line, hline, hnumber, hstands⟩ := h
  exact ⟨line, hline, hnumber, hstands.part before after⟩

/-- A token is written where its statement is. -/
theorem WrittenAt.token {lines : List CleanLine} {number column : Nat} {text : Text}
    {token : Token} (h : WrittenAt lines number column text) (htoken : token.StandsIn text) :
    WrittenAt lines number (column + token.offset) token.text := by
  obtain ⟨before, after, rfl, hoffset⟩ := htoken
  exact hoffset ▸ h.part before after

/-- Cutting the middle out of three parts. -/
theorem slice_append {α : Type} (front middle back : List α) :
    slice (front.length + 1) (front.length + 1 + middle.length) (front ++ middle ++ back)
      = middle := by
  have hend : front.length + 1 + middle.length - 1 = (front ++ middle).length := by
    rw [List.length_append]
    omega
  rw [slice, hend, List.take_left, Nat.add_sub_cancel, List.drop_left]

/-- What shows no blank is not covered. -/
theorem Comment.eq_of_map_shown {ms : MarkedText} {t : Text} (h : ms.map shown = t)
    (hsolid : ' ' ∉ t) : ms = t.map fun c => (c, false) := by
  induction ms generalizing t with
  | nil => rw [← h]; rfl
  | cons m ms ih =>
      obtain ⟨c, covered⟩ := m
      subst h
      rw [List.map_cons, List.mem_cons, not_or] at hsolid
      cases covered with
      | true => exact absurd rfl hsolid.1
      | false =>
          rw [List.map_cons, List.map_cons, ← ih rfl hsolid.2]
          rfl

/-- A part of a clean line without blanks, with the marks of its line. -/
theorem Comment.exists_marked_around {source : Text} {line : CleanLine}
    (hline : line ∈ cleanLines source) {before t after : Text}
    (htext : line.text = before ++ t ++ after) (hsolid : ' ' ∉ t) :
    0 < line.number ∧ ∃ front back,
      (marked source)[line.number - 1]? = some (front ++ t.map (fun c => (c, false)) ++ back) ∧
        front.map shown = before ∧ back.map shown = after := by
  obtain ⟨hpos, ms, hms, hshown⟩ := exists_marked_of_mem_cleanLines hline
  rw [htext] at hshown
  obtain ⟨rest, back, rfl, hrest, hback⟩ := List.append_eq_map_iff.1 hshown
  obtain ⟨front, middle, rfl, hfront, hmiddle⟩ := List.append_eq_map_iff.1 hrest.symm
  obtain rfl := eq_of_map_shown hmiddle hsolid
  exact ⟨hpos, front, back, hms, hfront, hback⟩

/-- A physical line is its marked line without the marks. -/
theorem Comment.getElem?_lines {source : Text} {i : Nat} {ms : MarkedText}
    (h : (marked source)[i]? = some ms) : (Text.lines source)[i]? = some (ms.map Prod.fst) := by
  rw [← map_fst_marked, List.getElem?_map, h, Option.map_some]

/-- What is written on the clean lines without a blank is written so in the
source. -/
theorem WrittenAt.spells {source t : Text} {number column : Nat}
    (h : WrittenAt (Comment.cleanLines source) number column t) (hsolid : ' ' ∉ t) :
    Spells source number column (column + t.length) t := by
  obtain ⟨line, hline, rfl, before, after, htext, rfl⟩ := h
  obtain ⟨hpos, front, back, hms, hfront, -⟩ := Comment.exists_marked_around hline htext hsolid
  have hcut := slice_append front (t.map fun c => (c, false)) back
  rw [List.length_map] at hcut
  have hlength : before.length = front.length := by rw [← hfront, List.length_map]
  rw [hlength]
  refine ⟨hpos, Nat.succ_pos _, ?_, ?_⟩
  · rw [Comment.getElem?_lines hms, Option.map_some, slice, ← List.map_take, ← List.map_drop,
      ← slice, hcut, List.map_map]
    exact congrArg some (List.map_id t)
  · rw [hms, Option.map_some, hcut]

/-! ### Events in their lines -/

namespace Event

/-- The characters of an event. -/
def text : Event → Text
  | statement text _ _ _ => text
  | opening _ => ['{']
  | closing _ => ['}']

/-- A piece has read the end of what is behind the reader. -/
def Piece.EndsAt (p : Piece) (done : Text) : Prop :=
  ∃ before, done = before ++ p.reversed.reverse ∧ p.column = before.length + 1

/-- A fresh piece has read nothing. -/
theorem Piece.endsAt_start (done : Text) (depth : Nat) :
    (Piece.start (done.length + 1) depth).EndsAt done :=
  ⟨done, (List.append_nil _).symm, rfl⟩

/-- One more character. -/
theorem Piece.EndsAt.push {p : Piece} {done : Text} (h : p.EndsAt done) (c : Char) :
    (p.push c).EndsAt (done ++ [c]) := by
  obtain ⟨before, rfl, hcolumn⟩ := h
  exact ⟨before, by simp [Piece.push], hcolumn⟩

/-- What stands behind an event. Where a statement has ended there is the end
of the line, a brace or a `;`. -/
def StopsAt : Event → Text → Prop
  | statement _ _ _ _, after => ∀ c ∈ after.head?, c = '{' ∨ c = '}' ∨ c = ';'
  | _, _ => True

/-- An event stands in a line. -/
def PlacedIn (e : Event) (line : Text) : Prop :=
  ∃ before after, line = before ++ e.text ++ after ∧ e.column = before.length + 1 ∧ e.StopsAt after

/-- The text of an event stands where the event does. -/
theorem PlacedIn.standsAt {e : Event} {line : Text} (h : e.PlacedIn line) :
    StandsAt e.text e.column line := by
  obtain ⟨before, after, hline, hcolumn, -⟩ := h
  exact ⟨before, after, hline, hcolumn⟩

/-- A finished piece stands where it was read. -/
theorem Piece.EndsAt.placedIn {p : Piece} {done rest : Text} (h : p.EndsAt done)
    (hrest : ∀ c ∈ rest.head?, c = '{' ∨ c = '}' ∨ c = ';') {terminated : Bool} {e : Event}
    (he : e ∈ p.finish terminated) : e.PlacedIn (done ++ rest) := by
  obtain ⟨before, rfl, hcolumn⟩ := h
  rw [Piece.finish] at he
  split at he
  · rw [List.mem_singleton.1 he]
    exact ⟨before, rest, rfl, hcolumn, hrest⟩
  · cases he

/-- The events of a line stand in it. -/
theorem placedIn_splitFrom {done : Text} {depth : Nat} {piece : Piece} (hpiece : piece.EndsAt done)
    {rest : Text} {e : Event} (he : e ∈ (splitFrom (done.length + 1) depth piece rest).1) :
    e.PlacedIn (done ++ rest) := by
  induction rest generalizing done depth piece with
  | nil => exact hpiece.placedIn (by simp) he
  | cons c cs ih =>
      -- What the rest of the line gives stands in the line. The piece at hand
      -- goes on, or a fresh one begins.
      have hnext {d : Nat} {p : Piece} (hp : p.EndsAt (done ++ [c]))
          (he : e ∈ (splitFrom (done.length + 1 + 1) d p cs).1) : e.PlacedIn (done ++ c :: cs) := by
        have hlength : (done ++ [c]).length = done.length + 1 := by simp
        rw [← hlength] at he
        have hplaced := ih hp he
        rwa [List.append_assoc, List.singleton_append] at hplaced
      have hfresh (d : Nat) : (Piece.start (done.length + 1 + 1) d).EndsAt (done ++ [c]) := by
        have hstart := Piece.endsAt_start (done ++ [c]) d
        rwa [List.length_append, List.length_singleton] at hstart
      have hpush : (piece.push c).EndsAt (done ++ [c]) := hpiece.push c
      simp only [splitFrom, lead] at he
      split at he
      next hc =>
        simp only [List.mem_append, List.mem_singleton] at he
        rcases he with (he | rfl) | he
        · exact hpiece.placedIn (by simp [hc]) he
        · exact ⟨done, cs, by simp [text, hc], rfl, trivial⟩
        · exact hnext (hfresh _) he
      split at he
      next hc =>
        simp only [List.mem_append, List.mem_singleton] at he
        rcases he with (he | rfl) | he
        · exact hpiece.placedIn (by simp [hc]) he
        · exact ⟨done, cs, by simp [text, hc], rfl, trivial⟩
        · exact hnext (hfresh _) he
      split at he
      next hc =>
        rcases List.mem_append.1 he with he | he
        · exact hpiece.placedIn (by simp [hc.1]) he
        · exact hnext (hfresh _) he
      split at he
      · exact hnext hpush he
      split at he
      · exact hnext hpush he
      · exact hnext hpush he

/-- The events of a file stand in its lines. -/
theorem placedIn_of_mem_ofLines {depth : Nat} {lines : List CleanLine} {e : Nat × Event}
    (h : e ∈ ofLines depth lines) : ∃ line ∈ lines, line.number = e.1 ∧ e.2.PlacedIn line.text := by
  induction lines generalizing depth with
  | nil => cases h
  | cons line rest ih =>
      simp only [ofLines, List.mem_append, List.mem_map] at h
      rcases h with ⟨event, hevent, rfl⟩ | h
      · exact ⟨line, List.mem_cons_self, rfl,
          placedIn_splitFrom (Piece.endsAt_start [] depth) hevent⟩
      · obtain ⟨l, hl, hplaced⟩ := ih h
        exact ⟨l, List.mem_cons_of_mem _ hl, hplaced⟩

/-- The events of a file are written on its lines. -/
theorem writtenAt_of_mem_ofLines {depth : Nat} {lines : List CleanLine} {e : Nat × Event}
    (h : e ∈ ofLines depth lines) : WrittenAt lines e.1 e.2.column e.2.text := by
  obtain ⟨line, hline, hnumber, hplaced⟩ := placedIn_of_mem_ofLines h
  exact ⟨line, hline, hnumber, hplaced.standsAt⟩

end Event

/-! ### Names -/

namespace Statement

/-- A run of characters of which none is a blank. -/
theorem space_notMem_takeWhile {p : Char → Bool} (hspace : p ' ' = false) (t : Text) :
    ' ' ∉ t.takeWhile p := by
  intro hmem
  have hp := List.mem_takeWhile_imp hmem
  rw [hspace] at hp
  cases hp

/-- What is left of a text has no blank if the text has none. -/
theorem space_notMem_dropEndWhile {t : Text} (h : ' ' ∉ t) (p : Char → Bool) :
    ' ' ∉ Text.dropEndWhile p t :=
  fun hmem => h ((Text.dropEndWhile_isPrefix p t).subset hmem)

/-- A name declared by keyword has no blank. -/
theorem space_notMem_nameOf (rest : Text) : ' ' ∉ nameOf rest :=
  space_notMem_dropEndWhile (space_notMem_takeWhile (by decide) rest) _

/-- A name declared by an inherit statement has no blank. -/
theorem space_notMem_readInherit {indent : Nat} {body : Text} {name : Token} {target : Text}
    (h : readInherit indent body = some (name, target)) : ' ' ∉ name.text := by
  simp only [readInherit] at h
  split at h
  · cases h
  split at h
  next t _ =>
    cases h
    exact space_notMem_takeWhile (Text.isWord_of_space (Or.inl rfl)) t
  next =>
    cases h
    have hdotted : isDotted ' ' = false := by
      rw [isDotted, Text.isWord_of_space (Or.inl rfl)]
      rfl
    exact space_notMem_dropEndWhile (space_notMem_takeWhile hdotted body) _

/-- What a declaration by keyword can read as. -/
theorem readDeclaration_cases (text : Text) (kinds : List Kind) :
    readDeclaration text kinds = .other ∨
      ∃ kind rest offset, readDeclaration text kinds = .declares kind ⟨nameOf rest, offset⟩ := by
  induction kinds with
  | nil => exact Or.inl rfl
  | cons kind kinds ih =>
      rw [readDeclaration]
      split
      next rest _ =>
        split
        · exact Or.inl rfl
        · exact Or.inr ⟨kind, rest, _, rfl⟩
      next => exact ih

/-- A declared name has no blank. -/
theorem Declares.space_notMem {text : Text} {name : Token} (h : (read text).Declares name) :
    ' ' ∉ name.text := by
  rw [read] at h
  split at h
  · rw [readImport] at h
    split at h <;> cases h
  split at h
  next body _ =>
    generalize hfound : readInherit (text.length - body.length) body = found at h
    cases h with
    | inherits name target => exact space_notMem_readInherit hfound
  next =>
    rcases readDeclaration_cases text Kind.byKeyword with hother | ⟨kind, rest, offset, hname⟩
    · rw [hother] at h
      cases h
    · rw [hname] at h
      cases h with
      | keyword kind name => exact space_notMem_nameOf rest

/-- A declared name stands in its statement. -/
theorem Declares.standsIn {text : Text} {name : Token} (h : (read text).Declares name) :
    name.StandsIn text := by
  have hstands := namesStandIn_read text
  generalize read text = s at h hstands
  cases h with
  | inherits name target => exact hstands.2
  | keyword kind name => exact hstands.2.2

/-! ### Imports -/

/-- What is dropped at the end and what is kept are the text. -/
theorem dropEndWhile_append_takeEndWhile (p : Char → Bool) (t : Text) :
    Text.dropEndWhile p t ++ Text.takeEndWhile p t = t := by
  rw [Text.dropEndWhile, Text.takeEndWhile, ← List.reverse_append, List.takeWhile_append_dropWhile,
    List.reverse_reverse]

/-- A run at the end holds only what belongs to it. -/
theorem of_mem_takeEndWhile {p : Char → Bool} {t : Text} {c : Char}
    (h : c ∈ Text.takeEndWhile p t) : p c = true :=
  List.mem_takeWhile_imp (List.mem_reverse.1 h)

/-- What stands before a run at the end does not belong to it. -/
theorem of_getLast?_dropEndWhile {p : Char → Bool} {t : Text} {c : Char}
    (h : c ∈ (Text.dropEndWhile p t).getLast?) : p c = false := by
  rw [Text.dropEndWhile, List.getLast?_reverse] at h
  have hstop := List.head?_dropWhile_not p t.reverse
  rw [Option.mem_def.1 h] at hstop
  exact hstop

/-- White space stands directly before the end of a text. -/
def Preceded (rest t : Text) : Prop := ∃ front c, t = front ++ c :: rest ∧ Text.isBlank c = true

/-- White space stands before what is left when it is skipped. -/
theorem preceded_of_skipBlanks? {t rest : Text} (h : skipBlanks? t = some rest) :
    Preceded rest t := by
  cases t with
  | nil => cases h
  | cons c cs =>
      simp only [skipBlanks?] at h
      split at h
      next hc =>
        cases h
        have hrun : ∀ b ∈ c :: cs.takeWhile Text.isBlank, Text.isBlank b = true := by
          intro b hb
          rcases List.mem_cons.1 hb with rfl | hb
          · exact hc
          · exact List.mem_takeWhile_imp hb
        refine ⟨(c :: cs.takeWhile Text.isBlank).dropLast,
          (c :: cs.takeWhile Text.isBlank).getLast (List.cons_ne_nil _ _), ?_,
          hrun _ (List.getLast_mem _)⟩
        rw [List.append_cons, List.dropLast_append_getLast, List.cons_append,
          List.takeWhile_append_dropWhile]
      next => cases h

/-- More text in front does not matter. -/
theorem Preceded.of_suffix {rest t t' : Text} (h : Preceded rest t) (ht : t <:+ t') :
    Preceded rest t' := by
  obtain ⟨front, c, rfl, hc⟩ := h
  obtain ⟨more, rfl⟩ := ht
  exact ⟨more ++ front, c, (List.append_assoc _ _ _).symm, hc⟩

/-- White space stands between a phrase and what follows it. -/
theorem preceded_of_skipPhrase? {words : List Text} (hne : words ≠ []) {t rest : Text}
    (h : skipPhrase? words t = some rest) : Preceded rest t := by
  induction words generalizing t with
  | nil => exact absurd rfl hne
  | cons word words ih =>
      simp only [skipPhrase?, Option.bind_eq_some_iff] at h
      obtain ⟨u, ⟨s, hs, hu⟩, hrest⟩ := h
      have hsuffix : s <:+ t := ⟨word, (Text.dropStart?_eq_some_iff.1 hs).symm⟩
      cases words with
      | nil =>
          cases hrest
          exact (preceded_of_skipBlanks? hu).of_suffix hsuffix
      | cons next words =>
          have hbehind := ih (List.cons_ne_nil next words) hrest
          exact hbehind.of_suffix ((skipBlanks?_suffix hu).trans hsuffix)

/-- So it does where the phrase is looked for. -/
theorem preceded_of_afterPhrase? {words : List Text} (hne : words ≠ []) {inWord : Bool}
    {t rest : Text} (h : afterPhrase? words inWord t = some rest) : Preceded rest t := by
  induction t generalizing inWord with
  | nil => cases h
  | cons c cs ih =>
      simp only [afterPhrase?] at h
      split at h
      next found =>
        cases h
        split at found
        · cases found
        · exact preceded_of_skipPhrase? hne found
      next => exact (ih h).of_suffix (List.suffix_cons c cs)

/-- A token is the last of those that white space separates in a text. -/
def IsLastOf (token : Token) (text : Text) : Prop :=
  token.text ≠ [] ∧ (∀ c ∈ token.text, Text.isBlank c = false) ∧
    ∃ before after, text = before ++ token.text ++ after ∧ before.length = token.offset ∧
      (∀ c ∈ before.getLast?, Text.isBlank c = true) ∧ ∀ c ∈ after, Text.isBlank c = true

/-- The last token stands in the text. -/
theorem IsLastOf.standsIn {token : Token} {text : Text} (h : IsLastOf token text) :
    token.StandsIn text := by
  obtain ⟨-, -, before, after, htext, hoffset, -⟩ := h
  exact ⟨before, after, htext, hoffset⟩

/-- The last token has no blank. -/
theorem IsLastOf.space_notMem {token : Token} {text : Text} (h : IsLastOf token text) :
    ' ' ∉ token.text := by
  intro hmem
  have hblank := h.2.1 ' ' hmem
  rw [Text.isBlank_of_space (Or.inl rfl)] at hblank
  cases hblank

/-- What stands before the last token of a text behind white space ends in
white space. -/
theorem isBlank_of_getLast? {front t : Text} {b c : Char} (hc : Text.isBlank c = true)
    (hb : b ∈ (front ++ c :: Text.dropEndWhile (fun c => !Text.isBlank c) t).getLast?) :
    Text.isBlank b = true := by
  rw [List.getLast?_append, List.getLast?_cons, Option.some_or, Option.mem_def,
    Option.some.injEq] at hb
  cases hlast : (Text.dropEndWhile (fun c => !Text.isBlank c) t).getLast? with
  | none =>
      rw [hlast, Option.getD_none] at hb
      exact hb ▸ hc
  | some x =>
      rw [hlast, Option.getD_some] at hb
      simpa [hb] using of_getLast?_dropEndWhile hlast

/-- What follows a blank ends with the token that is read from it. -/
theorem isLastOf_readImport {text rest : Text} (hrest : Preceded rest text) {token : Token}
    (h : readImport text.length rest = .imports token) : IsLastOf token text := by
  obtain ⟨front, c, rfl, hc⟩ := hrest
  simp only [readImport] at h
  split at h
  · cases h
  next hpath =>
    cases h
    have hbody := dropEndWhile_append_takeEndWhile Text.isBlank rest
    have htoken := dropEndWhile_append_takeEndWhile (fun c => !Text.isBlank c) (Text.trimEnd rest)
    refine ⟨fun hnil => hpath ?_, fun b hb => ?_, ?_⟩
    · simp only at hnil
      rw [hnil]
      rfl
    · simpa using of_mem_takeEndWhile hb
    · refine ⟨front ++ c :: Text.dropEndWhile (fun c => !Text.isBlank c) (Text.trimEnd rest),
        Text.takeEndWhile Text.isBlank rest, ?_, ?_, fun b hb => isBlank_of_getLast? hc hb,
        fun b hb => of_mem_takeEndWhile hb⟩
      · rw [List.append_assoc, List.append_assoc, List.cons_append, ← List.append_assoc, htoken,
          Text.trimEnd, hbody]
      · have hlength := congrArg List.length htoken
        simp only [List.length_append, List.length_cons] at hlength ⊢
        omega

/-- The path token of an import is the last of its statement. -/
theorem isLastOf_read {text : Text} {token : Token} (h : read text = .imports token) :
    IsLastOf token text := by
  rw [read] at h
  split at h
  next rest hrest => exact isLastOf_readImport (preceded_of_afterPhrase? (by decide) hrest) h
  split at h
  · cases h
  · rcases readDeclaration_cases text Kind.byKeyword with hother | ⟨kind, rest, offset, hname⟩
    · rw [hother] at h
      cases h
    · rw [hname] at h
      cases h

end Statement

/-! ### Terms -/

namespace Term

/-- A term has no blank. -/
theorem space_notMem_run (t : Text) : ' ' ∉ run t := by
  have hspace : (!ends ' ') = false := by
    rw [ends, Text.isBlank_of_space (Or.inl rfl)]
    rfl
  exact Statement.space_notMem_takeWhile hspace t

/-- A term stands in its line behind a mark. -/
theorem standsAt_scan (done : Text) {rest t : Text} {column : Nat}
    (h : (column, t) ∈ scan (done.length + 1) rest) :
    ' ' ∉ t ∧ ∃ start, column = start + 1 ∧ StandsAt (sigil :: t) start (done ++ rest) := by
  induction rest generalizing done with
  | nil => cases h
  | cons c cs ih =>
      have hfurther (h : (column, t) ∈ scan (done.length + 1 + 1) cs) :
          ' ' ∉ t ∧ ∃ start, column = start + 1 ∧
            StandsAt (sigil :: t) start (done ++ c :: cs) := by
        have hlength : (done ++ [c]).length = done.length + 1 := by simp
        rw [← hlength] at h
        have hstands := ih (done ++ [c]) h
        rwa [List.append_assoc, List.singleton_append] at hstands
      rw [scan] at h
      split at h
      next hmark =>
        rcases List.mem_cons.1 h with heq | h
        · cases heq
          refine ⟨space_notMem_run cs, done.length + 1, rfl, done, cs.dropWhile fun c => !ends c,
            ?_, rfl⟩
          rw [hmark.1, run, List.append_assoc, List.cons_append, List.takeWhile_append_dropWhile]
        · exact hfurther h
      next => exact hfurther h

/-- A term is written on its line behind a mark. -/
theorem writtenAt_of_mem_ofLines {file : Path} {lines : List CleanLine} {term : Term}
    (h : term ∈ ofLines file lines) :
    ' ' ∉ term.text ∧ ∃ number column,
      term.location = .span file number (column + 1) term.text.length ∧
        WrittenAt lines number column (sigil :: term.text) := by
  obtain ⟨line, hline, hterm⟩ := List.mem_flatMap.1 h
  obtain ⟨⟨column, t⟩, hscan, rfl⟩ := List.mem_map.1 hterm
  obtain ⟨hspace, start, rfl, hstands⟩ := standsAt_scan [] hscan
  exact ⟨hspace, line.number, start, rfl, line, hline, rfl, hstands⟩

end Term

/-! ### The locations of a file -/

/-- An import points at the last token of the statement it is read from. -/
def Import.Points (file : Path) (source : Text) (i : Import) : Prop :=
  ∃ (text : Text) (column : Nat) (terminated : Bool) (token : Token),
    (i.location.line, .statement text column 0 terminated)
        ∈ Event.ofLines 0 (Comment.cleanLines source) ∧
      Statement.read text = .imports token ∧ Statement.IsLastOf token text ∧
      i.path = importPath file.normalize (Statement.pathText token.text) ∧
      i.location.Spells source token.text

/-- The locations of a file cut their texts out of its source. -/
structure Sliced (file : Path) (source : Text) : Prop where
  /-- The marked lines are the physical lines. -/
  lines : (Comment.marked source).map (List.map Prod.fst) = Text.lines source
  /-- Their marks are right, and no others are. -/
  marks : (Comment.mark .code source).map Prod.fst = source ∧
    ∀ ms : MarkedText, ms.map Prod.fst = source →
      (Comment.RightlyMarked ms ↔ ms = Comment.mark .code source)
  /-- A declaration points at its name. -/
  declarations : ∀ e ∈ (Outline.read file source).declarations,
    Spells source e.line e.column e.endColumn e.name
  /-- A term points at its text, and the mark of a reference stands right
  before it. -/
  terms : ∀ t ∈ Term.ofLines file (Comment.cleanLines source),
    t.location.Spells source t.text ∧
      Spells source t.location.line (t.location.column - 1) t.location.column [sigil]
  /-- An import points at the last token of its statement. -/
  imports : ∀ i ∈ (Outline.read file source).imports ++ (Outline.read file source).unattached,
    i.Points file source
  /-- A report of a stray brace points at a closing brace. -/
  braces : ∀ w ∈ (Outline.read file source).warnings,
    w.message = Problem.strayBrace.message → w.location.Spells source ['}']

/-- An import that is read points at its token. -/
theorem Import.ReadFrom.points {file : Path} {source : Text} {i : Import}
    (h : i.ReadFrom file.normalize (Event.ofLines 0 (Comment.cleanLines source))) :
    i.Points file source := by
  obtain ⟨line, text, column, terminated, token, hevent, hread, rfl⟩ := h
  have hlast := Statement.isLastOf_read hread
  have hwritten := (Event.writtenAt_of_mem_ofLines hevent).token hlast.standsIn
  exact ⟨text, column, terminated, token, hevent, hread, hlast, rfl, rfl,
    hwritten.spells hlast.space_notMem⟩

/-- A declaration points at its name. -/
theorem Declaration.spells_read {file : Path} {source : Text} {e : Declaration}
    (he : e ∈ (Outline.read file source).declarations) :
    Spells source e.line e.column e.endColumn e.name := by
  obtain ⟨text, column, terminated, name, hevent, hname, hsame, hcolumn⟩ :=
    (Outline.readFrom_read file source).names e he
  have hwritten := (Event.writtenAt_of_mem_ofLines hevent).token hname.standsIn
  rw [Declaration.endColumn, hsame, hcolumn]
  exact hwritten.spells hname.space_notMem

/-- Whatever a source text reads, the locations of its declarations, terms,
imports and stray braces are those of the right characters, and no comment
covers any of them. -/
theorem sliced_read (file : Path) (source : Text) : Sliced file source := by
  have hread := Outline.readFrom_read file source
  refine ⟨Comment.map_fst_marked source, ⟨Comment.map_fst_mark .code source, ?_⟩,
    fun e => Declaration.spells_read, fun t ht => ?_, fun i hi => ?_, fun w hw hmessage => ?_⟩
  · rintro ms rfl
    exact Comment.rightlyMarked_iff
  · obtain ⟨hspace, number, column, hlocation, hwritten⟩ := Term.writtenAt_of_mem_ofLines ht
    have hterm := WrittenAt.part [sigil] [] (by simpa using hwritten)
    have hmark := WrittenAt.part [] t.text (t := [sigil]) (by simpa using hwritten)
    rw [hlocation]
    exact ⟨⟨rfl, hterm.spells hspace⟩, hmark.spells (by decide)⟩
  · have hfrom := hread.imports i hi
    rw [Outline.file_read] at hfrom
    exact hfrom.points
  · obtain ⟨line, column, hevent, hlocation⟩ := hread.braces w hw hmessage
    have hbrace : ' ' ∉ (['}'] : Text) := by decide
    rw [hlocation]
    exact ⟨rfl, (Event.writtenAt_of_mem_ofLines hevent).spells hbrace⟩

/-- A comment in front of a name keeps its columns, and a letter outside
ASCII has one of them. -/
example : (Outline.read (.parse "/ws/a.mql") "/* é */ CREATE TAG Größe;").declarations.map
    (fun e => (e.column, e.endColumn)) = [(20, 25)] := by decide +kernel

end DefIndex
