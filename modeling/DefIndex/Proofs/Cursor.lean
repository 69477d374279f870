import DefIndex.Proofs.Rebuilds
import DefIndex.Proofs.Replacement

/-!
# `DefIndex.Proofs.Cursor`: a term under the cursor

Three readers look for terms. The index scans clean lines from left to
right up to a character that ends a term. An editor asks for the word around
a cursor, which is read both ways from it on the line as it is written. And
while somebody types, the word is read backwards from the cursor. The three
stop at different characters, and only the first one knows of comments.

They agree on every term that is a dotted word: `Term.Dotted` says that all
its characters belong to words and that no dot stands at its ends.

* `Term.exists_line` finds a term of clean lines on the line that was
  written. A comment may begin right behind it, but a slash belongs to no
  word.
* `Word.at?_cut` and `Word.typed_cut` read a line that is cut around a term,
  for every cursor from its first character to its end.
* `Term.seenOn_of_mem_ofLines` puts them together. It also says what an
  editor finds there: the definition of the term, which is there if and only
  if the index has recorded the term and not reported it.
-/

set_option autoImplicit false

namespace DefIndex

/-! ### Runs of characters -/

namespace Text

variable {p : Char → Bool}

/-- A run that does not go on is read as a whole. -/
theorem takeWhile_append_run {run rest : Text} (hrun : ∀ c ∈ run, p c = true)
    (hrest : ∀ c ∈ rest.head?, p c = false) : (run ++ rest).takeWhile p = run := by
  rw [List.takeWhile_append_of_pos hrun]
  cases rest with
  | nil => exact List.append_nil run
  | cons c cs => rw [List.takeWhile_cons_of_neg (by simp [hrest c rfl]), List.append_nil]

/-- What follows the run is left. -/
theorem dropWhile_append_run {run rest : Text} (hrun : ∀ c ∈ run, p c = true)
    (hrest : ∀ c ∈ rest.head?, p c = false) : (run ++ rest).dropWhile p = rest := by
  rw [List.dropWhile_append_of_pos hrun]
  cases rest with
  | nil => rfl
  | cons c cs => rw [List.dropWhile_cons_of_neg (by simp [hrest c rfl])]

/-- A run that goes no further back is read as a whole from its end. -/
theorem takeEndWhile_append_run {front run : Text} (hrun : ∀ c ∈ run, p c = true)
    (hfront : ∀ c ∈ front.getLast?, p c = false) : takeEndWhile p (front ++ run) = run := by
  have hback : ∀ c ∈ front.reverse.head?, p c = false := by
    rw [List.head?_reverse]
    exact hfront
  have hreverse : ∀ c ∈ run.reverse, p c = true := fun c hc => hrun c (List.mem_reverse.1 hc)
  rw [takeEndWhile, List.reverse_append, takeWhile_append_run hreverse hback, List.reverse_reverse]

/-- What precedes the run is left. -/
theorem dropEndWhile_append_run {front run : Text} (hrun : ∀ c ∈ run, p c = true)
    (hfront : ∀ c ∈ front.getLast?, p c = false) : dropEndWhile p (front ++ run) = front := by
  have hback : ∀ c ∈ front.reverse.head?, p c = false := by
    rw [List.head?_reverse]
    exact hfront
  have hreverse : ∀ c ∈ run.reverse, p c = true := fun c hc => hrun c (List.mem_reverse.1 hc)
  rw [dropEndWhile, List.reverse_append, dropWhile_append_run hreverse hback, List.reverse_reverse]

/-- Nothing is trimmed where nothing stands at the ends. -/
theorem trimBy_eq_self {t : Text} (hfirst : ∀ c ∈ t.head?, p c = false)
    (hlast : ∀ c ∈ t.getLast?, p c = false) : trimBy p t = t := by
  have hnone : ∀ c ∈ ([] : Text), p c = true := by simp
  have hfront : t.dropWhile p = t := dropWhile_append_run hnone hfirst
  have hback := dropEndWhile_append_run hnone hlast
  rw [List.append_nil] at hback
  rw [trimBy, hfront, hback]

end Text

/-! ### Words on a cut line -/

namespace Word

/-- A text with characters has some on one side of a cursor in it. -/
theorem not_isEmpty_parts {t : Text} (hne : t ≠ []) (k : Nat) :
    ¬ ((t.take k).isEmpty && (t.drop k).isEmpty) = true := by
  rw [Bool.and_eq_true, List.isEmpty_iff, List.isEmpty_iff]
  rintro ⟨htake, hdrop⟩
  exact hne (by rw [← List.take_append_drop k t, htake, hdrop, List.append_nil])

/-- The mark of a reference belongs to no word. -/
theorem isPart_sigil : isPart sigil = false := by decide +kernel

section Cut

variable {front t back : Text} {k : Nat}

/-- What stands in front of a cursor in a term. -/
theorem take_cut (hk : k ≤ t.length) :
    (front ++ sigil :: (t ++ back)).take (front.length + 1 + k)
      = (front ++ [sigil]) ++ t.take k := by
  have hlength : front.length + 1 + k = (front ++ [sigil]).length + k := by simp
  rw [← List.singleton_append, ← List.append_assoc, hlength, List.take_length_add_append,
    List.take_append_of_le_length hk]

/-- What stands behind a cursor in a term. -/
theorem drop_cut (hk : k ≤ t.length) :
    (front ++ sigil :: (t ++ back)).drop (front.length + 1 + k) = t.drop k ++ back := by
  have hlength : front.length + 1 + k = (front ++ [sigil]).length + k := by simp
  rw [← List.singleton_append, ← List.append_assoc, hlength, List.drop_length_add_append,
    List.drop_append_of_le_length hk]

/-- Reading backwards from a cursor in a term stops at its mark. -/
theorem runs_cut (front : Text) (hpart : ∀ c ∈ t, isPart c = true) (k : Nat) :
    Text.takeEndWhile isPart ((front ++ [sigil]) ++ t.take k) = t.take k ∧
      Text.dropEndWhile isPart ((front ++ [sigil]) ++ t.take k) = front ++ [sigil] := by
  have hrun : ∀ c ∈ t.take k, isPart c = true := fun c hc => hpart c (List.mem_of_mem_take hc)
  have hmark : ∀ c ∈ (front ++ [sigil]).getLast?, isPart c = false := by
    intro c hc
    rw [List.getLast?_concat, Option.mem_some_iff] at hc
    rw [← hc]
    exact isPart_sigil
  exact ⟨Text.takeEndWhile_append_run hrun hmark, Text.dropEndWhile_append_run hrun hmark⟩

/-- The word under a cursor in a term is the term. -/
theorem at?_cut (hne : t ≠ []) (hpart : ∀ c ∈ t, isPart c = true)
    (hback : ∀ c ∈ back.head?, isPart c = false) (hk : k ≤ t.length) :
    at? (front ++ sigil :: (t ++ back)) (front.length + 1 + k)
      = some ⟨t, front.length + 1, front.length + 1 + t.length, true⟩ := by
  have hcursor : min (front.length + 1 + k) (front ++ sigil :: (t ++ back)).length
      = front.length + 1 + k := by
    simp only [List.length_append, List.length_cons]
    omega
  obtain ⟨hleft, hbefore⟩ := runs_cut front hpart k
  have hright : (t.drop k ++ back).takeWhile isPart = t.drop k :=
    Text.takeWhile_append_run (fun c hc => hpart c (List.mem_of_mem_drop hc)) hback
  have hlengths : (t.take k).length = k ∧ (t.drop k).length = t.length - k :=
    ⟨List.length_take_of_le hk, List.length_drop⟩
  simp only [at?, hcursor, take_cut hk, drop_cut hk, hleft, hbefore, hright,
    if_neg (not_isEmpty_parts hne k),
    List.take_append_drop, hlengths.1, hlengths.2, List.getLast?_concat]
  have hstop : front.length + 1 + k + (t.length - k) = front.length + 1 + t.length := by omega
  rw [Nat.add_sub_cancel, hstop]
  rfl

/-- What is typed in front of a cursor in a term is the mark and the front of
the term. -/
theorem typed_cut (hpart : ∀ c ∈ t, isPart c = true) (hk : k ≤ t.length) :
    typed ((front ++ sigil :: (t ++ back)).take (front.length + 1 + k)) = sigil :: t.take k := by
  obtain ⟨hleft, hbefore⟩ := runs_cut front hpart k
  simp only [typed, take_cut hk, hleft, hbefore, List.getLast?_concat]
  rfl

end Cut

end Word

/-! ### Terms on written lines -/

namespace Comment

/-- Clean text starts with the character that was written, or a comment
starts there. -/
theorem head?_of_blankOut_code {back : Text} {c : Char} (hc : c ∈ back.head?) :
    c = '/' ∨ c ∈ (blankOut .code back).1.head? := by
  cases back with
  | nil => cases hc
  | cons d ds =>
      obtain rfl : d = c := Option.some.inj hc
      by_cases hslash : d = '/'
      · exact Or.inl hslash
      · refine Or.inr ?_
        rw [blankOut_code_cons]
        · rfl
        · exact fun hprefix => hslash (List.cons_prefix_cons.1 hprefix).1.symm
        · exact fun hprefix => hslash (List.cons_prefix_cons.1 hprefix).1.symm

end Comment

namespace Term

/-- A term stands on a line of its source text as it is, behind a mark. -/
theorem exists_line {file : Path} {source : Text} {t : Term}
    (ht : t ∈ ofLines file (Comment.cleanLines source)) :
    ∃ front back, (Text.lines source)[t.location.line - 1]?
        = some (front ++ sigil :: (t.text ++ back)) ∧
      t.location.column = front.length + 2 ∧ t.text ≠ [] ∧
      ∀ c ∈ (Comment.blankOut .code back).1.head?, ends c = true := by
  obtain ⟨s, rfl, rfl⟩ := exists_site ht
  obtain ⟨read, hheight, hread⟩ := exists_lines_around s.unbroken.1 s.unbroken.2
  refine ⟨s.front, (Text.lines s.back).headD [], ?_, rfl, s.term.nonempty, ?_⟩
  · have hlines := hread s.old s.back s.term.solid
    rw [Comment.prepend_eq] at hlines
    show (Text.lines (around s.above s.front s.old s.back))[s.above.length + 1 - 1]? = _
    rw [hlines, Nat.add_sub_cancel, ← hheight, List.getElem?_append_right (Nat.le_refl _)]
    simp
  · have hclosed := s.closed
    rw [Comment.headD_cleanTexts] at hclosed
    exact hclosed

/-- A term that is a dotted word. -/
structure Dotted (t : Term) : Prop where
  word : ∀ c ∈ t.text, Word.isPart c = true
  first : t.text.head? ≠ some '.'
  last : t.text.getLast? ≠ some '.'

/-- The column of the first character of a term, counted from zero. -/
def start (t : Term) : Nat := t.location.column - 1

/-- A cursor stands in a term: at its first character, behind its last one or
between them. -/
def Holds (t : Term) (cursor : Nat) : Prop :=
  t.start ≤ cursor ∧ cursor ≤ t.start + t.text.length

/-- What all readers make of a term of a file on the line where it was
written. -/
structure SeenOn (t : Term) (file : Path) (source line : Text) : Prop where
  /-- The line is the one that the location of the term counts to. -/
  written : (Text.lines source)[t.location.line - 1]? = some line
  /-- The word under a cursor in the term is the term, behind a mark. -/
  word : ∀ cursor, t.Holds cursor →
    ∃ w, Word.at? line cursor = some w ∧ w.text = t.text ∧ w.name = t.text ∧
      w.start = t.start ∧ w.stop = t.start + t.text.length ∧ w.referenced = true
  /-- What is typed up to the cursor is the mark and the term up to there. -/
  typed : ∀ cursor, t.Holds cursor →
    Word.typed (line.take cursor) = sigil :: t.text.take (cursor - t.start)
  /-- An editor finds the definition of the term. -/
  definition : ∀ (s : Snapshot) (cursor : Nat), t.Holds cursor →
    s.definitionAt? line cursor = s.table.lookup t.text
  /-- In a snapshot with the file there is such a definition exactly if the
  term is recorded, and none exactly if it is reported. -/
  resolved : ∀ (version limit : Nat) (outlines : List Outline) (failures : List ReadFailure)
    (s : Snapshot), Snapshot.build version outlines failures limit = .ok s →
    Outline.read file source ∈ outlines →
    ((s.table.lookup t.text).isSome = true ↔ t.location ∈ s.references.find t.text) ∧
      ((s.table.lookup t.text).isNone = true ↔ (Problem.unresolved t.text).reportAt t.location
        ∈ ReferenceIndex.unresolved s.table file.normalize (Comment.cleanLines source))

/-- A term of a file of a snapshot is recorded or reported, and it has a
definition in the first case only. -/
theorem resolved_of_mem_ofLines {file : Path} {source : Text} {t : Term}
    (ht : t ∈ ofLines file.normalize (Comment.cleanLines source)) {version limit : Nat}
    {outlines : List Outline} {failures : List ReadFailure} {s : Snapshot}
    (hbuild : Snapshot.build version outlines failures limit = .ok s)
    (hfile : Outline.read file source ∈ outlines) :
    ((s.table.lookup t.text).isSome = true ↔ t.location ∈ s.references.find t.text) ∧
      ((s.table.lookup t.text).isNone = true ↔ (Problem.unresolved t.text).reportAt t.location
        ∈ ReferenceIndex.unresolved s.table file.normalize (Comment.cleanLines source)) := by
  obtain ⟨table, htable, rfl⟩ := Snapshot.exists_of_build_ok hbuild
  have hindexed := Table.indexed_build htable
  have hlookup := hindexed.isSome_lookup t.text
  have hterm : t ∈ ReferenceIndex.termsOf (outlines.map fun o => (o.file, o.lines)) := by
    refine List.mem_flatMap.2 ⟨_, List.mem_map_of_mem hfile, ?_⟩
    show t ∈ ofLines (Outline.read file source).file (Comment.cleanLines source)
    rw [Outline.file_read]
    exact ht
  constructor
  · rw [hlookup, ReferenceIndex.mem_find_build]
    constructor
    · intro hcontains
      exact ⟨hcontains, t, hterm, rfl, rfl⟩
    · intro hfound
      exact hfound.1
  · rw [← Option.not_isSome, hlookup, Bool.not_eq_true', ReferenceIndex.unresolved, List.mem_map]
    constructor
    · intro hundefined
      exact ⟨t, List.mem_filter.2 ⟨ht, by simp [hundefined]⟩, rfl⟩
    · -- The report tells which term it is about.
      rintro ⟨u, hu, hreport⟩
      have htext : u.text = t.text := by
        have hmessage := congrArg (fun d => Diagnostic.termOf? d.message) hreport
        exact Option.some.inj ((Diagnostic.termOf?_unresolved u.text).symm.trans
          (hmessage.trans (Diagnostic.termOf?_unresolved t.text)))
      have hundefined := (List.mem_filter.1 hu).2
      rw [htext] at hundefined
      simpa using hundefined

/-- All readers agree on a term that is a dotted word. -/
theorem seenOn_of_mem_ofLines (file : Path) (source : Text) (t : Term)
    (ht : t ∈ ofLines file.normalize (Comment.cleanLines source)) (hdotted : t.Dotted) :
    ∃ line, t.SeenOn file source line := by
  obtain ⟨front, back, hwritten, hcolumn, hne, hclosed⟩ := exists_line ht
  have hstart : t.start = front.length + 1 := by
    rw [start, hcolumn]
    rfl
  have hback : ∀ c ∈ back.head?, Word.isPart c = false := by
    intro c hc
    rcases Comment.head?_of_blankOut_code hc with rfl | hshown
    · exact (by decide +kernel : Word.isPart '/' = false)
    · by_contra hpart
      rw [Bool.not_eq_false] at hpart
      have hends := hclosed c hshown
      rw [Word.ends_of_isPart hpart] at hends
      cases hends
  -- A cursor in the term is some characters behind the mark.
  have hcursor {cursor : Nat} (h : t.Holds cursor) :
      ∃ k, k ≤ t.text.length ∧ cursor = front.length + 1 + k := by
    obtain ⟨hlow, hhigh⟩ := h
    exact ⟨cursor - t.start, by omega, by omega⟩
  have hword {cursor : Nat} (h : t.Holds cursor) :
      Word.at? (front ++ sigil :: (t.text ++ back)) cursor
        = some ⟨t.text, front.length + 1, front.length + 1 + t.text.length, true⟩ := by
    obtain ⟨k, hk, rfl⟩ := hcursor h
    exact Word.at?_cut hne hdotted.word hback hk
  have hname : Text.trimBy (· == '.') t.text = t.text := by
    refine Text.trimBy_eq_self ?_ ?_
    · intro c hc
      exact beq_false_of_ne fun hdot => hdotted.first (hdot ▸ hc)
    · intro c hc
      exact beq_false_of_ne fun hdot => hdotted.last (hdot ▸ hc)
  refine ⟨_, hwritten, ?_, ?_, ?_, ?_⟩
  · intro cursor h
    rw [hstart]
    exact ⟨_, hword h, rfl, hname, rfl, rfl, rfl⟩
  · intro cursor h
    obtain ⟨k, hk, rfl⟩ := hcursor h
    rw [Word.typed_cut hdotted.word hk, hstart, Nat.add_sub_cancel_left]
  · intro s cursor h
    rw [Snapshot.definitionAt?, hword h, Option.bind_some, Word.name, hname]
  · intro version limit outlines failures s hbuild hfile
    exact resolved_of_mem_ofLines ht hbuild hfile

/-- A file with a term between another one and a comment. -/
def crowdedSource : Text :=
  "CREATE BASE A \x7b CREATE TAG T; \x7d\nf(x??A.T/* ?B */?C)"

/-- The term stands in the sixth column of the second line, where an editor
finds it from its first character to its end. -/
theorem seenOn_crowdedSource :
    ∃ line, (⟨"A.T", .span (.parse "/ws/a.mql") 2 6 3⟩ : Term).SeenOn (.parse "/ws/a.mql")
      crowdedSource line := by
  refine seenOn_of_mem_ofLines (.parse "/ws/a.mql") crowdedSource _ (by decide +kernel) ?_
  exact ⟨List.all_eq_true.1 (by decide +kernel), by decide, by decide⟩

end Term

end DefIndex
