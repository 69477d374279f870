import Mathlib.Data.List.Chain
import DefIndex.Proofs.Ownership
import DefIndex.Proofs.Replacement

/-!
# `DefIndex.Proofs.Neighbours`: what stands around a declared name

An editor takes the word under a cursor from the line as it was written. A
name that is declared by keyword is found on the clean lines, between white
space and the first character that ends it. This file proves that nothing
next to such a name can be taken for a part of it: no character beside it
belongs to a word, and no mark of a reference stands in front of it.

* `Statement.bordered_of_declares` is about the statement, and
  `Event.StopsAt` about what stands behind it on the line.
* `Comment.isChain_mark` says where comments meet code. The character on
  the side of the comment is a slash, or the line ends there.
* `Declaration.bordered_read` puts them together for the lines as they were
  written.
* `Declaration.eq_of_touched`: no two names touch one another, so a cursor
  stands on one of them at most.
-/

set_option autoImplicit false

namespace DefIndex

/-! ### In the statement -/

/-- The phrase of a form has a word. -/
theorem Kind.words_ne_nil (kind : Kind) : kind.words ≠ [] := by cases kind <;> decide

namespace Statement

/-- No character that ends a name belongs to a word. -/
theorem isPart_of_isNameEnd {c : Char} (h : isNameEnd c = true) : Word.isPart c = false := by
  have hends : [';', '{', '}', '\r', '\t', '\n'].all (fun c => !Word.isPart c) = true := by
    decide +kernel
  have hmem : c ∈ [';', '{', '}', '\r', '\t', '\n'] := by simpa [isNameEnd] using h
  simpa using List.all_eq_true.1 hends c hmem

/-- No white space belongs to a word. -/
theorem isPart_of_isBlank {c : Char} (h : Text.isBlank c = true) : Word.isPart c = false := by
  by_contra hpart
  rw [Bool.not_eq_false] at hpart
  rw [Word.isBlank_of_isPart hpart] at h
  cases h

/-- What follows a name does not go on with a word. -/
theorem exists_behind_nameOf (rest : Text) :
    ∃ behind, rest = nameOf rest ++ behind ∧ ∀ c ∈ behind.head?, Word.isPart c = false := by
  let inName (c : Char) : Bool := !Text.isBlank c && c != '('
  have hrun := dropEndWhile_append_takeEndWhile isNameEnd (rest.takeWhile inName)
  refine ⟨Text.takeEndWhile isNameEnd (rest.takeWhile inName) ++ rest.dropWhile inName, ?_, ?_⟩
  · rw [← List.append_assoc, nameOf, hrun, List.takeWhile_append_dropWhile]
  · intro c hc
    rw [List.head?_append] at hc
    cases hcut : (Text.takeEndWhile isNameEnd (rest.takeWhile inName)).head? with
    | some b =>
        -- The name was cut off here.
        rw [hcut, Option.some_or, Option.mem_some_iff] at hc
        exact hc ▸ isPart_of_isNameEnd (of_mem_takeEndWhile (List.mem_of_mem_head? hcut))
    | none =>
        rw [hcut, Option.none_or, Option.mem_def] at hc
        have hstop := List.head?_dropWhile_not inName rest
        rw [hc] at hstop
        by_cases hblank : Text.isBlank c = true
        · exact isPart_of_isBlank hblank
        · obtain rfl : c = '(' := by simpa [inName, hblank] using hstop
          decide +kernel

/-- A name has no white space. -/
theorem solid_nameOf (rest : Text) : ∀ c ∈ nameOf rest, Text.isBlank c = false := by
  intro c hc
  have hrun := List.mem_takeWhile_imp ((Text.dropEndWhile_isPrefix _ _).subset hc)
  simp only [Bool.and_eq_true, Bool.not_eq_true'] at hrun
  exact hrun.1

/-- A token without white space stands in a text behind white space, and what
follows it does not go on with a word. -/
def Bordered (token : Token) (text : Text) : Prop :=
  (∀ b ∈ token.text, Text.isBlank b = false) ∧
    ∃ front c behind, text = front ++ c :: (token.text ++ behind) ∧
      token.offset = front.length + 1 ∧ Text.isBlank c = true ∧
        ∀ b ∈ behind.head?, Word.isPart b = false

/-- A name behind a phrase is bordered. -/
theorem bordered_of_readDeclaration {text : Text} {kinds : List Kind} {kind : Kind} {name : Token}
    (h : readDeclaration text kinds = .declares kind name) : Bordered name text := by
  induction kinds with
  | nil => cases h
  | cons k kinds ih =>
      simp only [readDeclaration] at h
      split at h
      next rest hrest =>
        split at h
        · cases h
        · cases h
          obtain ⟨front, c, rfl, hc⟩ := preceded_of_afterPhrase? kind.words_ne_nil hrest
          obtain ⟨behind, hbehind, hpart⟩ := exists_behind_nameOf rest
          refine ⟨solid_nameOf rest, front, c, behind, ?_, ?_, hc, hpart⟩
          · rw [← hbehind]
          · simp only [List.length_append, List.length_cons]
            omega
      next => exact ih h

/-- A name that is declared by keyword is bordered. -/
theorem bordered_of_declares {text : Text} {kind : Kind} {name : Token}
    (h : read text = .declares kind name) : Bordered name text := by
  rw [read] at h
  split at h
  · rw [readImport] at h
    split at h <;> cases h
  split at h
  · cases h
  · exact bordered_of_readDeclaration h

/-- An inherit statement starts with the mark, and what is inherited is read
from behind it. -/
theorem exists_of_read_inherits {text : Text} {found : Option (Token × Text)}
    (h : read text = .inherits found) : ∃ body, Text.trimStart text = '?' :: body ∧
      readInherit (text.length - body.length) body = found := by
  rw [read] at h
  split at h
  · rw [readImport] at h
    split at h <;> cases h
  split at h
  next body hbody => exact ⟨body, hbody, Statement.inherits.inj h⟩
  next =>
    rcases readDeclaration_cases text Kind.byKeyword with hother | ⟨_, _, _, hname⟩
    · rw [hother] at h
      cases h
    · rw [hname] at h
      cases h

/-- The name of an inherit statement stands behind the mark. -/
theorem le_offset_of_readInherit {indent : Nat} {body : Text} {name : Token} {target : Text}
    (h : readInherit indent body = some (name, target)) : indent ≤ name.offset := by
  simp only [readInherit] at h
  split at h
  · cases h
  split at h <;> cases h
  · exact Nat.le_add_right _ _
  · exact Nat.le_refl _

/-- No declared name starts with its statement. -/
theorem Declares.offset_pos {text : Text} {name : Token} (h : (read text).Declares name) :
    0 < name.offset := by
  generalize hread : read text = s at h
  cases h with
  | keyword kind name =>
      obtain ⟨-, front, c, behind, -, hoffset, -⟩ := bordered_of_declares hread
      omega
  | inherits name target =>
      obtain ⟨body, hbody, hfound⟩ := exists_of_read_inherits hread
      have hle := le_offset_of_readInherit hfound
      have hmark : '?' :: body <:+ text := hbody ▸ List.dropWhile_suffix _
      have hlength := hmark.length_le
      rw [List.length_cons] at hlength
      omega

/-- A statement declares one name at most. -/
theorem Declares.unique {s : Statement} {name name' : Token} (h : s.Declares name)
    (h' : s.Declares name') : name = name' := by
  cases h <;> cases h' <;> rfl

end Statement

/-! ### Where comments meet code -/

namespace Comment

/-- Two characters in a row, with their marks. Where a comment begins or ends
between them, the one on the side of the comment is a slash, or it is a line
comment that ends with its line. -/
def Meets (a b : Char × Bool) : Prop :=
  (a.2 = false → b.2 = true → b.1 = '/') ∧ (a.2 = true → b.2 = false → a.1 = '/' ∨ b.1 = '\n')

/-- How marks start from a state. -/
def StartsFrom : CommentState → Char × Bool → Prop
  | .code, m => m.2 = true → m.1 = '/'
  | .line, m => m.2 = false → m.1 = '\n'
  | .block, m => m.2 = true

/-- The marks of a text start as its state says. -/
theorem startsFrom_mark (state : CommentState) (t : Text) :
    ∀ m ∈ (mark state t).head?, StartsFrom state m := by
  fun_cases mark state t with
  | case1 => simp
  | _ => simp_all [StartsFrom]

/-- A character in front of marks that start from a state. -/
theorem isChain_cons_mark {m : Char × Bool} {state : CommentState} {t : Text}
    (hmeets : ∀ b, StartsFrom state b → Meets m b) (h : (mark state t).IsChain Meets) :
    (m :: mark state t).IsChain Meets :=
  List.isChain_cons.2 ⟨fun b hb => hmeets b (startsFrom_mark state t b hb), h⟩

/-- A character of a comment with another one behind it. -/
theorem Meets.covered (c : Char) {b : Char × Bool} (h : b.2 = true) : Meets (c, true) b :=
  ⟨fun hcode => Bool.noConfusion hcode, fun _ hcode => Bool.noConfusion (h.symm.trans hcode)⟩

/-- A slash of a comment with anything behind it. -/
theorem Meets.slash (b : Char × Bool) : Meets ('/', true) b :=
  ⟨fun hcode => Bool.noConfusion hcode, fun _ _ => Or.inl rfl⟩

/-- Comments begin with a slash and end with one or with their line. -/
theorem isChain_mark (state : CommentState) (t : Text) : (mark state t).IsChain Meets := by
  -- What comes next starts as the state behind the character says.
  fun_induction mark state t with
  | case1 => exact List.isChain_nil
  | case2 cs ih =>
      exact List.isChain_cons_cons.2 ⟨.slash _, isChain_cons_mark (fun b _ => .slash b) ih⟩
  | case3 cs ih =>
      exact List.isChain_cons_cons.2 ⟨.slash _, isChain_cons_mark (fun b h => .covered _ h) ih⟩
  | case4 c cs _ _ ih =>
      exact isChain_cons_mark (fun b h => ⟨fun _ => h, fun hcode => Bool.noConfusion hcode⟩) ih
  | case5 cs ih =>
      exact List.isChain_cons_cons.2 ⟨.covered _ rfl, isChain_cons_mark (fun b _ => .slash b) ih⟩
  | case6 c cs _ ih => exact isChain_cons_mark (fun b h => .covered c h) ih
  | case7 cs ih =>
      exact isChain_cons_mark (fun b h => ⟨fun _ => h, fun hcode => Bool.noConfusion hcode⟩) ih
  | case8 c cs _ ih =>
      refine isChain_cons_mark (fun b h => ⟨fun hcode => Bool.noConfusion hcode, ?_⟩) ih
      exact fun _ hcode => Or.inr (h hcode)

/-- The first line of a marked text is its start. -/
theorem headD_markedLines_isPrefix (ms : MarkedText) : (markedLines ms).headD [] <+: ms := by
  fun_induction markedLines ms with
  | case1 => exact List.nil_prefix
  | case2 => exact List.nil_prefix
  | case3 => exact List.nil_prefix
  | case4 m ms _ _ ih =>
      cases hlines : markedLines ms with
      | nil => exact ⟨ms, rfl⟩
      | cons line rest =>
          rw [hlines] at ih
          exact List.cons_prefix_cons.2 ⟨rfl, ih⟩

/-- A line of a marked text is a part of it. -/
theorem isInfix_of_mem_markedLines {ms line : MarkedText} (h : line ∈ markedLines ms) :
    line <:+: ms := by
  fun_induction markedLines ms with
  | case1 => cases h
  | case2 covered ms ih =>
      rcases List.mem_cons.1 h with rfl | h
      · exact List.nil_infix
      · exact (ih h).trans (List.suffix_cons _ _).isInfix
  | case3 covered covered' ms ih =>
      rcases List.mem_cons.1 h with rfl | h
      · exact List.nil_infix
      · exact (ih h).trans (List.suffix_append [('\r', covered), ('\n', covered')] ms).isInfix
  | case4 m ms hfeed hreturn ih =>
      have hfirst := headD_markedLines_isPrefix ms
      cases hlines : markedLines ms with
      | nil =>
          rw [hlines, prepend, List.mem_singleton] at h
          exact h ▸ (List.prefix_append [m] ms).isInfix
      | cons first rest =>
          rw [hlines, prepend, List.mem_cons] at h
          rw [hlines] at ih hfirst
          rcases h with rfl | h
          · exact (List.cons_prefix_cons.2 ⟨rfl, hfirst⟩ : m :: first <+: m :: ms).isInfix
          · exact (ih (List.mem_cons_of_mem _ h)).trans (List.suffix_cons m ms).isInfix

/-- A text without white space on a clean line stands on the line as it was
written. What is written beside it shows on the clean line or is a slash. -/
theorem exists_written_around {source : Text} {line : CleanLine} (hline : line ∈ cleanLines source)
    {before t after : Text} (htext : line.text = before ++ t ++ after) (hne : t ≠ [])
    (hsolid : ∀ c ∈ t, Text.isBlank c = false) :
    ∃ front back, (Text.lines source)[line.number - 1]? = some (front ++ t ++ back) ∧
      front.length = before.length ∧ (∀ c ∈ front.getLast?, c = '/' ∨ c ∈ before.getLast?) ∧
      ∀ c ∈ back.head?, c = '/' ∨ c ∈ after.head? := by
  have hspace : ' ' ∉ t := fun hmem => Bool.noConfusion (hsolid ' ' hmem)
  have hfeed : '\n' ∉ t := fun hmem => Bool.noConfusion (hsolid '\n' hmem)
  obtain ⟨-, front, back, hms, rfl, rfl⟩ := exists_marked_around hline htext hspace
  obtain ⟨above, below, hall⟩ := isInfix_of_mem_markedLines (List.mem_of_getElem? hms)
  have hchain := isChain_mark .code source
  rw [← hall] at hchain
  have hline := (List.isChain_append.1 (List.isChain_append.1 hchain).1).2.1
  obtain ⟨hfront, -, hbehind⟩ := List.isChain_append.1 hline
  obtain ⟨-, -, hahead⟩ := List.isChain_append.1 hfront
  refine ⟨front.map Prod.fst, back.map Prod.fst, ?_, by simp, ?_, ?_⟩
  · rw [getElem?_lines hms, List.map_append, List.map_append, List.map_map]
    exact congrArg (fun t => some (_ ++ t ++ _)) (List.map_id t)
  · intro c hc
    rw [List.getLast?_map] at hc ⊢
    obtain ⟨⟨_, covered⟩, hm, rfl⟩ := Option.mem_map.1 hc
    cases covered with
    | false => exact Or.inr (Option.mem_map_of_mem shown hm)
    | true =>
        -- The first character of the text ends no line, so the comment does.
        obtain ⟨first, rest, rfl⟩ := List.exists_cons_of_ne_nil hne
        have hmeets := (hahead _ hm (first, false) rfl).2 rfl rfl
        refine Or.inl (hmeets.resolve_right ?_)
        rintro rfl
        exact hfeed List.mem_cons_self
  · intro c hc
    rw [List.head?_map] at hc ⊢
    obtain ⟨⟨_, covered⟩, hm, rfl⟩ := Option.mem_map.1 hc
    cases covered with
    | false => exact Or.inr (Option.mem_map_of_mem shown hm)
    | true =>
        have hlast : (t.getLast hne, false) ∈ (front ++ t.map fun c => (c, false)).getLast? := by
          rw [List.getLast?_append, List.getLast?_map, List.getLast?_eq_getLast_of_ne_nil hne]
          rfl
        exact Or.inl ((hbehind _ hlast _ hm).1 rfl rfl)

end Comment

/-! ### In the file -/

/-- A declaration was made by the keyword of its kind. -/
def Declaration.KeywordedIn (e : Declaration) (events : List (Nat × Event)) : Prop :=
  ∃ (text : Text) (column : Nat) (terminated : Bool) (name : Token),
    (e.line, .statement text column 0 terminated) ∈ events ∧
      Statement.read text = .declares e.kind name ∧
      e.name = name.text ∧ e.column = column + name.offset

/-- It was among more events as well. -/
theorem Declaration.KeywordedIn.mono {e : Declaration} {events more : List (Nat × Event)}
    (h : e.KeywordedIn events) (hsub : events ⊆ more) : e.KeywordedIn more := by
  obtain ⟨text, column, terminated, name, hevent, hread⟩ := h
  exact ⟨text, column, terminated, name, hsub hevent, hread⟩

namespace Draft

/-- What an event declares is an inherit statement's or made by keyword. -/
theorem keyworded_of_added? {d : Draft} {event : Nat × Event} {new : Declaration}
    (h : d.added? event = some new) (hkind : new.kind ≠ .inherit) : new.KeywordedIn [event] := by
  obtain ⟨line, event⟩ := event
  cases event with
  | opening column => cases h
  | closing column => cases h
  | statement text column depth terminated =>
      cases depth with
      | succ depth => cases h
      | zero =>
          simp only [added?] at h
          split at h
          next name target _ =>
            cases h
            exact absurd rfl hkind
          next kind name hread =>
            cases h
            exact ⟨text, column, terminated, name, by simp [declaration], hread, rfl, rfl⟩
          next => cases h

/-- All declarations but those of inherit statements are made by keyword. -/
theorem keyworded_after (file : Path) (events : List (Nat × Event)) :
    ∀ e ∈ (after file events).declarations, e.kind ≠ .inherit → e.KeywordedIn events := by
  intro e he hkind
  obtain ⟨d, event, new, hevent, hadded, hextends⟩ := exists_added_after file events e he
  have hmade := (keyworded_of_added? hadded (hextends.kind ▸ hkind)).mono
    (List.cons_subset.2 ⟨hevent, List.nil_subset events⟩)
  rwa [Declaration.KeywordedIn, ← hextends.name, ← hextends.kind, ← hextends.line,
    ← hextends.columns.1] at hmade

end Draft

/-- A declaration stands on its line as it was written, and what stands beside
its name belongs neither to a word nor to a reference. -/
def Declaration.Bordered (e : Declaration) (source : Text) : Prop :=
  ∃ front back, (Text.lines source)[e.line - 1]? = some (front ++ e.name ++ back) ∧
    e.column = front.length + 1 ∧
    (∀ c ∈ front.getLast?, Word.isPart c = false ∧ c ≠ sigil) ∧
    ∀ c ∈ back.head?, Word.isPart c = false

/-- A name that is declared by keyword is bordered. -/
theorem Declaration.KeywordedIn.bordered {e : Declaration} {source : Text}
    (h : e.KeywordedIn (Event.ofLines 0 (Comment.cleanLines source))) : e.Bordered source := by
  obtain ⟨text, column, terminated, name, hevent, hread, hname, hcolumn⟩ := h
  obtain ⟨line, hline, hnumber, before, after, hplace, hstart, hstops⟩ :=
    Event.placedIn_of_mem_ofLines hevent
  obtain ⟨hsolid, ahead, c, behind, rfl, hoffset, hblank, hbehind⟩ :=
    Statement.bordered_of_declares hread
  have hne : name.text ≠ [] := by
    have hnames := Statement.namesStandIn_read (ahead ++ c :: (name.text ++ behind))
    rw [hread] at hnames
    exact hnames.2.1
  have htext : line.text = (before ++ (ahead ++ [c])) ++ name.text ++ (behind ++ after) := by
    rw [hplace, Event.text]
    simp only [List.append_assoc, List.cons_append, List.nil_append]
  obtain ⟨front, back, hwritten, hlength, hfront, hback⟩ :=
    Comment.exists_written_around hline htext hne hsolid
  refine ⟨front, back, ?_, ?_, ?_, ?_⟩
  · rw [hname, ← hwritten, hnumber]
  · have hcolumn' : column = before.length + 1 := hstart
    rw [hcolumn, hoffset, hlength, hcolumn']
    simp only [List.length_append, List.length_singleton]
    omega
  · intro b hb
    rcases hfront b hb with rfl | hshown
    · exact ⟨Word.isPart_slash, by decide⟩
    · -- On the clean line the white space behind the phrase is in front.
      rw [← List.append_assoc, List.getLast?_concat, Option.mem_some_iff] at hshown
      subst hshown
      refine ⟨Statement.isPart_of_isBlank hblank, ?_⟩
      rintro rfl
      exact Bool.noConfusion hblank
  · intro b hb
    rcases hback b hb with rfl | hshown
    · exact Word.isPart_slash
    · rw [List.head?_append, Option.mem_def, Option.or_eq_some_iff] at hshown
      rcases hshown with hshown | ⟨-, hshown⟩
      · exact hbehind b hshown
      · have hstop : b = '{' ∨ b = '}' ∨ b = ';' := hstops b hshown
        refine Statement.isPart_of_isNameEnd ?_
        rcases hstop with rfl | rfl | rfl <;> decide

/-- Every name of a file that is declared by keyword is bordered. -/
theorem Declaration.bordered_read {file : Path} {source : Text} {e : Declaration}
    (he : e ∈ (Outline.read file source).declarations) (hkind : e.kind ≠ .inherit) :
    e.Bordered source :=
  (Draft.keyworded_after file.normalize _ e he hkind).bordered

/-! ### Names apart -/

/-- Of two members of a list in order, one comes first unless they are one. -/
theorem eq_or_of_pairwise {α : Type} {before : α → α → Prop} {xs : List α}
    (h : xs.Pairwise before) {x y : α} (hx : x ∈ xs) (hy : y ∈ xs) :
    x = y ∨ before x y ∨ before y x := by
  refine List.Pairwise.forall_of_forall_of_flip (R := fun x y => x = y ∨ before x y ∨ before y x)
    ?_ ?_ ?_ hx hy
  · exact fun x _ => Or.inl rfl
  · exact h.imp fun hxy => Or.inr (Or.inl hxy)
  · exact h.imp fun hxy => Or.inr (Or.inr hxy)

/-- A declaration stands inside an event, behind its first character. -/
def Declaration.DeepIn (e : Declaration) (event : Nat × Event) : Prop :=
  e.line = event.1 ∧ event.2.column < e.column ∧ e.endColumn ≤ event.2.endColumn

/-- The name that an event declares stands behind its first character. -/
theorem Declaration.ReadFrom.deepIn {e : Declaration} {event : Nat × Event}
    (h : e.ReadFrom [event]) : e.DeepIn event := by
  obtain ⟨text, column, terminated, name, hevent, hname, hsame, hcolumn⟩ := h
  obtain rfl := List.mem_singleton.1 hevent
  have hoffset := hname.offset_pos
  have hlength := hname.standsIn.offset_add_length_le
  refine ⟨rfl, ?_, ?_⟩
  · show column < e.column
    omega
  · show e.column + e.name.length ≤ column + text.length
    rw [hsame]
    omega

/-- An event declares one name at most, in one place. -/
theorem Declaration.ReadFrom.unique {d e : Declaration} {event : Nat × Event}
    (hd : d.ReadFrom [event]) (he : e.ReadFrom [event]) : d.column = e.column := by
  obtain ⟨text, column, terminated, name, hevent, hname, -, hcolumn⟩ := hd
  obtain ⟨text', column', terminated', name', hevent', hname', -, hcolumn'⟩ := he
  obtain rfl := List.mem_singleton.1 hevent
  obtain ⟨-, hsame⟩ := Prod.mk.inj (List.mem_singleton.1 hevent')
  cases hsame
  rw [hcolumn, hcolumn', hname.unique hname']

/-- What is read from events is read from one of them. -/
theorem Declaration.ReadFrom.exists_event {e : Declaration} {events : List (Nat × Event)}
    (h : e.ReadFrom events) : ∃ event ∈ events, e.ReadFrom [event] := by
  obtain ⟨text, column, terminated, name, hevent, hname⟩ := h
  exact ⟨_, hevent, text, column, terminated, name, List.mem_singleton_self _, hname⟩

section Apart

variable {file : Path} {source : Text} {d e : Declaration}
  (hd : d ∈ (Outline.read file source).declarations)
  (he : e ∈ (Outline.read file source).declarations)

include hd he

/-- No name starts where another one ends: what introduces a name stands in
between. -/
theorem Declaration.endColumn_ne_column (hline : d.line = e.line) : d.endColumn ≠ e.column := by
  obtain ⟨a, ha, hda⟩ := ((Outline.readFrom_read file source).names d hd).exists_event
  obtain ⟨b, hb, heb⟩ := ((Outline.readFrom_read file source).names e he).exists_event
  obtain ⟨hdline, hdstart, hdend⟩ := hda.deepIn
  obtain ⟨heline, hestart, heend⟩ := heb.deepIn
  have hname : 0 < d.name.length :=
    List.length_pos_iff.2 ((Outline.wellNested_read file source).named d hd)
  have hlong : d.endColumn = d.column + d.name.length := rfl
  have hshort : e.column ≤ e.endColumn := Nat.le_add_right _ _
  -- The two events are one, or one of them precedes the other.
  rcases eq_or_of_pairwise (Event.pairwise_precedes_cleanLines source) ha hb with
    rfl | hab | hba
  · have hsame := hda.unique heb
    omega
  · rcases hab with hlt | ⟨-, hle⟩ <;> omega
  · rcases hba with hlt | ⟨-, hle⟩ <;> omega

/-- A place on a line is touched by one name at most. -/
theorem Declaration.eq_of_touched (hline : d.line = e.line) {column : Nat}
    (hdtouched : d.column ≤ column ∧ column ≤ d.endColumn)
    (hetouched : e.column ≤ column ∧ column ≤ e.endColumn) : d = e := by
  have hapart := Declaration.endColumn_ne_column hd he hline
  have hapart' := Declaration.endColumn_ne_column he hd hline.symm
  rcases eq_or_of_pairwise (Outline.pairwise_precedes_read file source) hd he with
    rfl | hde | hed
  · rfl
  · rcases hde with hlt | ⟨-, hle⟩ <;> omega
  · rcases hed with hlt | ⟨-, hle⟩ <;> omega

end Apart

end DefIndex
