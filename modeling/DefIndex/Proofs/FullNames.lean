import DefIndex.Proofs.Blanking
import DefIndex.Proofs.Inherited

/-!
# `DefIndex.Proofs.FullNames`: a full name as a reference

A name is cut off where it is declared, at white space or an opening
parenthesis, or at the end of its statement. A term is cut off where it is
used, at any of eight marks or white space. This file follows what a name
can hold from the statement through splicing to the full name, and reads the
full name back from behind the mark of a reference.

Nothing on the way puts white space, a brace, an opening parenthesis or the
mark of a comment into a full name. What is left are the four characters of
`nameOnly`, which a name declared by keyword may hold and which end a term.
A full name with one of them is never found.

* `Nameable` is what all full names are. `Event.unbraced_of_mem_ofLines` and
  `Outline.nameable_read` prove it of the names of a file.
* `Table.build_induction` carries a statement from the top of a table down.
* `Term.map_snd_scan` are the terms of any text.
* `Definition.addressed_build` reads the full names of a table.
* `Definition.unaddressed_commaSources` is one that is not found.
-/

set_option autoImplicit false

namespace DefIndex

/-! ### What a name can hold -/

/-- What every name is made of: no white space, no opening parenthesis and no
brace. No comment opens in it. -/
structure Nameable (t : Text) : Prop where
  solid : ∀ c ∈ t, Text.isBlank c = false
  closed : '(' ∉ t
  unbraced : ∀ c ∈ t, Braces.isBrace c = false
  unmarked : Comment.Unmarked t

/-- The characters that a name can hold and a term cannot. -/
def nameOnly : List Char := [')', ',', ';', sigil]

/-- These characters end a term. -/
theorem ends_of_mem_nameOnly {c : Char} (h : c ∈ nameOnly) : Term.ends c = true := by
  have hall : nameOnly.all Term.ends = true := by decide
  exact List.all_eq_true.1 hall c h

/-- No other characters of a name do. -/
theorem Nameable.mem_nameOnly {t : Text} (h : Nameable t) {c : Char} (hc : c ∈ t)
    (hends : Term.ends c = true) : c ∈ nameOnly := by
  rw [Term.ends, h.solid c hc, Bool.false_or, List.contains_iff_mem] at hends
  have hbrace := h.unbraced c hc
  simp only [nameOnly, List.mem_cons, List.not_mem_nil, or_false] at hends ⊢
  rcases hends with rfl | rfl | rfl | rfl | rfl | rfl | rfl
  · exact absurd hc h.closed
  · exact Or.inl rfl
  · exact absurd hbrace (by decide)
  · exact absurd hbrace (by decide)
  · exact Or.inr (Or.inl rfl)
  · exact Or.inr (Or.inr (Or.inl rfl))
  · exact Or.inr (Or.inr (Or.inr rfl))

/-- A name can be read as a term if it holds none of them. -/
theorem Nameable.ends_iff {t : Text} (h : Nameable t) :
    (∀ c ∈ t, Term.ends c = false) ↔ ∀ c ∈ nameOnly, c ∉ t := by
  constructor
  · intro hsolid c hc hmem
    exact Bool.noConfusion ((hsolid c hmem).symm.trans (ends_of_mem_nameOnly hc))
  · intro hnone c hc
    by_contra hends
    exact hnone c (h.mem_nameOnly hc (Bool.not_eq_false _ ▸ hends)) hc

namespace Comment

/-- A part of a text in which no comment opens. -/
theorem Unmarked.of_infix {s t : Text} (h : Unmarked t) (hs : s <:+: t) : Unmarked s :=
  ⟨fun hline => h.line (hline.trans hs), fun hblock => h.block (hblock.trans hs)⟩

/-- No comment opens around a character that is neither a slash nor a star. -/
theorem unmarked_append_cons {a b : Text} (ha : Unmarked a) (hb : Unmarked b) {c : Char}
    (hslash : c ≠ '/') (hstar : c ≠ '*') : Unmarked (a ++ c :: b) := by
  induction a with
  | nil =>
      refine unmarked_cons.2 ⟨fun hline => ?_, fun hblock => ?_, hb⟩
      · exact hslash (List.cons_prefix_cons.1 hline).1.symm
      · exact hslash (List.cons_prefix_cons.1 hblock).1.symm
  | cons x xs ih =>
      obtain ⟨hline, hblock, hxs⟩ := unmarked_cons.1 ha
      -- What is behind the first character is a character of `xs` or `c`.
      have hfirst {second : Char} (hne : c ≠ second) (h : ¬ ['/', second] <+: x :: xs) :
          ¬ ['/', second] <+: x :: (xs ++ c :: b) := by
        intro hmark
        obtain ⟨rfl, hsecond⟩ := List.cons_prefix_cons.1 hmark
        cases xs with
        | nil => exact hne (List.cons_prefix_cons.1 hsecond).1.symm
        | cons y ys =>
            obtain ⟨rfl, -⟩ := List.cons_prefix_cons.1 hsecond
            exact h (by simp)
      exact unmarked_cons.2 ⟨hfirst hslash hline, hfirst hstar hblock, ih hxs⟩

end Comment

/-- A character of a qualified name is a dot or belongs to one of the two. -/
theorem mem_qualify {context name : Text} {c : Char} (h : c ∈ qualify context name) :
    c ∈ context ∨ c = '.' ∨ c ∈ name := by
  rw [qualify] at h
  split at h
  · exact Or.inr (Or.inr h)
  · simpa using h

/-- Qualifying a name keeps what names are made of. -/
theorem Nameable.qualify {context name : Text} (hcontext : Nameable context)
    (hname : Nameable name) : Nameable (qualify context name) where
  solid c hc := by
    rcases mem_qualify hc with hc | rfl | hc
    · exact hcontext.solid c hc
    · decide
    · exact hname.solid c hc
  closed hc := by
    rcases mem_qualify hc with hc | hc | hc
    · exact hcontext.closed hc
    · exact absurd hc (by decide)
    · exact hname.closed hc
  unbraced c hc := by
    rcases mem_qualify hc with hc | rfl | hc
    · exact hcontext.unbraced c hc
    · decide
    · exact hname.unbraced c hc
  unmarked := by
    rw [DefIndex.qualify]
    split
    · exact hname.unmarked
    · exact Comment.unmarked_append_cons hcontext.unmarked hname.unmarked (by decide) (by decide)

/-! ### In a file -/

namespace Event

/-- A statement holds no brace. -/
def Unbraced : Event → Prop
  | statement text _ _ _ => ∀ c ∈ text, Braces.isBrace c = false
  | _ => True

/-- A finished piece holds no brace if the piece has read none. -/
theorem Piece.unbraced_of_mem_finish {p : Piece} (h : ∀ c ∈ p.reversed, Braces.isBrace c = false)
    {terminated : Bool} {e : Event} (he : e ∈ p.finish terminated) : e.Unbraced := by
  rw [Piece.finish] at he
  split at he
  · rw [List.mem_singleton.1 he]
    exact fun c hc => h c (List.mem_reverse.1 hc)
  · cases he

/-- Every brace of a line is an event of its own. -/
theorem unbraced_splitFrom {column depth : Nat} {piece : Piece} {rest : Text}
    (hpiece : ∀ c ∈ piece.reversed, Braces.isBrace c = false) {e : Event}
    (he : e ∈ (splitFrom column depth piece rest).1) : e.Unbraced := by
  induction rest generalizing column depth piece with
  | nil => exact Piece.unbraced_of_mem_finish hpiece he
  | cons c cs ih =>
      have hfresh (column depth : Nat) :
          ∀ b ∈ (Piece.start column depth).reversed, Braces.isBrace b = false := by
        intro b hb
        cases hb
      have hpush (hopening : c ≠ '{') (hclosing : c ≠ '}') :
          ∀ b ∈ (piece.push c).reversed, Braces.isBrace b = false := by
        refine List.forall_mem_cons.2 ⟨?_, hpiece⟩
        simp [Braces.isBrace, hopening, hclosing]
      simp only [splitFrom, lead] at he
      split at he
      · simp only [List.mem_append, List.mem_singleton] at he
        rcases he with (he | rfl) | he
        · exact Piece.unbraced_of_mem_finish hpiece he
        · trivial
        · exact ih (hfresh _ _) he
      next hopening =>
        split at he
        · simp only [List.mem_append, List.mem_singleton] at he
          rcases he with (he | rfl) | he
          · exact Piece.unbraced_of_mem_finish hpiece he
          · trivial
          · exact ih (hfresh _ _) he
        next hclosing =>
          split at he
          · rcases List.mem_append.1 he with he | he
            · exact Piece.unbraced_of_mem_finish hpiece he
            · exact ih (hfresh _ _) he
          split at he
          · exact ih (hpush hopening hclosing) he
          split at he
          · exact ih (hpush hopening hclosing) he
          · exact ih (hpush hopening hclosing) he

/-- The statements of a file hold no brace. -/
theorem unbraced_of_mem_ofLines {depth : Nat} {lines : List CleanLine} {e : Nat × Event}
    (h : e ∈ ofLines depth lines) : e.2.Unbraced := by
  induction lines generalizing depth with
  | nil => cases h
  | cons line rest ih =>
      simp only [ofLines, List.mem_append, List.mem_map] at h
      rcases h with ⟨event, hevent, rfl⟩ | h
      · exact unbraced_splitFrom (by simp [Piece.start]) hevent
      · exact ih h

end Event

namespace Statement

/-- The name of an inherit statement is a dotted name. -/
theorem isDotted_of_readInherit {indent : Nat} {body : Text} {name : Token} {target : Text}
    (h : readInherit indent body = some (name, target)) : ∀ c ∈ name.text, isDotted c = true := by
  intro c hc
  simp only [readInherit] at h
  split at h
  · cases h
  split at h
  next t _ =>
    cases h
    rw [isDotted, List.mem_takeWhile_imp hc, Bool.true_or]
  next =>
    cases h
    exact List.mem_takeWhile_imp ((Text.dropEndWhile_isPrefix _ _).subset hc)

/-- A name declared by keyword holds no opening parenthesis. -/
theorem closed_nameOf (rest : Text) : '(' ∉ nameOf rest := by
  intro hmem
  have hrun := List.mem_takeWhile_imp ((Text.dropEndWhile_isPrefix _ _).subset hmem)
  simp at hrun

/-- A declared name holds neither white space nor an opening parenthesis. -/
theorem Declares.solid {text : Text} {name : Token} (h : (read text).Declares name) :
    (∀ c ∈ name.text, Text.isBlank c = false) ∧ '(' ∉ name.text := by
  generalize hread : read text = s at h
  cases h with
  | inherits name target =>
      obtain ⟨body, -, hfound⟩ := exists_of_read_inherits hread
      have hdotted := isDotted_of_readInherit hfound
      refine ⟨fun c hc => Term.isBlank_of_ends (ends_of_isDotted (hdotted c hc)), fun hmem => ?_⟩
      exact absurd (ends_of_isDotted (hdotted _ hmem)) (by decide)
  | keyword kind name =>
      refine ⟨(bordered_of_declares hread).1, ?_⟩
      rw [read] at hread
      split at hread
      · rw [readImport] at hread
        split at hread <;> cases hread
      split at hread
      · cases hread
      · rcases readDeclaration_cases text Kind.byKeyword with hother | ⟨k, rest, offset, hname⟩
        · rw [hother] at hread
          cases hread
        · rw [hname] at hread
          cases hread
          exact closed_nameOf rest

end Statement

/-- The names of a file are made of what names are made of. -/
theorem Outline.nameable_read {file : Path} {source : Text} {e : Declaration}
    (he : e ∈ (Outline.read file source).declarations) : Nameable e.name := by
  obtain ⟨text, column, terminated, name, hevent, hdeclares, hname, -⟩ :=
    (Outline.readFrom_read file source).names e he
  obtain ⟨line, hline, -, before, after, htext, -⟩ := Event.placedIn_of_mem_ofLines hevent
  obtain ⟨front, back, hstands, -⟩ := hdeclares.standsIn
  obtain ⟨hsolid, hclosed⟩ := hdeclares.solid
  have hpart : name.text <:+: text := ⟨front, back, hstands.symm⟩
  have hshown : line.text ∈ Comment.cleanTexts .code (Text.lines source) := by
    rw [← Comment.map_text_cleanLines]
    exact List.mem_map_of_mem hline
  have hunmarked := Comment.unmarked_of_mem_cleanTexts hshown
  rw [hname]
  refine ⟨hsolid, hclosed, fun c hc => ?_, hunmarked.of_infix (hpart.trans ?_)⟩
  · exact Event.unbraced_of_mem_ofLines hevent c (hpart.subset hc)
  · exact ⟨before, after, htext.symm⟩

/-- The name of an inherit statement can be read as a term. -/
theorem Outline.ends_of_inherit {file : Path} {source : Text} {e : Declaration}
    (he : e ∈ (Outline.read file source).declarations) (hkind : e.kind = .inherit) :
    ∀ c ∈ e.name, Term.ends c = false := by
  rcases Draft.inherited_after file.normalize _ e he with ⟨-, hinherited⟩ | ⟨hother, -⟩
  · obtain ⟨text, column, terminated, name, target, -, hread, -, hname, -⟩ := hinherited
    obtain ⟨body, -, hfound⟩ := Statement.exists_of_read_inherits hread
    rw [hname]
    exact fun c hc => Statement.ends_of_isDotted (Statement.isDotted_of_readInherit hfound c hc)
  · exact absurd hkind hother

/-! ### In a table -/

namespace Table

section Build

variable {sources : List (Path × Text)} {t : Table}
  (hbuild : Table.build (outlinesOf sources) = .ok t)

include hbuild

/-- A definition is named like a declaration of some file, and is of its kind. -/
theorem exists_declaration_build {d : Definition} (hd : d ∈ t.definitions) :
    ∃ source ∈ sources, ∃ e ∈ (Outline.read source.1 source.2).declarations,
      d.name = e.name ∧ d.kind = e.kind := by
  obtain ⟨forest, hforest, rfl⟩ := spliceAll_of_build_ok hbuild
  rw [definitions_foldl_push] at hd
  obtain ⟨node, hnode, hsubtree⟩ := exists_subtree_definitionsOf hd
  obtain ⟨o, ho, ix, -, hfound, -⟩ :=
    nodeOf_of_spliceAll wellNested_of_mem_inOrder hforest node hnode
  obtain ⟨source, hsource, rfl⟩ := List.mem_map.1 ((inOrder_perm _).mem_iff.1 ho)
  refine ⟨source, hsource, node.2.1, List.mem_of_getElem? hfound, ?_, ?_⟩ <;>
    (rw [hsubtree.eq_instantiate]; rfl)

/-- What holds of the definitions at the top, and below a definition of which
it holds, holds of all. -/
theorem build_induction {motive : Definition → Prop}
    (top : ∀ d ∈ t.definitions, d.fullName = d.name → motive d)
    (below : ∀ d ∈ t.definitions, ∀ e ∈ t.definitions, motive e →
      d.fullName = qualify e.fullName d.name → motive d) :
    ∀ d ∈ t.definitions, motive d := by
  obtain ⟨forest, -, rfl⟩ := spliceAll_of_build_ok hbuild
  rw [definitions_foldl_push] at top below ⊢
  -- A definition stands behind the one above it.
  intro d hd
  induction hid : d.id using Nat.strong_induction_on generalizing d with
  | h id ih =>
      have hname := fullName_of_mem_definitionsOf hd
      rcases above_of_mem_definitionsOf hd with ⟨-, hcontext⟩ | ⟨e, he, hlt, -, hcontext⟩
      · rw [hcontext] at hname
        exact top d hd hname
      · rw [hcontext] at hname
        have hmem := List.mem_of_getElem? he
        exact below d hd e hmem (ih e.id (hid ▸ hlt) e hmem rfl) hname

/-- Every full name is made of what names are made of. -/
theorem nameable_build : ∀ d ∈ t.definitions, Nameable d.fullName := by
  have hname {d : Definition} (hd : d ∈ t.definitions) : Nameable d.name := by
    obtain ⟨source, -, e, he, hsame, -⟩ := exists_declaration_build hbuild hd
    exact hsame ▸ Outline.nameable_read he
  refine build_induction hbuild (fun d hd htop => ?_) fun d hd e _ he hbelow => ?_
  · rw [htop]
    exact hname hd
  · rw [hbelow]
    exact he.qualify (hname hd)

/-- What ends a term comes into a full name by a name that is declared by
keyword. -/
theorem exists_keyword_of_ends : ∀ d ∈ t.definitions, ∀ c ∈ d.fullName, Term.ends c = true →
    ∃ e ∈ t.definitions, e.kind ≠ .inherit ∧ c ∈ e.name ∧ e.fullName <+: d.fullName := by
  have hname {d : Definition} (hd : d ∈ t.definitions) {c : Char} (hc : c ∈ d.name)
      (hends : Term.ends c = true) : d.kind ≠ .inherit := by
    obtain ⟨source, -, e, he, hsame, hkind⟩ := exists_declaration_build hbuild hd
    intro hinherit
    have hsolid := Outline.ends_of_inherit he (hkind ▸ hinherit) c (hsame ▸ hc)
    rw [hends] at hsolid
    cases hsolid
  refine build_induction hbuild (fun d hd htop c hc hends => ?_)
    fun d hd e _ he hbelow c hc hends => ?_
  · rw [htop] at hc
    exact ⟨d, hd, hname hd hc hends, hc, List.prefix_refl _⟩
  · rw [hbelow] at hc
    rcases mem_qualify hc with hc | rfl | hc
    · obtain ⟨f, hf, hkind, hcf, hstart⟩ := he c hc hends
      refine ⟨f, hf, hkind, hcf, hstart.trans ?_⟩
      rw [hbelow, qualify]
      split
      next hempty => rw [List.isEmpty_iff.1 hempty]; exact List.nil_prefix
      next => exact List.prefix_append _ _
    · exact absurd hends (by decide)
    · exact ⟨d, hd, hname hd hc hends, hc, List.prefix_refl _⟩

end Build

end Table

/-! ### A reference on a line of its own -/

namespace Term

/-- A run goes no further than to the first mark. -/
theorem run_head_cut {t piece : Text} {pieces : List Text} (h : Text.cut sigil t = piece :: pieces) :
    run piece = run t := by
  have hjoin := Text.join_cut sigil t
  rw [h] at hjoin
  cases pieces with
  | nil => exact congrArg run hjoin
  | cons next rest =>
      have hstep : piece ++ [sigil] ++ Text.join [sigil] (next :: rest) = t := hjoin
      rw [← hstep, List.append_assoc, List.singleton_append, run_append_sigil]

/-- A scan finds the runs behind the marks of a text, as far as they are not
empty. -/
theorem map_snd_scan (n : Nat) (t : Text) : (scan n t).map Prod.snd
    = ((Text.cut sigil t).tail.map run).filter (fun term => term ≠ []) := by
  induction t generalizing n with
  | nil => rfl
  | cons c cs ih =>
      rw [scan, Text.cut]
      cases hcut : Text.cut sigil cs with
      | nil => exact absurd hcut (Text.cut_ne_nil sigil cs)
      | cons piece pieces =>
          have hrest : (scan (n + 1) cs).map Prod.snd
              = (pieces.map run).filter (fun term => term ≠ []) := by
            rw [ih, hcut, List.tail_cons]
          have hrun := run_head_cut hcut
          by_cases hc : c = sigil
          · by_cases hne : run cs = []
            · simp [hc, hne, hrest, hrun]
            · simp [hc, hne, hrest, hrun]
          · simp [hc, hrest]

/-- So do the terms of a line. -/
theorem map_text_ofLine (file : Path) (line : CleanLine) : (ofLine file line).map Term.text
    = ((Text.cut sigil line.text).tail.map run).filter (fun term => term ≠ []) := by
  rw [ofLine, List.map_map]
  exact map_snd_scan 1 line.text

/-- No character of a term of clean lines ends a term. -/
theorem ends_of_mem_ofLines {file : Path} {lines : List CleanLine} {t : Term}
    (h : t ∈ ofLines file lines) : ∀ c ∈ t.text, ends c = false := by
  obtain ⟨line, -, hterm⟩ := List.mem_flatMap.1 h
  obtain ⟨column, ⟨-, hsolid, -⟩, -⟩ := mem_ofLine_iff.1 hterm
  exact hsolid

end Term

/-- A reference to a text as a file of its own. -/
def referenceTo (name : Text) : List CleanLine := Comment.cleanLines (sigil :: name)

/-- No comment opens in a reference to a name, and it is one line. -/
theorem Nameable.referenceTo_eq {name : Text} (h : Nameable name) :
    referenceTo name = [⟨1, sigil :: name⟩] := by
  have hfeed : '\n' ∉ sigil :: name := by
    rw [List.mem_cons, not_or]
    exact ⟨by decide, fun hmem => absurd (h.solid _ hmem) (by decide)⟩
  have hunmarked : ∀ t ∈ [sigil :: name], Comment.Unmarked t := by
    intro t ht
    rw [List.mem_singleton.1 ht]
    exact Comment.unmarked_append_cons Comment.unmarked_nil h.unmarked (by decide) (by decide)
  rw [referenceTo, Comment.cleanLines, Text.lines_of_unbroken hfeed (List.cons_ne_nil _ _),
    Comment.cleanFrom_of_unmarked hunmarked]
  rfl

/-- The one term of a reference to a name that can be read as a term. -/
theorem Nameable.ofLines_referenceTo {name : Text} (h : Nameable name) (hne : name ≠ [])
    (hnone : ∀ c ∈ nameOnly, c ∉ name) (file : Path) :
    Term.ofLines file (referenceTo name) = [⟨name, .span file 1 2 name.length⟩] := by
  have hstop : ∀ c ∈ ([] : Text).head?, Term.ends c = true := by simp
  have hscan := Term.scan_sigil 1 hne (h.ends_iff.2 hnone) hstop
  rw [List.append_nil] at hscan
  rw [h.referenceTo_eq, Term.ofLines, List.flatMap_singleton, Term.ofLine, hscan]
  rfl

namespace ReferenceIndex

/-- The one term of a file resolves if a definition answers to it. -/
theorem resolves_of_ofLines {t : Table} {file : Path} {lines : List CleanLine} {term : Term}
    (hcontains : t.contains term.text = true) (hlines : Term.ofLines file lines = [term]) :
    (build t [(file, lines)]).find term.text = [term.location] ∧ unresolved t file lines = [] := by
  have hall : termsOf [(file, lines)] = [term] := (List.flatMap_singleton _ _).trans hlines
  constructor
  · rw [find_build, defined, hall]
    simp [hcontains, sortBy, insertBy]
  · rw [unresolved, hlines]
    simp [hcontains]

/-- Nothing is recorded under a name with a character that ends a term. -/
theorem find_eq_nil_of_ends {t : Table} {name : Text} {c : Char} (hc : c ∈ name)
    (hends : Term.ends c = true) (files : List (Path × List CleanLine)) :
    (build t files).find name = [] := by
  refine List.eq_nil_iff_forall_not_mem.2 fun l hl => ?_
  obtain ⟨-, term, hterm, hname, -⟩ := mem_find_build.1 hl
  obtain ⟨file, -, hterm⟩ := List.mem_flatMap.1 hterm
  have hsolid := Term.ends_of_mem_ofLines hterm c (hname ▸ hc)
  rw [hends] at hsolid
  cases hsolid

end ReferenceIndex

/-- What a reference to the full name of a definition finds. -/
structure Definition.Addressed (d : Definition) (t : Table) (file : Path) : Prop where
  /-- The full name holds no white space, no opening parenthesis, no brace and no
  mark of a comment. -/
  nameable : Nameable d.fullName
  /-- The reference is read as it is written. -/
  line : referenceTo d.fullName = [⟨1, sigil :: d.fullName⟩]
  /-- Its terms are the runs of the parts between marks. -/
  terms : (Term.ofLines file (referenceTo d.fullName)).map Term.text
    = ((Text.cut sigil d.fullName).map Term.run).filter (fun term => term ≠ [])
  /-- Its one term is the full name, unless that holds one of four characters. -/
  whole : Term.ofLines file (referenceTo d.fullName)
      = [⟨d.fullName, .span file 1 2 d.fullName.length⟩] ↔ ∀ c ∈ nameOnly, c ∉ d.fullName
  /-- Such a character comes from a name that is declared by keyword. -/
  breaks : ∀ c ∈ nameOnly, c ∈ d.fullName →
    ∃ e ∈ t.definitions, e.kind ≠ .inherit ∧ c ∈ e.name ∧ e.fullName <+: d.fullName
  /-- Without one the reference resolves, unless the definition inherits itself. -/
  resolves : d.isSelfReference = false → (∀ c ∈ nameOnly, c ∉ d.fullName) →
    (ReferenceIndex.build t [(file, referenceTo d.fullName)]).find d.fullName
        = [.span file 1 2 d.fullName.length] ∧
      ReferenceIndex.unresolved t file (referenceTo d.fullName) = []
  /-- With one no reference of any files is recorded under the full name. -/
  missed : ∀ c ∈ nameOnly, c ∈ d.fullName →
    ∀ files, (ReferenceIndex.build t files).find d.fullName = []

/-- The full names of a table are found by references on lines of their own, all
but those that hold a character which no term can. -/
theorem Definition.addressed_build (sources : List (Path × Text)) (t : Table)
    (hbuild : Table.build (outlinesOf sources) = .ok t) (d : Definition) (hd : d ∈ t.definitions)
    (file : Path) : d.Addressed t file := by
  have hnameable := Table.nameable_build hbuild d hd
  have hne : d.fullName ≠ [] := Table.fullName_ne_nil_build hbuild hd
  have hline := hnameable.referenceTo_eq
  constructor
  case nameable => exact hnameable
  case line => exact hline
  case terms =>
    have hcut : Text.cut sigil (sigil :: d.fullName) = [] :: Text.cut sigil d.fullName :=
      Text.cut_append_cons [] d.fullName
    rw [hline, Term.ofLines, List.flatMap_singleton, Term.map_text_ofLine, hcut, List.tail_cons]
  case whole =>
    refine ⟨fun h => hnameable.ends_iff.1 ?_, fun hnone => ?_⟩
    · have hmem : ⟨d.fullName, .span file 1 2 d.fullName.length⟩
          ∈ Term.ofLines file (referenceTo d.fullName) := h ▸ List.mem_singleton_self _
      exact Term.ends_of_mem_ofLines hmem
    · exact hnameable.ofLines_referenceTo hne hnone file
  case breaks =>
    exact fun c hc hmem => Table.exists_keyword_of_ends hbuild d hd c hmem (ends_of_mem_nameOnly hc)
  case resolves =>
    intro hself hnone
    have hcontains : t.contains d.fullName = true := by
      rw [(Table.indexed_build hbuild).contains_eq_defines]
      exact List.any_eq_true.2 ⟨d, hd, Definition.answers_iff.2 ⟨hself, rfl⟩⟩
    exact ReferenceIndex.resolves_of_ofLines hcontains
      (hnameable.ofLines_referenceTo hne hnone file)
  case missed =>
    exact fun c hc hmem => ReferenceIndex.find_eq_nil_of_ends hmem (ends_of_mem_nameOnly hc)

/-- All four characters can stand in names. A semicolon does where it ends no
statement, inside parentheses. -/
example : (Outline.read (.parse "/ws/a.mql")
    "CREATE TAG a,b);\nCREATE TAG c?d;\nADD CONSTRUCTOR e(CREATE TAG f;g").declarations.map
      Declaration.name = (["a,b)", "c?d", "f;g"] : List Text) := by
  decide +kernel

/-- A block with an import, and a file with a name that holds a comma and one
that can be read as a term. -/
def commaSources : List (Path × Text) :=
  [(.parse "/ws/a.mql", "CREATE BASE Host { IMPORT lib; }"),
    (.parse "/ws/lib.mql", "CREATE TAG a,b;\nCREATE TAG Größe;")]

/-- What the table of these files says. -/
theorem exists_build_commaSources :
    ∃ t, Table.build (outlinesOf commaSources) = .ok t ∧
      (∃ d ∈ t.definitions, d.isSelfReference = false ∧ d.fullName = "Host.Größe") ∧
      ∃ d ∈ t.definitions, d.isSelfReference = false ∧ d.fullName = "Host.a,b" := by
  have hfacts : (Table.build (outlinesOf commaSources)).toOption.map (fun t : Table =>
      decide (∃ d ∈ t.definitions, d.isSelfReference = false ∧ d.fullName = "Host.Größe")
        && decide (∃ d ∈ t.definitions, d.isSelfReference = false ∧ d.fullName = "Host.a,b"))
      = some true := by
    decide +kernel
  obtain ⟨t, hbuild, hfacts⟩ := exists_ok_of_toOption hfacts
  rw [Bool.and_eq_true, decide_eq_true_eq, decide_eq_true_eq] at hfacts
  exact ⟨t, hbuild, hfacts.1, hfacts.2⟩

/-- A definition that is put below another one by an import is found. -/
theorem Definition.addressed_commaSources :
    ∃ t, Table.build (outlinesOf commaSources) = .ok t ∧
      ∃ d ∈ t.definitions, d.isSelfReference = false ∧ d.fullName = "Host.Größe" ∧
        d.Addressed t (.parse "/ws/u.mql") := by
  obtain ⟨t, hbuild, ⟨d, hd, hself, hname⟩, -⟩ := exists_build_commaSources
  exact ⟨t, hbuild, d, hd, hself, hname, addressed_build commaSources t hbuild d hd _⟩

/-- Another one is not: its name ends at the comma. -/
theorem Definition.unaddressed_commaSources :
    ∃ t, Table.build (outlinesOf commaSources) = .ok t ∧
      ∃ d ∈ t.definitions, d.isSelfReference = false ∧ d.fullName = "Host.a,b" ∧
        (Term.ofLines (.parse "/ws/u.mql") (referenceTo d.fullName)).map Term.text
          = [("Host.a" : Text)] := by
  obtain ⟨t, hbuild, -, d, hd, hself, hname⟩ := exists_build_commaSources
  refine ⟨t, hbuild, d, hd, hself, hname, ?_⟩
  rw [hname]
  decide +kernel

end DefIndex
