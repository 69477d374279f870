import DefIndex.Proofs.Cursor
import DefIndex.Proofs.Neighbours

/-!
# `DefIndex.Proofs.Inherited`: a term that is read twice

What stands behind the mark of an inherit statement is read by two readers.
The statement takes word characters and dots, and leaves out the dots at the
end. The scan for references takes everything up to a character that ends a
term. The first never reads more than the second, since no word character
and no dot ends a term. It reads less where the term goes on with another
character, such as a dash, and where the term ends in a dot.

An alias is read behind white space only. A term that goes on with another
character has no alias, then, and the definition is named like its target.

* `Statement.dottedStart` is what the statement takes of a term, and
  `Statement.readInherit_cases` what it declares.
* `Draft.inherited_after` ties a declaration to its statement.
* `Outline.inheriting_read` compares the two readings for a whole file.
* `Outline.cut_short` are statements that inherit parts of their terms.
-/

set_option autoImplicit false

namespace DefIndex

namespace Statement

/-! ### In the statement -/

/-- No character of a dotted name ends a term. -/
theorem ends_of_isDotted {c : Char} (h : isDotted c = true) : Term.ends c = false := by
  refine Term.ends_of_name ?_
  simp only [isDotted, Text.isWord, Bool.or_eq_true, Bool.and_eq_true, beq_iff_eq] at h
  simp only [Text.nameRanges, Text.inRanges, List.any_append, Bool.or_eq_true] at h ⊢
  tauto

/-- The dotted name that a text starts with, without the dots at its end. -/
def dottedStart (t : Text) : Text := Text.dropEndWhile (· == '.') (t.takeWhile isDotted)

/-- A dotted name does not go on behind the end of a term. -/
theorem takeWhile_isDotted_run (t : Text) :
    (Term.run t).takeWhile isDotted = t.takeWhile isDotted := by
  induction t with
  | nil => rfl
  | cons c cs ih =>
      rw [Term.run] at ih ⊢
      by_cases hc : isDotted c = true
      · rw [List.takeWhile_cons_of_pos (by simp [ends_of_isDotted hc]),
          List.takeWhile_cons_of_pos hc, List.takeWhile_cons_of_pos hc, ih]
      · rw [List.takeWhile_cons_of_neg hc, List.takeWhile_cons]
        split
        · rw [List.takeWhile_cons_of_neg hc]
        · rfl

/-- A text is the dotted name that it starts with if it is dotted and does not
end in a dot. -/
theorem dottedStart_eq_self_iff {t : Text} :
    dottedStart t = t ↔ (∀ c ∈ t, isDotted c = true) ∧ t.getLast? ≠ some '.' := by
  constructor
  · intro h
    have hstart : t <+: t.takeWhile isDotted := by
      have hdropped := Text.dropEndWhile_isPrefix (· == '.') (t.takeWhile isDotted)
      rwa [← dottedStart, h] at hdropped
    refine ⟨fun c hc => List.mem_takeWhile_imp (hstart.subset hc), fun hlast => ?_⟩
    rw [← h] at hlast
    exact absurd (of_getLast?_dropEndWhile hlast) (by decide)
  · rintro ⟨hdotted, hlast⟩
    have hkept : ∀ c ∈ t.getLast?, (c == '.') = false := by
      rintro c hc
      rw [beq_eq_false_iff_ne]
      rintro rfl
      exact hlast hc
    have hnone : ∀ c ∈ ([] : Text), (c == '.') = true := by simp
    have hdropped := Text.dropEndWhile_append_run hnone hkept
    rw [List.append_nil] at hdropped
    rw [dottedStart, List.takeWhile_eq_self_iff.2 hdotted, hdropped]

/-- An alias stands behind white space. -/
theorem exists_of_alias? {rest t : Text} (h : alias? rest = some t) :
    ∃ c cs, rest = c :: cs ∧ Text.isBlank c = true ∧ t.length ≤ cs.length := by
  simp only [alias?, Option.bind_eq_some_iff] at h
  obtain ⟨u, ⟨s, hs, hu⟩, ht⟩ := h
  cases rest with
  | nil => cases hs
  | cons c cs =>
      simp only [skipBlanks?] at hs
      split at hs
      next hblank =>
        cases hs
        split at ht
        · cases ht
        · cases ht
          exact ⟨c, cs, rfl, hblank,
            (skipPhrase?_suffix hu).length_le.trans (List.dropWhile_suffix _).length_le⟩
      next => cases hs

/-- What an inherit statement names is the start of the term behind its mark,
and it is named like this or by an alias behind the whole term. -/
theorem readInherit_cases {indent : Nat} {body : Text} {name : Token} {target : Text}
    (h : readInherit indent body = some (name, target)) :
    target ≠ [] ∧ target = dottedStart (Term.run body) ∧
      (name = ⟨target, indent⟩ ∨ (∀ c ∈ Term.run body, isDotted c = true) ∧
        indent + (Term.run body).length < name.offset) := by
  rw [dottedStart, takeWhile_isDotted_run]
  simp only [readInherit] at h
  split at h
  · cases h
  next hne =>
    rw [List.isEmpty_iff] at hne
    split at h
    next t halias =>
      cases h
      obtain ⟨c, cs, hrest, hblank, hlength⟩ := exists_of_alias? halias
      -- White space ends the term, so it is dotted as a whole.
      have hwhole : body.takeWhile isDotted ++ c :: cs = body := by
        rw [← hrest, List.takeWhile_append_dropWhile]
      have hrun : Term.run body = body.takeWhile isDotted := by
        refine Term.run_eq_iff.2 ⟨fun b hb => ?_, c :: cs, hwhole.symm, fun b hb => ?_⟩
        · exact ends_of_isDotted (List.mem_takeWhile_imp hb)
        · rw [← Option.some.inj hb, Term.ends, hblank, Bool.true_or]
      refine ⟨hne, rfl, Or.inr ⟨?_, ?_⟩⟩
      · rw [hrun]
        exact fun b hb => List.mem_takeWhile_imp hb
      · have hsizes := congrArg List.length hwhole
        rw [List.length_append, List.length_cons] at hsizes
        rw [hrun]
        show _ < indent + (body.length - t.length)
        omega
    next =>
      cases h
      exact ⟨hne, rfl, Or.inl rfl⟩

end Statement

/-! ### In the outline -/

/-- A declaration was made by an inherit statement. -/
def Declaration.InheritedIn (e : Declaration) (events : List (Nat × Event)) : Prop :=
  ∃ (text : Text) (column : Nat) (terminated : Bool) (name : Token) (target : Text),
    (e.line, .statement text column 0 terminated) ∈ events ∧
      Statement.read text = .inherits (some (name, target)) ∧ e.target = some target ∧
      e.name = name.text ∧ e.column = column + name.offset

namespace Draft

/-- Only what an inherit statement declares has a target. -/
theorem inherited_of_added? {d : Draft} {event : Nat × Event} {new : Declaration}
    (h : d.added? event = some new) :
    new.kind = .inherit ∧ new.InheritedIn [event] ∨ new.kind ≠ .inherit ∧ new.target = none := by
  obtain ⟨line, event⟩ := event
  cases event with
  | opening column => cases h
  | closing column => cases h
  | statement text column depth terminated =>
      cases depth with
      | succ depth => cases h
      | zero =>
          simp only [added?] at h
          split at h
          next name target hread =>
            cases h
            exact Or.inl ⟨rfl, text, column, terminated, name, target, by simp [declaration],
              hread, rfl, rfl, rfl⟩
          next kind name hread =>
            cases h
            have hnames := Statement.namesStandIn_read text
            rw [hread] at hnames
            refine Or.inr ⟨fun hkind => ?_, rfl⟩
            rw [show kind = .inherit from hkind] at hnames
            exact Bool.noConfusion hnames.1
          next => cases h

/-- Every declaration of events is an inherit statement's or has no target. -/
theorem inherited_after (file : Path) (events : List (Nat × Event)) :
    ∀ e ∈ (after file events).declarations,
      e.kind = .inherit ∧ e.InheritedIn events ∨ e.kind ≠ .inherit ∧ e.target = none := by
  intro e he
  obtain ⟨d, event, new, hevent, hadded, hextends⟩ := exists_added_after file events e he
  rw [hextends.kind, hextends.target]
  refine (inherited_of_added? hadded).imp_left (And.imp_right ?_)
  rintro ⟨text, column, terminated, name, target, hstatement, hread⟩
  refine ⟨text, column, terminated, name, target, ?_, ?_⟩
  · rw [hextends.line, List.mem_singleton.1 hstatement]
    exact hevent
  · rwa [hextends.target, hextends.name, hextends.columns.1]

end Draft

/-! ### On the line -/

/-- The term behind the mark of an inherit statement, as the scan for
references finds it, and what its declaration takes from it. -/
structure Declaration.Inherits (e : Declaration) (o : Outline) (column : Nat) (term : Text) :
    Prop where
  /-- The statement is the one that the declaration was read from, and the mark
  is its first character that is not white space. -/
  mark : ∃ (text front body : Text) (start : Nat) (terminated : Bool) (name : Token)
      (target : Text),
    (e.line, .statement text start 0 terminated) ∈ Event.ofLines 0 o.lines ∧
      Statement.read text = .inherits (some (name, target)) ∧ e.target = some target ∧
      e.name = name.text ∧ e.column = start + name.offset ∧
      text = front ++ sigil :: body ∧ (∀ c ∈ front, Text.isBlank c = true) ∧
      column = start + front.length
  /-- The scan finds the term directly behind the mark. -/
  found : ⟨term, .span o.file e.line (column + 1) term.length⟩ ∈ Term.ofLines o.file o.lines
  /-- It finds no other one there. -/
  alone : ∀ t ∈ Term.ofLines o.file o.lines,
    t.location.line = e.line → t.location.column = column + 1 → t.text = term
  /-- The target is the dotted name that the term starts with. -/
  target : e.target = some (Statement.dottedStart term)
  /-- It is the term if that is a dotted name. -/
  agrees : e.target = some term ↔
    (∀ c ∈ term, Statement.isDotted c = true) ∧ term.getLast? ≠ some '.'
  /-- The name is the target, or an alias that stands behind a dotted term. -/
  named : e.name = Statement.dottedStart term ∧ e.column = column + 1 ∨
    (∀ c ∈ term, Statement.isDotted c = true) ∧ column + 1 + term.length < e.column

/-- What stands behind the mark of a statement on its line, up to the end of
the term, is the term of the statement alone. -/
theorem Event.PlacedIn.occursAt {text body : Text} {start : Nat} {terminated : Bool}
    {front line : Text} (h : (statement text start 0 terminated).PlacedIn line)
    (htext : text = front ++ sigil :: body) (hne : Term.run body ≠ []) :
    Term.OccursAt line (start + front.length + 1) (Term.run body) := by
  obtain ⟨before, after, hline, hstart, hstops⟩ := h
  obtain ⟨hsolid, rest, hbody, hrest⟩ := Term.run_eq_iff.1 (rfl : Term.run body = Term.run body)
  refine ⟨hne, hsolid, before ++ front, rest ++ after, ?_, ?_, fun c hc => ?_⟩
  · rw [hline, Event.text, htext]
    nth_rewrite 1 [hbody]
    simp only [List.append_assoc, List.cons_append]
  · have hstart' : start = before.length + 1 := hstart
    rw [hstart', List.length_append]
    omega
  · rw [List.head?_append, Option.mem_def, Option.or_eq_some_iff] at hc
    rcases hc with hc | ⟨-, hc⟩
    · exact hrest c hc
    · rcases hstops c hc with rfl | rfl | rfl <;> decide

/-- What an inherit statement declares, next to the term of the scan. -/
theorem Declaration.InheritedIn.inherits {e : Declaration} {file : Path} {source : Text}
    (h : e.InheritedIn (Event.ofLines 0 (Comment.cleanLines source))) :
    ∃ column term, e.Inherits (Outline.read file source) column term := by
  obtain ⟨text, start, terminated, name, target, hevent, hread, htarget, hname, hcolumn⟩ := h
  obtain ⟨body, hbody, hfound⟩ := Statement.exists_of_read_inherits hread
  obtain ⟨hne, rfl, hnamed⟩ := Statement.readInherit_cases hfound
  obtain ⟨front, hblank, htext⟩ : ∃ front : Text, (∀ c ∈ front, Text.isBlank c = true) ∧
      text = front ++ sigil :: body := by
    refine ⟨text.takeWhile Text.isBlank, fun c hc => List.mem_takeWhile_imp hc, ?_⟩
    exact (List.takeWhile_append_dropWhile (p := Text.isBlank)).symm.trans (congrArg _ hbody)
  have hindent : text.length - body.length = front.length + 1 := by
    rw [htext, List.length_append, List.length_cons]
    omega
  have hterm : Term.run body ≠ [] := by
    intro hnil
    rw [hnil] at hne
    exact hne rfl
  obtain ⟨line, hline, hnumber, hplaced⟩ := Event.placedIn_of_mem_ofLines hevent
  have hfound : (⟨Term.run body, .span (Outline.read file source).file e.line
      (start + front.length + 1) (Term.run body).length⟩ : Term)
        ∈ Term.ofLines (Outline.read file source).file (Comment.cleanLines source) := by
    refine List.mem_flatMap.2 ⟨line, hline, ?_⟩
    refine Term.mem_ofLine_iff.2 ⟨_, hplaced.occursAt htext hterm, ?_⟩
    rw [hnumber]
  refine ⟨start + front.length, Term.run body, ?_⟩
  constructor
  case mark =>
    exact ⟨text, front, body, start, terminated, name, _, hevent, hread, htarget, hname, hcolumn,
      htext, hblank, rfl⟩
  case found => exact hfound
  case alone =>
    intro t ht htline htcolumn
    rcases eq_or_of_pairwise (Term.pairwise_ofLines _ 1 _) ht hfound with rfl | hbefore | hbehind
    · rfl
    · rcases hbefore with hlt | ⟨-, hlt⟩
      · exact absurd htline (Nat.ne_of_lt hlt)
      · exact absurd htcolumn (Nat.ne_of_lt hlt)
    · rcases hbehind with hlt | ⟨-, hlt⟩
      · exact absurd htline (Nat.ne_of_gt hlt)
      · exact absurd htcolumn (Nat.ne_of_gt hlt)
  case target => exact htarget
  case agrees => rw [htarget, Option.some.injEq, Statement.dottedStart_eq_self_iff]
  case named =>
    rw [hname, hcolumn]
    rw [hindent] at hnamed
    rcases hnamed with rfl | ⟨hdotted, hbehind⟩
    · exact Or.inl ⟨rfl, (Nat.add_assoc _ _ _).symm⟩
    · exact Or.inr ⟨hdotted, by omega⟩

/-- What the inherit statements of a file inherit. -/
structure Outline.Inheriting (o : Outline) : Prop where
  /-- They have targets, and no other declaration has one. -/
  targets : ∀ e ∈ o.declarations, e.target.isSome = true ↔ e.kind = .inherit
  /-- Each target is a part of the term that the scan finds behind the mark of
  the statement. -/
  terms : ∀ e ∈ o.declarations, e.kind = .inherit → ∃ column term, e.Inherits o column term

/-- Whatever a source text reads, an inherit statement inherits the dotted name
that its term starts with, and the term itself if that is a dotted name. -/
theorem Outline.inheriting_read (file : Path) (source : Text) :
    (Outline.read file source).Inheriting := by
  have hmade := Draft.inherited_after file.normalize
    (Event.ofLines 0 (Comment.cleanLines source))
  refine ⟨fun e he => ?_, fun e he hkind => ?_⟩
  · rcases hmade e he with ⟨hkind, text, column, terminated, name, target, -, -, htarget, -⟩ |
      ⟨hkind, htarget⟩
    · simp [hkind, htarget]
    · simp [hkind, htarget]
  · rcases hmade e he with ⟨-, hinherited⟩ | ⟨hother, -⟩
    · exact hinherited.inherits
    · exact absurd hkind hother

/-- Two inherit statements whose terms are no dotted names. -/
def cutSource : Text := "?A-B;\n?C.;"

/-- Each of them inherits a part of its term. -/
theorem Outline.cut_short :
    (Outline.read (.parse "/ws/a.mql") cutSource).declarations.map
        (fun e => (e.kind, e.line, e.column, e.target))
      = ([(.inherit, 1, 2, some "A"), (.inherit, 2, 2, some "C")] :
        List (Kind × Nat × Nat × Option Text)) ∧
    (Term.ofLines (.parse "/ws/a.mql") (Comment.cleanLines cutSource)).map
        (fun t => (t.location.line, t.location.column, t.text))
      = ([(1, 2, "A-B"), (2, 2, "C.")] : List (Nat × Nat × Text)) := by
  decide +kernel

end DefIndex
