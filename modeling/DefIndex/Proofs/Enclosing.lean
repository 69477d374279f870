import DefIndex.Completion
import DefIndex.Proofs.Prefixes
import DefIndex.Proofs.RoundTrip

/-!
# `DefIndex.Proofs.Enclosing`: the block around the cursor

Completion and reading ask the scope the same question in two ways. A
declaration that is read gets the innermost owner of a block for its parent.
Completion lists the owners of all open blocks, outermost first, and takes
the last one, unless a declaration still waits for its block.

To compare the two, a declaration is typed where the cursor stands. That
says something only if the line that is typed is read as a line of its own,
and `Text.Clear` is said of a text behind which it is.

* `Text.Clear.append`: clear texts can be put behind each other, and a line
  with an opening brace is one.
* `Text.Clear.after_leaf` and `Text.Clear.after_brace` are what the two lines
  do to the outline in the making.
* `Outline.around?` is what completion asks for, and
  `Outline.around?_read` finds it in the scope behind the text.
* `Outline.exists_read_leaf` compares it with the parent of the declaration
  that is typed.
-/

set_option autoImplicit false

namespace DefIndex

/-! ### Texts that leave no line, comment or parenthesis open -/

/-- A text behind which a line is read as it is at the start of a file. Blocks
may be open, and a declaration may wait for its block. -/
structure Text.Clear (lead : Text) : Prop where
  whole : lead.Whole
  comments : Comment.stateAfter .code (lines lead) = .code
  parentheses : Event.depthAfter 0 (Comment.cleanLines lead) = 0

/-- The parentheses that are open behind lines do not depend on their
numbers. -/
theorem Event.depthAfter_numberFrom (depth n : Nat) (ts : List Text) :
    depthAfter depth (Comment.numberFrom n ts)
      = ts.foldl (fun depth t => (split depth t).2) depth := by
  induction ts generalizing depth n with
  | nil => rfl
  | cons t ts ih => exact ih _ _

namespace Text.Clear

variable {lead back : Text}

/-- A clear text behind another one. -/
theorem append (h : lead.Clear) (hback : back.Clear) : (lead ++ back).Clear where
  whole := by
    rcases hback.whole with rfl | hlast
    · rw [List.append_nil]
      exact h.whole
    · exact Or.inr (by rw [List.getLast?_append, hlast, Option.some_or])
  comments := by
    rw [Text.lines_append h.whole, Comment.stateAfter, List.foldl_append]
    exact (congrArg (Comment.stateAfter · (lines back)) h.comments).trans hback.comments
  parentheses := by
    have hlines : Event.depthAfter 0 (Comment.cleanLines back) = 0 := hback.parentheses
    rw [show Comment.cleanLines back = Comment.numberFrom 1 (Comment.cleanTexts .code (lines back))
      from rfl, Event.depthAfter_numberFrom] at hlines
    -- The lines behind have other numbers than alone, and nothing else of theirs
    -- differs.
    rw [Comment.cleanLines_append h.whole, h.comments, Event.depthAfter, List.foldl_append]
    refine (congrArg (Event.depthAfter · _) h.parentheses).trans ?_
    rw [Event.depthAfter_numberFrom, hlines]

/-- A line with an opening brace leaves nothing but its block open. -/
theorem brace : Text.Clear "\x7b\n" := ⟨by decide, by decide, by decide⟩

/-- Behind a clear text the events are those of the text alone, on lines
further down. -/
theorem after_append (h : lead.Clear) (file : Path) (back : Text) :
    Draft.after file (Event.ofLines 0 (Comment.cleanLines (lead ++ back)))
      = (Event.ofLines 0 (Comment.numberFrom (1 + (lines lead).length)
          (Comment.cleanTexts .code (lines back)))).foldl Draft.step
        (Draft.after file (Event.ofLines 0 (Comment.cleanLines lead))) := by
  rw [Outline.after_append h.whole, h.comments, h.parentheses]

/-- A line with an opening brace enters a block. -/
theorem after_brace (h : lead.Clear) (file : Path) :
    let before := Draft.after file (Event.ofLines 0 (Comment.cleanLines lead))
    Draft.after file (Event.ofLines 0 (Comment.cleanLines (lead ++ ("\x7b\n" : Text))))
      = { before with scope := before.scope.enter } := by
  rw [h.after_append]
  rfl

/-- A line that is a declaration declares its name in the current block. -/
theorem after_leaf (h : lead.Clear) (file : Path) (heading : Heading) :
    let before := Draft.after file (Event.ofLines 0 (Comment.cleanLines lead))
    ∃ line column,
      Draft.after file (Event.ofLines 0 (Comment.cleanLines (lead ++ (Line.leaf heading).code)))
        = { before.declare heading.kind line column heading.name.text none with
            scope := before.scope.dismiss } := by
  intro before
  let n := 1 + (lines lead).length
  have hunbroken : '\n' ∉ (Line.leaf heading).code :=
    (Line.leaf heading).not_mem_code (by decide) (by decide)
  have hshows : Shows (.leaf heading) (Line.leaf heading).code :=
    ⟨⟨⟨[], by simp [Spaces]⟩, none, by simp⟩, by simp [Trail.text]⟩
  have hevents : Event.ofLines 0 (Comment.numberFrom n
      (Comment.cleanTexts .code [(Line.leaf heading).code]))
        = [(n, .statement heading.text 1 0 true)] :=
    ofLines_of_shows (.cons hshows .nil) n
  obtain ⟨column, hstep⟩ := before.step_text heading n true
  refine ⟨n, column, ?_⟩
  rw [h.after_append, Text.lines_of_unbroken hunbroken (by simp [Line.code]), hevents]
  exact hstep

end Text.Clear

/-! ### The declaration around the end of a text -/

/-- The innermost owner is the last of the keys. -/
theorem Scope.getLast?_openKeys (s : Scope) : s.openKeys.getLast? = s.current := by
  rw [openKeys, List.getLast?_reverse, List.head?_map, current]

namespace Outline

/-- The declaration that is around the end of a file: the one that waits for
its block, or else the innermost one whose block is open. -/
def around? (o : Outline) : Option Nat := o.pending.or o.openScopes.getLast?

/-- The declaration, if any, in whose block another one stands. -/
inductive Around (o : Outline) (d : Declaration) : Option Declaration → Prop where
  | outside (parent : d.parent = none) : Around o d none
  | inside {ix : Nat} {e : Declaration} (parent : d.parent = some ix)
      (found : o.declarations[ix]? = some e) : Around o d (some e)

/-- The form that keywords depend on is that of the declaration around the
end. -/
theorem enclosingKind_eq (file : Path) (lead : Text) :
    enclosingKind file lead = (read file lead).around?.bind fun ix =>
      (read file lead).declarations[ix]?.map Declaration.kind := rfl

/-- What is around the end is found in the scope behind the last event. -/
theorem around?_read (file : Path) (lead : Text) :
    let scope := (Draft.after file.normalize
      (Event.ofLines 0 (Comment.cleanLines lead))).scope
    (read file lead).around? = (scope.pending.map Owner.key).or scope.current := by
  intro scope
  rw [around?, read_eq, ← Scope.getLast?_openKeys]
  rfl

/-- A declaration that is typed behind a clear text is the last one, and it
stands in the innermost block that is open there. -/
theorem exists_read_leaf {lead : Text} (h : lead.Clear) (file : Path) (heading : Heading) :
    ∃ d, (read file (lead ++ (Line.leaf heading).code)).declarations
        = grow (read file lead).declarations d ∧
      d.name = heading.name.text ∧ d.kind = heading.kind ∧
      d.parent = (read file lead).openScopes.getLast? := by
  let before := Draft.after file.normalize (Event.ofLines 0 (Comment.cleanLines lead))
  obtain ⟨line, column, hafter⟩ := h.after_leaf file.normalize heading
  refine ⟨before.declaration heading.kind line column heading.name.text none, ?_, rfl, rfl,
    before.scope.getLast?_openKeys.symm⟩
  rw [read_eq, hafter]
  exact (before.declare_fields heading.kind line column heading.name.text none).1

/-- A line with an opening brace declares nothing, and the declaration that
waits opens a block there. -/
theorem read_brace {lead : Text} (h : lead.Clear) (file : Path) :
    let opened := read file (lead ++ ("\x7b\n" : Text))
    opened.declarations = (read file lead).declarations ∧ opened.pending = none ∧
      opened.openScopes.getLast? = (read file lead).around? := by
  let before := Draft.after file.normalize (Event.ofLines 0 (Comment.cleanLines lead))
  rw [around?_read, read_eq, h.after_brace]
  refine ⟨rfl, rfl, ?_⟩
  show before.scope.enter.openKeys.getLast? = _
  rw [Scope.getLast?_openKeys]
  -- The new block belongs to whoever waited. If nobody did it is a plain one,
  -- and the innermost owner is the one from before.
  cases hpending : before.scope.pending with
  | none => simp [before, Scope.enter, Scope.current, Scope.owners, hpending]
  | some owner => simp [before, Scope.enter, Scope.current, Scope.owners, hpending]

/-- The declaration around the end of a file is there. -/
theorem exists_around {file : Path} {lead : Text} {ix : Nat}
    (h : (read file lead).around? = some ix) :
    ∃ e, (read file lead).declarations[ix]? = some e := by
  have hsound := Draft.sound_foldl (Draft.sound_start file.normalize)
    (Event.ofLines 0 (Comment.cleanLines lead))
  rw [around?_read] at h
  rcases Option.or_eq_some_iff.1 h with hpending | ⟨-, hcurrent⟩
  · obtain ⟨owner, howner, rfl⟩ := Option.map_eq_some_iff.1 hpending
    obtain ⟨-, e, he, -⟩ := hsound.waiting owner howner
    exact ⟨e, he⟩
  · obtain ⟨e, he, -⟩ := hsound.owner hcurrent
    exact ⟨e, he⟩

/-! ### Typing a declaration -/

/-- A declaration of a form and a name is the last of an outline, and stands
in the block of another one or in none. -/
structure EndsIn (o : Outline) (kind : Kind) (name : Text) (d : Declaration)
    (around : Option Declaration) : Prop where
  last : o.declarations.getLast? = some d
  kind : d.kind = kind
  name : d.name = name
  around : o.Around d around

/-- A declaration that is typed where nobody waits stands in the block whose
form completion finds there. -/
theorem endsIn_leaf {lead : Text} (h : lead.Clear) (file : Path) (heading : Heading)
    (hpending : (read file lead).pending = none) :
    ∃ d around, (read file (lead ++ (Line.leaf heading).code)).EndsIn heading.kind
        heading.name.text d around ∧
      d.parent = (read file lead).around? ∧
      enclosingKind file lead = around.map Declaration.kind := by
  obtain ⟨d, hgrow, hname, hkind, hparent⟩ := exists_read_leaf h file heading
  have haround : d.parent = (read file lead).around? := by
    rw [hparent, around?, hpending, Option.none_or]
  have hlast : (read file (lead ++ (Line.leaf heading).code)).declarations.getLast? = some d := by
    rw [hgrow, grow, List.getLast?_concat]
  rw [enclosingKind_eq, ← haround]
  cases hd : d.parent with
  | none => exact ⟨d, none, ⟨hlast, hkind, hname, .outside hd⟩, hd, rfl⟩
  | some ix =>
      obtain ⟨e, he⟩ := exists_around (haround.symm.trans hd)
      -- The declaration around gets a child and keeps its form.
      obtain ⟨f, hf, hextends⟩ := Extended.grow (read file lead).declarations d ix e he
      refine ⟨d, some f, ⟨hlast, hkind, hname, .inside hd (hgrow ▸ hf)⟩, hd, ?_⟩
      rw [Option.bind_some, he, Option.map_some, Option.map_some, hextends.kind]

/-- A line with an opening brace does not change what completion finds. -/
theorem enclosingKind_brace {lead : Text} (h : lead.Clear) (file : Path) :
    enclosingKind file (lead ++ ("\x7b\n" : Text)) = enclosingKind file lead := by
  obtain ⟨hds, hpending, hlast⟩ := read_brace h file
  rw [enclosingKind_eq, enclosingKind_eq, hds, around?, hpending, Option.none_or, hlast]

/-- A tag `X` on a line of its own. -/
def probe : Heading where
  kind := .tag
  opens := rfl
  name := ⟨"X", by decide, by decide, by decide⟩
  indent := ⟨[], by decide⟩
  between := ⟨⟨" ", by decide⟩, by decide⟩
  before := ⟨⟨" ", by decide⟩, by decide⟩
  behind := ⟨[], by decide⟩

/-- Completion and reading see the same blocks behind a text. -/
structure SameBlocks (file : Path) (lead : Text) : Prop where
  /-- If nobody waits, completion finds the form of the declaration around a
  tag that is typed next, and none if it stands in no block. -/
  settled : (read file lead).pending = none →
    ∃ d around, (read file (lead ++ ("CREATE TAG X;" : Text))).EndsIn .tag "X" d around ∧
      enclosingKind file lead = around.map Declaration.kind
  /-- If a declaration waits, it is around a tag that is typed behind the brace
  of its block, and completion finds its form already. -/
  waiting : ∀ k, (read file lead).pending = some k →
    ∃ d e w, (read file (lead ++ ("\x7b\nCREATE TAG X;" : Text))).EndsIn .tag "X" d (some e) ∧
      d.parent = some k ∧ enclosingKind file lead = some e.kind ∧
      (read file lead).declarations[k]? = some w ∧ w.Extends e

/-- Behind every text that leaves no line, no comment and no parenthesis open,
completion sees the blocks that reading sees. -/
theorem sameBlocks_of_clear (file : Path) (lead : Text) (h : lead.Clear) :
    SameBlocks file lead where
  settled hpending := by
    obtain ⟨d, around, hends, -, hkind⟩ := endsIn_leaf h file probe hpending
    exact ⟨d, around, hends, hkind⟩
  waiting := by
    intro k hpending
    obtain ⟨-, hopened, hlast⟩ := read_brace h file
    obtain ⟨d, around, hends, hparent, hkind⟩ := endsIn_leaf (h.append .brace) file probe hopened
    have haround : (read file lead).around? = some k := by rw [around?, hpending, Option.some_or]
    rw [around?, hopened, Option.none_or, hlast, haround] at hparent
    rw [enclosingKind_brace h] at hkind
    have htyped : lead ++ ("\x7b\n" : Text) ++ (Line.leaf probe).code
        = lead ++ ("\x7b\nCREATE TAG X;" : Text) := List.append_assoc ..
    rw [htyped] at hends
    -- The declaration around the tag is the one that waited, with a child.
    obtain ⟨w, hw⟩ := exists_around haround
    obtain ⟨e, he, hextends⟩ := (extends_read h.whole file _).declarations k w hw
    cases hends.around with
    | outside hnone => cases hnone.symm.trans hparent
    | inside hsome hfound =>
        obtain rfl := Option.some.inj (hsome.symm.trans hparent)
        obtain rfl := Option.some.inj (hfound.symm.trans he)
        exact ⟨d, _, w, hends, hsome, hkind, hw, hextends⟩

/-- A plain block in a block, and a header that waits for its brace below an
argument list of two lines. -/
def headerWaits : Text :=
  "CREATE BASE Shop \x7b\n\x7b /* \x7d */\nCREATE LINK Shelf(General,\n  Strict) // \x7b\n"

/-- The link waits there, and completion offers what may stand in a link. -/
theorem sameBlocks_headerWaits :
    headerWaits.Clear ∧
      ((read (.parse "/ws/a.mql") headerWaits).pending,
        (read (.parse "/ws/a.mql") headerWaits).openScopes) = (some 1, [0]) ∧
      enclosingKind (.parse "/ws/a.mql") headerWaits = some .link ∧
      SameBlocks (.parse "/ws/a.mql") headerWaits := by
  have hclear : headerWaits.Clear := ⟨by decide +kernel, by decide +kernel, by decide +kernel⟩
  exact ⟨hclear, by decide +kernel, by decide +kernel, sameBlocks_of_clear _ _ hclear⟩

end Outline

end DefIndex
