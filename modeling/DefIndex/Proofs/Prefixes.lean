import DefIndex.Proofs.Marks
import DefIndex.Proofs.Problems

/-!
# `DefIndex.Proofs.Prefixes`: what more text leaves as it was

A text is read from left to right, and nothing that was read is taken back.
This file compares the outline of a text with that of the text with more
lines behind it.

The two texts meet at a line end: `Text.Whole` is said of a text that leaves
no line open. Then its physical lines, its clean lines and its events are
the first ones of the longer text, and what comes behind them starts from
the comment state and the parentheses that they leave
(`Comment.cleanLines_append`, `Event.ofLines_append`).

* `Draft.extends_step` is the step: an event adds to an outline in the
  making. A declaration that is there keeps its place and all it says of
  itself, and gets more children and more imports at most.
* `Draft.extends_foldl` is the run, and `Outline.extends_read` compares the
  outlines of the two texts.
-/

set_option autoImplicit false

namespace DefIndex

/-! ### Whole lines -/

/-- A text that leaves no line open: it is empty, or it ends in a line
feed. -/
def Text.Whole (t : Text) : Prop := t = [] ∨ t.getLast? = some '\n'

instance : DecidablePred Text.Whole := fun t =>
  inferInstanceAs (Decidable (t = [] ∨ t.getLast? = some '\n'))

/-- Without its first character a text leaves open what it left open. -/
theorem Text.Whole.tail {c : Char} {cs : Text} (h : Whole (c :: cs)) : Whole cs := by
  cases cs with
  | nil => exact Or.inl rfl
  | cons d ds =>
      refine Or.inr ?_
      rw [← List.getLast?_cons_cons (a := c)]
      exact h.resolve_left (List.cons_ne_nil _ _)

/-- Only the empty text has no lines. -/
theorem Text.eq_nil_of_lines {t : Text} (h : lines t = []) : t = [] := by
  cases t with
  | nil => rfl
  | cons c cs =>
      by_cases hends : Comment.EndsLine c cs
      · rcases hends with rfl | ⟨rfl, rest, rfl⟩ <;> cases h
      · rw [Comment.lines_cons hends] at h
        cases hrest : lines cs <;> rw [hrest] at h <;> cases h

/-- Behind whole lines a text has its own lines. -/
theorem Text.lines_append {front : Text} (h : Whole front) (back : Text) :
    lines (front ++ back) = lines front ++ lines back := by
  fun_induction lines front with
  | case1 => rfl
  | case2 cs ih => exact congrArg ([] :: ·) (ih h.tail)
  | case3 cs ih => exact congrArg ([] :: ·) (ih h.tail.tail)
  | case4 c cs hfeed hreturn hnone ih =>
      -- The last character of whole lines is a line feed, and `c` is none.
      have hcs : cs = [] := eq_nil_of_lines hnone
      have hlast := h.resolve_left (List.cons_ne_nil _ _)
      rw [hcs, List.getLast?_singleton, Option.some.injEq] at hlast
      exact absurd hlast hfeed
  | case5 c cs hfeed hreturn line rest hsome ih =>
      have hends : ¬ Comment.EndsLine c (cs ++ back) := by
        rintro (hc | ⟨hc, tail, htail⟩)
        · exact hfeed hc
        · cases cs with
          | nil => cases hsome
          | cons d ds =>
              obtain ⟨rfl, -⟩ := List.cons.inj htail
              exact hreturn ds hc rfl
      rw [List.cons_append, Comment.lines_cons hends, ih h.tail, hsome]
      rfl

namespace Comment

/-- The state in which the line behind some lines starts. -/
def stateAfter (state : CommentState) (lines : List Text) : CommentState :=
  lines.foldl (fun state line => (cleanLine state line).2) state

/-- Lines behind other lines are cleaned from the state that these leave. -/
theorem cleanTexts_append (state : CommentState) (above below : List Text) :
    cleanTexts state (above ++ below)
      = cleanTexts state above ++ cleanTexts (stateAfter state above) below := by
  induction above generalizing state with
  | nil => rfl
  | cons line above ih => exact congrArg ((cleanLine state line).1 :: ·) (ih _)

/-- The clean lines of whole lines and those of what comes behind them. -/
theorem cleanLines_append {front : Text} (h : front.Whole) (back : Text) :
    cleanLines (front ++ back) = cleanLines front
      ++ numberFrom (1 + (Text.lines front).length)
        (cleanTexts (stateAfter .code (Text.lines front)) (Text.lines back)) := by
  show numberFrom 1 (cleanTexts .code (Text.lines (front ++ back))) = _
  rw [Text.lines_append h, cleanTexts_append, numberFrom_append, length_cleanTexts]
  rfl

end Comment

namespace Event

/-- The parentheses that are open behind some lines. -/
def depthAfter (depth : Nat) (lines : List CleanLine) : Nat :=
  lines.foldl (fun depth line => (split depth line.text).2) depth

/-- Lines behind other lines are cut from the parentheses that these leave
open. -/
theorem ofLines_append (depth : Nat) (above below : List CleanLine) :
    ofLines depth (above ++ below)
      = ofLines depth above ++ ofLines (depthAfter depth above) below := by
  induction above generalizing depth with
  | nil => rfl
  | cons line above ih =>
      rw [List.cons_append, ofLines, ofLines, ih, List.append_assoc]
      rfl

end Event

/-! ### One more event -/

/-- A declaration that says the same of itself, with the same children and
imports and possibly more of them. -/
structure Declaration.Extends (d e : Declaration) : Prop where
  name : e.name = d.name
  kind : e.kind = d.kind
  line : e.line = d.line
  columns : e.column = d.column ∧ e.endColumn = d.endColumn
  context : e.context = d.context
  parent : e.parent = d.parent
  target : e.target = d.target
  children : d.children <+: e.children
  imports : d.imports <+: e.imports

/-- A list of declarations with the same declarations at its start, each
with possibly more inside. -/
def Extended (ds es : List Declaration) : Prop :=
  ∀ (i : Nat) (d : Declaration), ds[i]? = some d → ∃ e, es[i]? = some e ∧ d.Extends e

namespace Declaration.Extends

/-- A declaration without anything more. -/
theorem refl (d : Declaration) : d.Extends d :=
  ⟨rfl, rfl, rfl, ⟨rfl, rfl⟩, rfl, rfl, rfl, List.prefix_refl _, List.prefix_refl _⟩

/-- More inside, in two steps. -/
theorem trans {d e f : Declaration} (hde : d.Extends e) (hef : e.Extends f) : d.Extends f where
  name := hef.name.trans hde.name
  kind := hef.kind.trans hde.kind
  line := hef.line.trans hde.line
  columns := ⟨hef.columns.1.trans hde.columns.1, hef.columns.2.trans hde.columns.2⟩
  context := hef.context.trans hde.context
  parent := hef.parent.trans hde.parent
  target := hef.target.trans hde.target
  children := hde.children.trans hef.children
  imports := hde.imports.trans hef.imports

/-- One more child. -/
theorem addChild (d : Declaration) (child : Nat) :
    d.Extends { d with children := d.children ++ [child] } :=
  { refl d with children := List.prefix_append _ _ }

/-- One more import. -/
theorem withImport (d : Declaration) (found : Import) : d.Extends (d.withImport found) := by
  rw [Declaration.withImport]
  split
  · exact refl d
  · exact { refl d with imports := List.prefix_append _ _ }

end Declaration.Extends

/-- Nothing more. -/
theorem Extended.refl (ds : List Declaration) : Extended ds ds :=
  fun _ d hd => ⟨d, hd, .refl d⟩

/-- More and still more. -/
theorem Extended.trans {ds es fs : List Declaration} (hde : Extended ds es)
    (hef : Extended es fs) : Extended ds fs := by
  intro i d hd
  obtain ⟨e, he, hextends⟩ := hde i d hd
  obtain ⟨f, hf, hmore⟩ := hef i e he
  exact ⟨f, hf, hextends.trans hmore⟩

/-- An import adds to the declaration around it. -/
theorem Extended.modify_withImport (ds : List Declaration) (owner : Nat) (found : Import) :
    Extended ds (ds.modify owner (Declaration.withImport found)) := by
  intro i d hd
  refine ⟨_, by rw [List.getElem?_modify, hd]; rfl, ?_⟩
  split
  · exact .withImport d found
  · exact .refl d

/-- A new declaration adds to the one around it. -/
theorem Extended.grow (ds : List Declaration) (new : Declaration) :
    Extended ds (DefIndex.grow ds new) := by
  intro i d hd
  have hi := (List.getElem?_eq_some_iff.1 hd).1
  refine ⟨_, by rw [getElem?_grow_of_lt hi, hd, Option.map_some], ?_⟩
  split
  · exact .addChild d ds.length
  · exact .refl d

/-- An outline in the making with the same at the start, and possibly more. -/
structure Draft.Extends (d d' : Draft) : Prop where
  declarations : Extended d.declarations d'.declarations
  unattached : d.unattached <+: d'.unattached
  warnings : d.warnings <+: d'.warnings

namespace Draft

/-- An import that no declaration takes is set aside behind the others. -/
theorem unattached_takeStatement (d : Draft) (line column : Nat) (text : Text) :
    d.unattached <+: (d.takeStatement line column text).unattached := by
  cases hread : Statement.read text with
  | imports token =>
      simp only [takeStatement, hread, attach]
      split
      · exact List.prefix_refl _
      · exact List.prefix_append _ _
  | inherits found =>
      simp only [takeStatement, hread]
      cases found with
      | none => exact List.prefix_refl _
      | some pair =>
          show d.unattached <+: (d.declare ..).unattached
          rw [(warnings_declare d ..).1]
  | declares kind name =>
      simp only [takeStatement, hread]
      show d.unattached <+: (d.declare ..).unattached
      rw [(warnings_declare d ..).1]
  | other =>
      simp only [takeStatement, hread]
      exact List.prefix_refl _

/-- No event takes back what is set aside. -/
theorem unattached_step (d : Draft) (event : Nat × Event) :
    d.unattached <+: (d.step event).unattached := by
  obtain ⟨line, event⟩ := event
  cases event with
  | opening column => exact List.prefix_refl _
  | closing column =>
      show d.unattached <+: (if d.scope.leave.1.isNone
        then { d with scope := d.scope.leave.2 }.warn .strayBrace line column 1
        else { d with scope := d.scope.leave.2 }).unattached
      split <;> exact List.prefix_refl _
  | statement text column depth terminated =>
      simp only [step, apply_ite Draft.unattached, ite_self]
      split
      · exact d.unattached_takeStatement line column text
      · exact List.prefix_refl _

/-- One event adds to an outline in the making. -/
theorem extends_step (d : Draft) (event : Nat × Event) : d.Extends (d.step event) where
  declarations := by
    cases d.step_change event with
    | entered declarations => rw [declarations]; exact Extended.refl _
    | left declarations => rw [declarations]; exact Extended.refl _
    | idle declarations => rw [declarations]; exact Extended.refl _
    | imported owner found _ declarations =>
        rw [declarations]
        exact Extended.modify_withImport _ owner found
    | declared new declarations =>
        rw [declarations]
        exact Extended.grow _ new
  unattached := d.unattached_step event
  warnings := by
    rw [warnings_step]
    exact List.prefix_append _ _

/-- Any events add to an outline in the making. -/
theorem extends_foldl (d : Draft) (events : List (Nat × Event)) :
    d.Extends (events.foldl step d) := by
  induction events generalizing d with
  | nil => exact ⟨Extended.refl _, List.prefix_refl _, List.prefix_refl _⟩
  | cons event events ih =>
      have hstep := d.extends_step event
      have hrest := ih (d.step event)
      exact ⟨hstep.declarations.trans hrest.declarations,
        hstep.unattached.trans hrest.unattached, hstep.warnings.trans hrest.warnings⟩

end Draft

/-! ### Outlines -/

/-- An outline with the same at the start, and possibly more. -/
structure Outline.Extends (o o' : Outline) : Prop where
  file : o'.file = o.file
  declarations : Extended o.declarations o'.declarations
  unattached : o.unattached <+: o'.unattached
  warnings : o.warnings <+: o'.warnings
  lines : o.lines <+: o'.lines

namespace Outline

/-- What an outline is made of, event by event. -/
theorem read_eq (file : Path) (source : Text) :
    read file source = (Draft.after file.normalize
      (Event.ofLines 0 (Comment.cleanLines source))).finish (Comment.cleanLines source) := rfl

/-- The events of a text with more behind its whole lines. -/
theorem after_append {front : Text} (h : front.Whole) (file : Path) (back : Text) :
    Draft.after file (Event.ofLines 0 (Comment.cleanLines (front ++ back)))
      = (Event.ofLines (Event.depthAfter 0 (Comment.cleanLines front))
          (Comment.numberFrom (1 + (Text.lines front).length)
            (Comment.cleanTexts (Comment.stateAfter .code (Text.lines front))
              (Text.lines back)))).foldl Draft.step
        (Draft.after file (Event.ofLines 0 (Comment.cleanLines front))) := by
  rw [Comment.cleanLines_append h, Event.ofLines_append, Draft.after, List.foldl_append]
  rfl

/-- More text behind whole lines adds to their outline. -/
theorem extends_read {front : Text} (h : front.Whole) (file : Path) (back : Text) :
    (read file front).Extends (read file (front ++ back)) := by
  have hdraft := Draft.extends_foldl (Draft.after file.normalize
    (Event.ofLines 0 (Comment.cleanLines front)))
  refine ⟨by rw [file_read, file_read], ?_, ?_, ?_, ?_⟩
  · rw [read_eq, read_eq, after_append h]
    exact (hdraft _).declarations
  · rw [read_eq, read_eq, after_append h]
    exact (hdraft _).unattached
  · rw [read_eq, read_eq, after_append h]
    exact (hdraft _).warnings
  · show Comment.cleanLines front <+: Comment.cleanLines (front ++ back)
    rw [Comment.cleanLines_append h]
    exact List.prefix_append _ _

end Outline

end DefIndex
