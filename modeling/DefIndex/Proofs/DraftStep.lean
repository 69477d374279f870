import DefIndex.Proofs.EventOrder
import DefIndex.Proofs.Nesting
import DefIndex.Proofs.Token

/-!
# `DefIndex.Proofs.DraftStep`: what one event does to an outline

`Draft.step` goes through eight branches and four helpers. What it does to
the declarations and the scope is one of five things, and `Draft.Change`
lists them:

* a block is entered or left, and the declarations stay;
* nothing happens, except that a waiting declaration may be sent away;
* the declaration around the event gets an import;
* a declaration is added in the current block, its name inside the event.

`Draft.step_change` proves that the list is complete. Every invariant of
reading is proved against `Draft.Change` and never opens `Draft.step`.
-/

set_option autoImplicit false

namespace DefIndex

/-- A declaration with an import, unless it has the path already. -/
def Declaration.withImport (found : Import) (e : Declaration) : Declaration :=
  if e.imports.any fun i => i.path = found.path then e
  else { e with imports := e.imports ++ [found] }

/-- The name of a declaration stands inside an event. -/
def Declaration.InsideEvent (e : Declaration) (event : Nat × Event) : Prop :=
  e.line = event.1 ∧ event.2.column ≤ e.column ∧ e.endColumn ≤ event.2.endColumn

/-- The scope stays, except that a waiting declaration may be sent away. -/
def Scope.Rests (s s' : Scope) : Prop := s' = s ∨ s' = s.dismiss

/-- What an event can change in the declarations and the scope. -/
inductive Draft.Change (d : Draft) (event : Nat × Event) (d' : Draft) : Prop where
  /-- A block is entered. -/
  | entered (declarations : d'.declarations = d.declarations) (scope : d'.scope = d.scope.enter)
  /-- A block is left. -/
  | left (declarations : d'.declarations = d.declarations) (scope : d'.scope = d.scope.leave.2)
  /-- Nothing is declared or imported. -/
  | idle (declarations : d'.declarations = d.declarations) (scope : d.scope.Rests d'.scope)
  /-- The declaration around the event gets an import. -/
  | imported (owner : Nat) (found : Import) (current : d.scope.current = some owner)
      (declarations : d'.declarations
        = d.declarations.modify owner (Declaration.withImport found))
      (scope : d.scope.Rests d'.scope)
  /-- A declaration is added. It waits for a block only if it may own one. -/
  | declared (new : Declaration) (declarations : d'.declarations = grow d.declarations new)
      (parent : new.parent = d.scope.current) (context : new.context = d.scope.context)
      (named : new.name ≠ []) (children : new.children = []) (imports : new.imports = [])
      (inside : new.InsideEvent event) (frames : d'.scope.frames = d.scope.frames)
      (pending : d'.scope.pending = none ∨
        new.kind ≠ .inherit ∧ d'.scope.pending = some ⟨new.name, d.declarations.length⟩)

namespace Draft

/-! ### The helpers -/

/-- A report about a name changes neither declarations nor scope. -/
theorem warnDuplicate_fields (d : Draft) (line column : Nat) (name : Text) :
    (d.warnDuplicate line column name).declarations = d.declarations ∧
      (d.warnDuplicate line column name).scope = d.scope := by
  rw [warnDuplicate]
  split <;> exact ⟨rfl, rfl⟩

/-- The declaration that `declare` adds. -/
def declaration (d : Draft) (kind : Kind) (line column : Nat) (name : Text)
    (target : Option Text) : Declaration :=
  { name := name, kind := kind, line := line, column := column
    context := d.scope.context, parent := d.scope.current, children := [], imports := []
    target := target }

/-- Declaring adds one declaration and leaves the scope alone. -/
theorem declare_fields (d : Draft) (kind : Kind) (line column : Nat) (name : Text)
    (target : Option Text) :
    (d.declare kind line column name target).declarations
        = grow d.declarations (d.declaration kind line column name target) ∧
      (d.declare kind line column name target).scope = d.scope := by
  obtain ⟨hds, hscope⟩ := warnDuplicate_fields d line column name
  simp only [declare, hds, hscope]
  exact ⟨rfl, trivial⟩

/-- Declaring a name imports nothing and warns of nothing but a name that
is there already. -/
theorem warnings_declare (d : Draft) (kind : Kind) (line column : Nat) (name : Text)
    (target : Option Text) :
    (d.declare kind line column name target).unattached = d.unattached ∧
      ∀ w ∈ (d.declare kind line column name target).warnings, w ∈ d.warnings ∨
        ∃ fullName line location, w = (Problem.duplicate fullName line).reportAt location := by
  simp only [declare, warnDuplicate]
  split
  · refine ⟨rfl, fun w hw => ?_⟩
    rcases List.mem_append.1 hw with hw | hw
    · exact Or.inl hw
    · exact Or.inr ⟨_, _, _, List.mem_singleton.1 hw⟩
  · exact ⟨rfl, fun w hw => Or.inl hw⟩

/-- A name that stands in a statement stands inside its event. -/
theorem insideEvent_declaration (d : Draft) (kind : Kind) (line column depth : Nat)
    (terminated : Bool) (target : Option Text) {text : Text} {name : Token}
    (h : name.StandsIn text) :
    (d.declaration kind line (column + name.offset) name.text target).InsideEvent
      (line, .statement text column depth terminated) := by
  have hle := h.offset_add_length_le
  refine ⟨rfl, Nat.le_add_right _ _, ?_⟩
  show column + name.offset + name.text.length ≤ column + text.length
  omega

/-! ### The step -/

/-- A statement declares, imports, or does nothing. -/
theorem takeStatement_change (d : Draft) (line column depth : Nat) (terminated : Bool)
    (text : Text) :
    Change d (line, .statement text column depth terminated)
      (d.takeStatement line column text) := by
  have hnames := Statement.namesStandIn_read text
  rw [takeStatement]
  split
  next token _ =>
    rw [attach]
    split
    next owner howner => exact .imported owner _ howner rfl (Or.inl rfl)
    next => exact .idle rfl (Or.inl rfl)
  next found hread =>
    -- An inherit statement sends the waiting declaration away, named or not.
    rw [hread] at hnames
    cases found with
    | none => exact .idle rfl (Or.inr rfl)
    | some pair =>
        obtain ⟨name, target⟩ := pair
        obtain ⟨hds, hscope⟩ := declare_fields d .inherit line (column + name.offset) name.text
          (some target)
        refine .declared _ hds rfl rfl hnames.1 rfl rfl
          (insideEvent_declaration d .inherit line column depth terminated _ hnames.2) ?_
          (Or.inl rfl)
        simp [hscope, Scope.dismiss]
  next kind name hread =>
    rw [hread] at hnames
    obtain ⟨hopens, hne, hstands⟩ := hnames
    obtain ⟨hds, hscope⟩ := declare_fields d kind line (column + name.offset) name.text none
    refine .declared _ hds rfl rfl hne rfl rfl
      (insideEvent_declaration d kind line column depth terminated _ hstands) ?_ (Or.inr ⟨?_, rfl⟩)
    · simp [hscope, Scope.await]
    · -- No keyword introduces an inherit statement.
      rintro hkind
      rw [show kind = .inherit from hkind] at hopens
      exact Bool.noConfusion hopens
  next => exact .idle rfl (Or.inl rfl)

/-- Sending a waiting declaration away afterwards is a change of the same
kind. -/
theorem Change.dismiss {d d' : Draft} {event : Nat × Event} (h : Change d event d') :
    Change d event { d' with scope := d'.scope.dismiss } := by
  have hrests (hrest : d.scope.Rests d'.scope) : d.scope.Rests d'.scope.dismiss := by
    rcases hrest with hsame | hsame
    · exact Or.inr (by rw [hsame])
    · exact Or.inr (by rw [hsame, Scope.dismiss, Scope.dismiss])
  cases h with
  | entered declarations scope =>
      exact .entered declarations (by rw [scope, Scope.enter, Scope.dismiss])
  | left declarations scope =>
      refine .left declarations ?_
      simp only [scope, Scope.leave]
      split <;> rfl
  | idle declarations scope => exact .idle declarations (hrests scope)
  | imported owner found current declarations scope =>
      exact .imported owner found current declarations (hrests scope)
  | declared new declarations parent context named children imports inside frames _ =>
      exact .declared new declarations parent context named children imports inside frames
        (Or.inl rfl)

/-- Every event makes one of the changes. -/
theorem step_change (d : Draft) (event : Nat × Event) : Change d event (d.step event) := by
  obtain ⟨line, event⟩ := event
  cases event with
  | opening column => exact .entered rfl rfl
  | closing column =>
      show Change d _ (if d.scope.leave.1.isNone
        then { d with scope := d.scope.leave.2 }.warn .strayBrace line column 1
        else { d with scope := d.scope.leave.2 })
      split <;> exact .left rfl rfl
  | statement text column depth terminated =>
      -- Inside parentheses a statement says nothing.
      have htaken : Change d (line, .statement text column depth terminated)
          (if depth = 0 then d.takeStatement line column text else d) := by
        split
        · exact takeStatement_change d line column depth terminated text
        · exact .idle rfl (Or.inl rfl)
      rw [step]
      split
      · exact htaken.dismiss
      · exact htaken

/-- Declaring does not change the file that is read. -/
theorem file_declare (d : Draft) (kind : Kind) (line column : Nat) (name : Text)
    (target : Option Text) : (d.declare kind line column name target).file = d.file := by
  simp only [declare, warnDuplicate]
  split <;> rfl

/-- No event changes the file that is read. -/
theorem file_step (d : Draft) (event : Nat × Event) : (d.step event).file = d.file := by
  have htaken (line column : Nat) (text : Text) :
      (d.takeStatement line column text).file = d.file := by
    rw [takeStatement]
    split
    next =>
      rw [attach]
      split <;> rfl
    next found _ =>
      cases found with
      | none => rfl
      | some pair => exact file_declare d .inherit line _ pair.1.text (some pair.2)
    next kind name _ => exact file_declare d kind line _ name.text none
    next => rfl
  obtain ⟨line, event⟩ := event
  cases event with
  | opening column => rfl
  | closing column =>
      simp only [step]
      split <;> rfl
  | statement text column depth terminated =>
      simp only [step]
      split <;> split <;> first | exact htaken .. | rfl

/-- No events change the file that is read. -/
theorem file_foldl (d : Draft) (events : List (Nat × Event)) :
    (events.foldl step d).file = d.file := by
  induction events generalizing d with
  | nil => rfl
  | cons event events ih => rw [List.foldl_cons, ih, file_step]

end Draft

/-- An outline is that of the path in its shortest form. -/
theorem Outline.file_read (file : Path) (source : Text) :
    (Outline.read file source).file = file.normalize :=
  Draft.file_foldl _ _

end DefIndex
