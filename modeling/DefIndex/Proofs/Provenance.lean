import DefIndex.Proofs.Scoping

/-!
# `DefIndex.Proofs.Provenance`: where the parts of an outline come from

Every declaration, import and report of a stray brace in an outline was
put there by an event, and its place is that of a token of the event. This
file says so without a look at what the tokens are, so that a statement
about the text of a statement or about its place in a line can be carried
over to the outline.

* `Declaration.ReadFrom`, `Import.ReadFrom` and `Diagnostic.ReadFrom` tell
  what each part takes from its event.
* `Draft.ReadFrom` holds of a draft and the events that it has taken.
  `Draft.ReadFrom.step` proves it event by event.
* `Outline.readFrom_read` is the statement about a file.
-/

set_option autoImplicit false

namespace DefIndex

/-! ### The parts -/

/-- The name that a statement declares. -/
inductive Statement.Declares : Statement → Token → Prop where
  | inherits (name : Token) (target : Text) : Declares (.inherits (some (name, target))) name
  | keyword (kind : Kind) (name : Token) : Declares (.declares kind name) name

/-- The name of a declaration is a token of a statement outside
parentheses. -/
def Declaration.ReadFrom (e : Declaration) (events : List (Nat × Event)) : Prop :=
  ∃ (text : Text) (column : Nat) (terminated : Bool) (name : Token),
    (e.line, .statement text column 0 terminated) ∈ events ∧
      (Statement.read text).Declares name ∧
      e.name = name.text ∧ e.column = column + name.offset

/-- An import stands where the path token of a statement outside
parentheses stands. -/
def Import.ReadFrom (file : Path) (i : Import) (events : List (Nat × Event)) : Prop :=
  ∃ (line : Nat) (text : Text) (column : Nat) (terminated : Bool) (token : Token),
    (line, .statement text column 0 terminated) ∈ events ∧
      Statement.read text = .imports token ∧
      i = ⟨importPath file (Statement.pathText token.text),
        .span file line (column + token.offset) token.text.length⟩

/-- A report of a stray brace stands where the brace stands. -/
def Diagnostic.ReadFrom (file : Path) (w : Diagnostic) (events : List (Nat × Event)) : Prop :=
  w.message = Problem.strayBrace.message →
    ∃ line column, (line, .closing column) ∈ events ∧ w.location = .span file line column 1

namespace Draft

/-- The parts of a draft come from events. -/
structure ReadFrom (d : Draft) (events : List (Nat × Event)) : Prop where
  names : ∀ e ∈ d.declarations, e.ReadFrom events
  attached : ∀ e ∈ d.declarations, ∀ i ∈ e.imports, i.ReadFrom d.file events
  unattached : ∀ i ∈ d.unattached, i.ReadFrom d.file events
  braces : ∀ w ∈ d.warnings, w.ReadFrom d.file events

variable {d : Draft} {events : List (Nat × Event)}

/-! ### One event -/

/-- Nothing has been read at first. -/
theorem readFrom_start (file : Path) (events : List (Nat × Event)) :
    (start file).ReadFrom events := by
  refine ⟨?_, ?_, ?_, ?_⟩ <;> simp [start]

/-- The scope holds no parts. -/
theorem ReadFrom.withScope (h : d.ReadFrom events) (scope : Scope) :
    ReadFrom { d with scope := scope } events :=
  ⟨h.names, h.attached, h.unattached, h.braces⟩

/-- No report but that of a stray brace reads like it. -/
theorem readFrom_reportAt {file : Path} {problem : Problem} {location : Location}
    (h : problem.message ≠ Problem.strayBrace.message) :
    (problem.reportAt location).ReadFrom file events := fun hsame => absurd hsame h

/-- A report of a repeated name does not read like one of a stray brace. -/
theorem message_duplicate_ne (fullName : Text) (line : Nat) :
    (Problem.duplicate fullName line).message ≠ Problem.strayBrace.message := by
  have hfirst : ("Duplicate definition: " : Text).head? = some 'D' := by decide
  intro h
  have hhead : (("Duplicate definition: " : Text) ++ fullName ++ " (first declared at line "
      ++ Text.ofNat line ++ ")").head? = Problem.strayBrace.message.head? := congrArg List.head? h
  rw [List.append_assoc, List.append_assoc, List.append_assoc, List.head?_append, hfirst,
    Option.some_or] at hhead
  exact absurd hhead (by decide)

/-- A declaration adds its name. -/
theorem ReadFrom.declare (h : d.ReadFrom events) {kind : Kind} {line column : Nat} {name : Text}
    {target : Option Text}
    (hnew : (d.declaration kind line column name target).ReadFrom events) :
    (d.declare kind line column name target).ReadFrom events := by
  obtain ⟨hunattached, hwarnings⟩ := warnings_declare d kind line column name target
  obtain ⟨hds, -⟩ := declare_fields d kind line column name target
  have hfile := file_declare d kind line column name target
  refine ⟨fun e he => ?_, fun e he i hi => ?_, fun i hi => ?_, fun w hw => ?_⟩
  · rw [hds] at he
    rcases exists_of_mem_grow he with rfl | ⟨e', he', children, rfl⟩
    · exact hnew
    · exact h.names e' he'
  · rw [hds] at he
    rw [hfile]
    rcases exists_of_mem_grow he with rfl | ⟨e', he', children, rfl⟩
    · cases hi
    · exact h.attached e' he' i hi
  · rw [hunattached] at hi
    rw [hfile]
    exact h.unattached i hi
  · rw [hfile]
    rcases hwarnings w hw with hw | ⟨fullName, first, location, rfl⟩
    · exact h.braces w hw
    · exact readFrom_reportAt (message_duplicate_ne fullName first)

/-- An import is added to the declaration around it or set aside. -/
theorem ReadFrom.attach (h : d.ReadFrom events) {found : Import}
    (hfound : found.ReadFrom d.file events) : (d.attach found).ReadFrom events := by
  rw [Draft.attach]
  split
  next owner _ =>
    have hold (e : Declaration)
        (he : e ∈ d.declarations.modify owner (Declaration.withImport found)) :
        ∃ e' ∈ d.declarations, e = e' ∨ e = e'.withImport found := by
      obtain ⟨i, hi⟩ := List.getElem?_of_mem he
      obtain ⟨e', he', hsame⟩ := getElem?_modify_withImport hi
      exact ⟨e', List.mem_of_getElem? he', hsame.imp_right And.right⟩
    refine ⟨fun e he => ?_, fun e he i hi => ?_, h.unattached, h.braces⟩
    · obtain ⟨e', he', rfl | rfl⟩ := hold e he
      · exact h.names e he'
      · have hnames := h.names e' he'
        rw [Declaration.withImport]
        split <;> exact hnames
    · obtain ⟨e', he', rfl | rfl⟩ := hold e he
      · exact h.attached e he' i hi
      · rw [Declaration.withImport] at hi
        split at hi
        · exact h.attached e' he' i hi
        · rcases List.mem_append.1 hi with hi | hi
          · exact h.attached e' he' i hi
          · rw [List.mem_singleton.1 hi]
            exact hfound
  next =>
    refine ⟨h.names, h.attached, fun i hi => ?_, fun w hw => ?_⟩
    · rcases List.mem_append.1 hi with hi | hi
      · exact h.unattached i hi
      · rw [List.mem_singleton.1 hi]
        exact hfound
    · rcases List.mem_append.1 hw with hw | hw
      · exact h.braces w hw
      · rw [List.mem_singleton.1 hw]
        exact readFrom_reportAt (by decide)

/-- A statement adds what it says. -/
theorem ReadFrom.takeStatement (h : d.ReadFrom events) {line column : Nat} {text : Text}
    {terminated : Bool} (hevent : (line, .statement text column 0 terminated) ∈ events) :
    (d.takeStatement line column text).ReadFrom events := by
  rw [Draft.takeStatement]
  split
  next token hread =>
    exact h.attach ⟨line, text, column, terminated, token, hevent, hread, rfl⟩
  next found hread =>
    cases found with
    | none => exact h.withScope _
    | some pair =>
        obtain ⟨name, target⟩ := pair
        have hname : (Statement.read text).Declares name := hread ▸ .inherits name target
        exact (h.declare ⟨text, column, terminated, name, hevent, hname, rfl, rfl⟩).withScope _
  next kind name hread =>
    have hname : (Statement.read text).Declares name := hread ▸ .keyword kind name
    exact (h.declare ⟨text, column, terminated, name, hevent, hname, rfl, rfl⟩).withScope _
  next => exact h

/-- An event adds what it says. -/
theorem ReadFrom.step (h : d.ReadFrom events) {event : Nat × Event} (hevent : event ∈ events) :
    (d.step event).ReadFrom events := by
  obtain ⟨line, event⟩ := event
  cases event with
  | opening column => exact h.withScope _
  | closing column =>
      simp only [Draft.step]
      split
      · refine ⟨h.names, h.attached, h.unattached, fun w hw => ?_⟩
        rcases List.mem_append.1 hw with hw | hw
        · exact h.braces w hw
        · rw [List.mem_singleton.1 hw]
          exact fun _ => ⟨line, column, hevent, rfl⟩
      · exact h.withScope _
  | statement text column depth terminated =>
      have htaken :
          (if depth = 0 then d.takeStatement line column text else d).ReadFrom events := by
        split
        next hzero =>
          subst hzero
          exact h.takeStatement hevent
        next => exact h
      simp only [Draft.step]
      split
      · exact htaken.withScope _
      · exact htaken

/-! ### A file -/

/-- Events that are taken one after the other add what they say. -/
theorem ReadFrom.foldl (h : d.ReadFrom events) {taken : List (Nat × Event)}
    (hsub : taken ⊆ events) : (taken.foldl Draft.step d).ReadFrom events := by
  induction taken generalizing d with
  | nil => exact h
  | cons event taken ih =>
      exact ih (h.step (hsub List.mem_cons_self)) fun e he => hsub (List.mem_cons_of_mem _ he)

end Draft

/-- The parts of an outline come from events. -/
structure Outline.ReadFrom (o : Outline) (events : List (Nat × Event)) : Prop where
  names : ∀ e ∈ o.declarations, e.ReadFrom events
  imports : ∀ i ∈ o.imports ++ o.unattached, i.ReadFrom o.file events
  braces : ∀ w ∈ o.warnings, w.ReadFrom o.file events

/-- What is read when a draft is finished has been read before. -/
theorem Draft.ReadFrom.finish {d : Draft} {events : List (Nat × Event)} (h : d.ReadFrom events)
    (lines : List CleanLine) : (d.finish lines).ReadFrom events where
  names := h.names
  imports i hi := by
    rcases List.mem_append.1 hi with hi | hi
    · obtain ⟨e, he, hi⟩ := List.mem_flatMap.1 hi
      exact h.attached e he i hi
    · exact h.unattached i hi
  braces := h.braces

/-- The parts of an outline come from the events of its file. -/
theorem Outline.readFrom_read (file : Path) (source : Text) :
    (Outline.read file source).ReadFrom (Event.ofLines 0 (Comment.cleanLines source)) :=
  ((Draft.readFrom_start _ _).foldl fun _ he => he).finish _

end DefIndex
