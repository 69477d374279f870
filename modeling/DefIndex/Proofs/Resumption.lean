import DefIndex.Proofs.Prefixes

/-!
# `DefIndex.Proofs.Resumption`: reading goes on as it would start

Behind lines that leave nothing open a text is read as if it stood alone.
Only its places differ: its lines come further down, and its declarations
come behind those of the lines in front. This file proves it by running
both readings side by side.

* `Declaration.moved` is the declaration with its lines and its indices
  moved. `Draft.Resumes` ties the two outlines in the making together: one
  has the declarations of the other, moved, behind those in front, and its
  open blocks with the owners moved.
* `Draft.Resumes.step` is the simulation of one event, and
  `Draft.Resumes.foldl` that of a run.
* `Outline.Settled` says when a text leaves nothing open: no comment, no
  parenthesis, no brace, and no declaration that waits for its block.
* `Outline.incremental_read` is the statement about texts.

Reports are left out on purpose. A name of the lines in front may be
declared again behind them, and then a report is made that the text alone
does not give.
-/

set_option autoImplicit false

namespace DefIndex

/-! ### Further down -/

/-- A place `n` lines further down. -/
def Location.moved (n : Nat) (l : Location) : Location :=
  { l with line := l.line + n, endLine := l.endLine + n }

/-- An import `n` lines further down. -/
def Import.moved (n : Nat) (i : Import) : Import := { i with location := i.location.moved n }

/-- A declaration `n` lines further down, behind `k` other declarations. -/
def Declaration.moved (k n : Nat) (d : Declaration) : Declaration :=
  { d with
    line := d.line + n
    parent := d.parent.map (· + k)
    children := d.children.map (· + k)
    imports := d.imports.map (Import.moved n) }

/-- An owner behind `k` other declarations. -/
def Owner.moved (k : Nat) (o : Owner) : Owner := { o with key := o.key + k }

/-- Open blocks behind `k` other declarations. -/
def Scope.moved (k : Nat) (s : Scope) : Scope :=
  ⟨s.frames.map (Option.map (Owner.moved k)), s.pending.map (Owner.moved k)⟩

/-- A clean line `n` lines further down. -/
def CleanLine.moved (n : Nat) (line : CleanLine) : CleanLine :=
  { line with number := line.number + n }

/-- Numbers that start later are higher throughout. -/
theorem Comment.numberFrom_add (n m : Nat) (ts : List Text) :
    numberFrom (m + n) ts = (numberFrom m ts).map (CleanLine.moved n) := by
  induction ts generalizing m with
  | nil => rfl
  | cons t ts ih =>
      have hnext := ih (m + 1)
      rw [show m + 1 + n = m + n + 1 by omega] at hnext
      rw [numberFrom, numberFrom, hnext]
      rfl

/-- Lines further down have the same events further down. -/
theorem Event.ofLines_moved (n depth : Nat) (lines : List CleanLine) :
    ofLines depth (lines.map (CleanLine.moved n))
      = (ofLines depth lines).map fun event => (event.1 + n, event.2) := by
  induction lines generalizing depth with
  | nil => rfl
  | cons line rest ih =>
      rw [List.map_cons, ofLines, ofLines, List.map_append, List.map_map, ← ih]
      rfl

/-! ### The scope -/

section Scope

variable (k : Nat) (s : Scope)

/-- The owners of moved blocks. -/
theorem Scope.owners_moved : (s.moved k).owners = s.owners.map (Owner.moved k) := by
  show (s.frames.map _).filterMap id = (s.frames.filterMap id).map _
  rw [List.filterMap_map, List.map_filterMap]
  rfl

/-- The innermost owner of moved blocks. -/
theorem Scope.current_moved : (s.moved k).current = s.current.map (· + k) := by
  rw [current, owners_moved, List.head?_map, current, Option.map_map, Option.map_map]
  rfl

/-- Moving blocks leaves their names. -/
theorem Scope.context_moved : (s.moved k).context = s.context := by
  rw [context, owners_moved, List.map_map, context]
  rfl

/-- Moved blocks are left like the blocks. -/
theorem Scope.leave_moved :
    (s.moved k).leave = (s.leave.1.map (Option.map (Owner.moved k)), s.leave.2.moved k) := by
  obtain ⟨frames, pending⟩ := s
  cases frames <;> rfl

end Scope

/-! ### The declarations -/

/-- A moved declaration gets a moved import like the declaration gets the
import: which paths it has already is not up to its place. -/
theorem Declaration.withImport_moved (k n : Nat) (found : Import) (e : Declaration) :
    (e.moved k n).withImport (found.moved n) = (e.withImport found).moved k n := by
  have hpaths : (e.moved k n).imports.any (fun i => i.path = (found.moved n).path)
      = e.imports.any fun i => i.path = found.path := by
    show (e.imports.map (Import.moved n)).any _ = _
    rw [List.any_map]
    rfl
  rw [withImport, withImport, hpaths]
  split
  · rfl
  · simp [moved]

section Behind

variable {above ds : List Declaration} {n : Nat}

/-- An update behind other declarations. -/
theorem modify_append_map {g f f' : Declaration → Declaration} (hcomm : ∀ e, f' (g e) = g (f e))
    (i : Nat) :
    (above ++ ds.map g).modify (i + above.length) f' = above ++ (ds.modify i f).map g := by
  refine List.ext_getElem? fun j => ?_
  rw [List.getElem?_modify]
  by_cases hj : j < above.length
  · have hi : i + above.length ≠ j := by omega
    rw [List.getElem?_append_left hj, List.getElem?_append_left hj]
    simp [hi]
  · have hge : above.length ≤ j := Nat.le_of_not_lt hj
    have hi : i + above.length = j ↔ i = j - above.length := by omega
    rw [List.getElem?_append_right hge, List.getElem?_append_right hge, List.getElem?_map,
      List.getElem?_map, List.getElem?_modify]
    cases ds[j - above.length]? with
    | none => rfl
    | some e =>
        simp only [hi, Option.map_eq_map, Option.map_some, Option.some.injEq]
        split
        · exact hcomm e
        · rfl

/-- An import behind other declarations. -/
theorem modify_withImport_append (owner : Nat) (found : Import) :
    (above ++ ds.map (Declaration.moved above.length n)).modify (owner + above.length)
        (Declaration.withImport (found.moved n))
      = above ++ (ds.modify owner (Declaration.withImport found)).map
          (Declaration.moved above.length n) :=
  modify_append_map (fun e => e.withImport_moved above.length n found) owner

/-- A new declaration behind other declarations. -/
theorem grow_append (new : Declaration) :
    grow (above ++ ds.map (Declaration.moved above.length n)) (new.moved above.length n)
      = above ++ (grow ds new).map (Declaration.moved above.length n) := by
  have hlength : (above ++ ds.map (Declaration.moved above.length n)).length
      = ds.length + above.length := by
    rw [List.length_append, List.length_map, Nat.add_comm]
  rw [grow, grow, hlength, List.map_append, ← List.append_assoc]
  congr 1
  cases hparent : new.parent with
  | none =>
      rw [show (new.moved above.length n).parent = none by simp [Declaration.moved, hparent]]
      rfl
  | some p =>
      rw [show (new.moved above.length n).parent = some (p + above.length) by
        simp [Declaration.moved, hparent]]
      refine modify_append_map (fun e => ?_) p
      simp [Declaration.moved]

end Behind

/-! ### One event -/

namespace Draft

/-- Reading goes on behind the declarations `above`, `n` lines further down,
as another reading starts. -/
structure Resumes (above : List Declaration) (n : Nat) (d d' : Draft) : Prop where
  file : d'.file = d.file
  declarations : d'.declarations = above ++ d.declarations.map (Declaration.moved above.length n)
  scope : d'.scope = d.scope.moved above.length

namespace Resumes

variable {above : List Declaration} {n : Nat} {d d' : Draft}

/-- The same declaration is made, further down. -/
theorem declaration (h : Resumes above n d d') (kind : Kind) (line column : Nat) (name : Text)
    (target : Option Text) :
    d'.declaration kind (line + n) column name target
      = (d.declaration kind line column name target).moved above.length n := by
  have hcontext : d'.scope.context = d.scope.context := by rw [h.scope, Scope.context_moved]
  have hcurrent : d'.scope.current = d.scope.current.map (· + above.length) := by
    rw [h.scope, Scope.current_moved]
  simp [Draft.declaration, Declaration.moved, hcontext, hcurrent]

/-- Declaring a name in both readings. -/
theorem declare (h : Resumes above n d d') (kind : Kind) (line column : Nat) (name : Text)
    (target : Option Text) :
    Resumes above n (d.declare kind line column name target)
      (d'.declare kind (line + n) column name target) := by
  obtain ⟨hds, hscope⟩ := declare_fields d kind line column name target
  obtain ⟨hds', hscope'⟩ := declare_fields d' kind (line + n) column name target
  refine ⟨?_, ?_, ?_⟩
  · rw [file_declare, file_declare, h.file]
  · rw [hds, hds', h.declaration, h.declarations, grow_append]
  · rw [hscope, hscope', h.scope]

/-- An import in both readings. -/
theorem attach (h : Resumes above n d d') (found : Import) :
    Resumes above n (d.attach found) (d'.attach (found.moved n)) := by
  have hcurrent : d'.scope.current = d.scope.current.map (· + above.length) := by
    rw [h.scope, Scope.current_moved]
  rw [Draft.attach, Draft.attach, hcurrent]
  cases d.scope.current with
  | none => exact ⟨h.file, h.declarations, h.scope⟩
  | some owner =>
      refine ⟨h.file, ?_, h.scope⟩
      show d'.declarations.modify (owner + above.length) (Declaration.withImport _) = _
      rw [h.declarations]
      exact modify_withImport_append owner found

/-- The waiting declaration is sent away in both readings. -/
theorem dismiss (h : Resumes above n d d') :
    Resumes above n { d with scope := d.scope.dismiss } { d' with scope := d'.scope.dismiss } :=
  ⟨h.file, h.declarations, by rw [h.scope]; rfl⟩

/-- A statement in both readings. -/
theorem takeStatement (h : Resumes above n d d') (line column : Nat) (text : Text) :
    Resumes above n (d.takeStatement line column text)
      (d'.takeStatement (line + n) column text) := by
  rw [Draft.takeStatement, Draft.takeStatement]
  cases Statement.read text with
  | imports token =>
      rw [h.file]
      exact h.attach ⟨_, .span d.file line (column + token.offset) token.text.length⟩
  | inherits found =>
      cases found with
      | none => exact h.dismiss
      | some pair => exact (h.declare .inherit line _ pair.1.text (some pair.2)).dismiss
  | declares kind name =>
      have hdeclared := h.declare kind line (column + name.offset) name.text none
      refine ⟨hdeclared.file, hdeclared.declarations, ?_⟩
      show Scope.await .. = (Scope.await ..).moved above.length
      rw [hdeclared.scope, h.declarations]
      simp [Scope.await, Scope.moved, Owner.moved, Nat.add_comm]
  | other => exact h

/-- One event in both readings. -/
theorem step (h : Resumes above n d d') (event : Nat × Event) :
    Resumes above n (d.step event) (d'.step (event.1 + n, event.2)) := by
  obtain ⟨line, event⟩ := event
  cases event with
  | opening column => exact ⟨h.file, h.declarations, by
      show d'.scope.enter = _
      rw [h.scope]
      rfl⟩
  | closing column =>
      have hleave := Scope.leave_moved above.length d.scope
      rw [← h.scope] at hleave
      have hleft : Resumes above n { d with scope := d.scope.leave.2 }
          { d' with scope := d'.scope.leave.2 } :=
        ⟨h.file, h.declarations, congrArg Prod.snd hleave⟩
      have hclosed : d'.scope.leave.1.isNone = d.scope.leave.1.isNone := by
        rw [hleave, Option.isNone_map]
      show Resumes above n
        (if d.scope.leave.1.isNone
          then { d with scope := d.scope.leave.2 }.warn .strayBrace line column 1
          else { d with scope := d.scope.leave.2 })
        (if d'.scope.leave.1.isNone
          then { d' with scope := d'.scope.leave.2 }.warn .strayBrace (line + n) column 1
          else { d' with scope := d'.scope.leave.2 })
      rw [hclosed]
      split
      · exact ⟨hleft.file, hleft.declarations, hleft.scope⟩
      · exact hleft
  | statement text column depth terminated =>
      have htaken : Resumes above n
          (if depth = 0 then d.takeStatement line column text else d)
          (if depth = 0 then d'.takeStatement (line + n) column text else d') := by
        split
        · exact h.takeStatement line column text
        · exact h
      rw [Draft.step, Draft.step]
      split
      · exact htaken.dismiss
      · exact htaken

/-- Any events in both readings. -/
theorem foldl (h : Resumes above n d d') (events : List (Nat × Event)) :
    Resumes above n (events.foldl Draft.step d)
      ((events.map fun event => (event.1 + n, event.2)).foldl Draft.step d') := by
  induction events generalizing d d' with
  | nil => exact h
  | cons event events ih => exact ih (h.step event)

end Resumes

end Draft

/-! ### Texts -/

namespace Outline

/-- A text that leaves nothing open: behind it no comment and no parenthesis
goes on, every brace is closed, and no declaration waits for its block. -/
structure Settled (file : Path) (source : Text) : Prop where
  comments : Comment.stateAfter .code (Text.lines source) = .code
  parentheses : Event.depthAfter 0 (Comment.cleanLines source) = 0
  braces : ¬ Braces.HasOpen ((Comment.cleanLines source).flatMap CleanLine.text)
  pending : (read file source).pending = none

/-- What the outline of a text has in common with the outline of the text
with more behind it. -/
structure Incremental (file : Path) (front back : Text) : Prop where
  /-- The outline of the text is the start of the other one. -/
  start : (read file front).Extends (read file (front ++ back))
  /-- If the text leaves nothing open, then the other one has the same
  declarations, and behind them those of the text behind it, moved. -/
  rest : Settled file front →
    (read file (front ++ back)).declarations = (read file front).declarations
      ++ (read file back).declarations.map
        (.moved (read file front).declarations.length (Text.lines front).length)

/-- A brace is open behind events if one is open behind the lines that they
were cut from. -/
theorem hasOpen_ofLines_iff (depth : Nat) (lines : List CleanLine) :
    Braces.HasOpen (Event.braces (Event.ofLines depth lines))
      ↔ Braces.HasOpen (lines.flatMap CleanLine.text) := by
  have hchars : (Braces.marksOf lines).map Braces.Mark.char = lines.flatMap CleanLine.text := by
    rw [Braces.marksOf, List.map_flatMap]
    congr 1
    funext line
    rw [Braces.marksFrom, List.map_map]
    exact List.zipIdx_map_fst 1 line.text
  have hfilter : ((Braces.marksOf lines).filter fun mark => Braces.isBrace mark.char).map
      Braces.Mark.char = (lines.flatMap CleanLine.text).filter Braces.isBrace := by
    rw [← hchars, List.filter_map]
    rfl
  rw [Event.braces, Event.marks_ofLines, hfilter, Braces.hasOpen_filter]

/-- Behind a text that leaves nothing open no block is open and nobody
waits. -/
theorem Settled.scope_after {file : Path} {source : Text} (h : Settled file source) :
    (Draft.after file.normalize (Event.ofLines 0 (Comment.cleanLines source))).scope
      = Scope.empty := by
  have hbraces := h.braces
  rw [← hasOpen_ofLines_iff 0, Draft.hasOpen_iff file.normalize, not_ne_iff] at hbraces
  have hpending := h.pending
  rw [read_eq] at hpending
  have hnobody := Option.map_eq_none_iff.1 hpending
  revert hbraces hnobody
  cases (Draft.after file.normalize (Event.ofLines 0 (Comment.cleanLines source))).scope
  rintro rfl rfl
  rfl

/-- More text behind whole lines: their outline is the start of the new one,
and where they leave nothing open, the rest of it is the outline of the new
text, moved behind the old one. -/
theorem incremental_read (file : Path) (front back : Text) (h : front.Whole) :
    Incremental file front back where
  start := extends_read h file back
  rest := by
    intro hsettled
    let above := (read file front).declarations
    let n := (Text.lines front).length
    let clean := Comment.cleanLines back
    -- The lines behind are the lines of the text alone, further down.
    have hlines : Comment.numberFrom (1 + n) (Comment.cleanTexts .code (Text.lines back))
        = clean.map (CleanLine.moved n) := Comment.numberFrom_add n 1 _
    have hstart : Draft.Resumes above n (.start file.normalize)
        (.after file.normalize (Event.ofLines 0 (Comment.cleanLines front))) :=
      ⟨Draft.file_after .., (List.append_nil _).symm, hsettled.scope_after⟩
    have hresumes := (hstart.foldl (Event.ofLines 0 clean)).declarations
    rw [← Event.ofLines_moved] at hresumes
    rw [read_eq, after_append h, hsettled.comments, hsettled.parentheses, hlines]
    exact hresumes

/-- The upper part of a file: a closed block below a comment of two lines. -/
def upperPart : Text :=
  "/* one\n  two */ CREATE BASE Page \x7b CREATE TAG Title; IMPORT head\n\x7d\n"

/-- The lower part, which declares the same names again. -/
def lowerPart : Text :=
  "CREATE BASE Page \x7b\nCREATE TAG Title; IMPORT foot \x7d\n?Page.Title AS Name"

/-- The declarations of the lower part come behind the two of the upper part,
three lines further down. -/
theorem incremental_read_parts :
    upperPart.Whole ∧ Settled (.parse "/ws/a.mql") upperPart ∧
      ((read (.parse "/ws/a.mql") (upperPart ++ lowerPart)).declarations.map fun d =>
          (d.line, d.parent, d.children))
        = [(2, none, [1]), (2, some 0, []), (4, none, [3]), (5, some 2, []), (6, none, [])] ∧
      Incremental (.parse "/ws/a.mql") upperPart lowerPart := by
  refine ⟨by decide, ⟨by decide +kernel, by decide +kernel, by decide +kernel, by decide +kernel⟩,
    by decide +kernel, ?_⟩
  exact incremental_read _ upperPart lowerPart (by decide)

end Outline

end DefIndex
