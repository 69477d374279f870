import DefIndex.Proofs.Braces
import DefIndex.Proofs.DraftStep

/-!
# `DefIndex.Proofs.Blocks`: who owns a block

A declaration by keyword waits for a block, and the next opening brace
belongs to it unless something sends it away first. The scope keeps a
stack and a waiting declaration to find out; this file describes the same
by the events alone.

* `Event.Waits` and `Event.InBlock` say when a declaration waits and when
  the block of a declaration is open.
* `Draft.pending_foldl_iff` and `Draft.getElem?_frames_iff` tell what the
  scope holds after any events: the frames are the braces that are still
  open, each with the declaration that waited when it was opened.
* `Draft.inBlock_iff`: there is an owner of the current block exactly
  inside such a block.
-/

set_option autoImplicit false

namespace DefIndex

open Braces

/-- A list that ends with an element, cut at an element: the cut is at the
last one or before it. -/
theorem concat_eq_append_cons_iff {α : Type} {xs front behind : List α} {x y : α} :
    xs ++ [x] = front ++ y :: behind ↔
      (behind = [] ∧ front = xs ∧ y = x) ∨
        ∃ rest, behind = rest ++ [x] ∧ xs = front ++ y :: rest := by
  constructor
  · intro h
    rcases List.eq_nil_or_concat behind with rfl | ⟨rest, last, rfl⟩
    · obtain ⟨rfl, hlast⟩ := List.append_inj' h rfl
      exact Or.inl ⟨rfl, rfl, (List.singleton_inj.1 hlast).symm⟩
    · rw [List.concat_eq_append, ← List.cons_append, ← List.append_assoc] at h
      obtain ⟨rfl, hlast⟩ := List.append_inj' h rfl
      exact Or.inr ⟨rest, by rw [List.singleton_inj.1 hlast, List.concat_eq_append], rfl⟩
  · rintro (⟨rfl, rfl, rfl⟩ | ⟨rest, rfl, rfl⟩)
    · rfl
    · rw [List.append_assoc, List.cons_append]

namespace Event

/-- The name that waits for a block after an event: it is declared by
keyword, outside parentheses, and no `;` ends the statement. -/
def awaiting? : Event → Option Token
  | .statement text _ 0 false =>
    match Statement.read text with
    | .declares _ name => some name
    | _ => none
  | _ => none

/-- Whether a declaration goes on waiting for its block: the event is no
brace, no `;` ends it, and it does not declare or inherit outside
parentheses. -/
def passesBy : Event → Bool
  | .statement _ _ (_ + 1) false => true
  | .statement text _ 0 false =>
    match Statement.read text with
    | .imports _ | .other => true
    | _ => false
  | _ => false

/-- What passes by declares nothing. -/
theorem awaiting?_of_passesBy {event : Event} (h : event.passesBy = true) :
    event.awaiting? = none := by
  cases event with
  | statement text column depth terminated =>
      cases terminated with
      | true => cases depth <;> rfl
      | false =>
          cases depth with
          | succ depth => rfl
          | zero =>
              simp only [passesBy, awaiting?] at h ⊢
              cases hread : Statement.read text <;> simp_all
  | opening column => rfl
  | closing column => rfl

/-- A declaration waits for its block: all events after it pass by. -/
def Waits (events : List (Nat × Event)) : Prop :=
  ∃ front event quiet, events = front ++ event :: quiet ∧ event.2.awaiting?.isSome = true ∧
    ∀ q ∈ quiet, q.2.passesBy = true

/-- The block of a declaration is open: a brace that a declaration waited
for is not closed yet. -/
def InBlock (events : List (Nat × Event)) : Prop :=
  ∃ front line column behind, events = front ++ (line, .opening column) :: behind ∧
    Waits front ∧ StaysOpen (braces behind)

end Event

namespace Draft

/-! ### One event -/

/-- What a statement does to the scope. -/
theorem scope_takeStatement (d : Draft) (line column : Nat) (text : Text) :
    (d.takeStatement line column text).scope = match Statement.read text with
      | .imports _ | .other => d.scope
      | .inherits _ => d.scope.dismiss
      | .declares _ name => d.scope.await ⟨name.text, d.declarations.length⟩ := by
  cases hread : Statement.read text with
  | imports token =>
      simp only [takeStatement, hread, attach]
      split <;> rfl
  | inherits found =>
      simp only [takeStatement, hread]
      cases found with
      | none => rfl
      | some pair => exact congrArg Scope.dismiss (declare_fields ..).2
  | declares kind name =>
      simp only [takeStatement, hread]
      exact congrArg (Scope.await · _) (declare_fields ..).2
  | other => simp only [takeStatement, hread]

/-- A closing brace leaves the innermost block, and reports nothing else to
the scope. -/
theorem scope_step_closing (d : Draft) (line column : Nat) :
    (d.step (line, .closing column)).scope = d.scope.leave.2 := by
  show (if d.scope.leave.1.isNone then
    { d with scope := d.scope.leave.2 }.warn .strayBrace line column 1
    else { d with scope := d.scope.leave.2 }).scope = _
  rw [apply_ite Draft.scope, warn, ite_self]

/-- What an event does to the open blocks. -/
theorem frames_step (d : Draft) (event : Nat × Event) :
    (d.step event).scope.frames = match event.2 with
      | .opening _ => d.scope.pending :: d.scope.frames
      | .closing _ => d.scope.frames.tail
      | .statement .. => d.scope.frames := by
  obtain ⟨line, event⟩ := event
  cases event with
  | opening column => rfl
  | closing column =>
      rw [scope_step_closing, Scope.leave]
      cases d.scope.frames <;> rfl
  | statement text column depth terminated =>
      have htaken : (d.takeStatement line column text).scope.frames = d.scope.frames := by
        rw [scope_takeStatement]
        cases Statement.read text <;> rfl
      simp only [step, apply_ite Draft.scope, apply_ite Scope.frames, Scope.dismiss, htaken,
        ite_self]

/-- What an event does to a waiting declaration. -/
theorem pending_step (d : Draft) (event : Nat × Event) :
    (d.step event).scope.pending = match event.2.awaiting? with
      | some name => some ⟨name.text, d.declarations.length⟩
      | none => if event.2.passesBy = true then d.scope.pending else none := by
  obtain ⟨line, event⟩ := event
  cases event with
  | opening column => rfl
  | closing column =>
      rw [scope_step_closing, Scope.leave]
      split <;> rfl
  | statement text column depth terminated =>
      cases terminated with
      | true => cases depth <;> rfl
      | false =>
          cases depth with
          | succ depth => rfl
          | zero =>
              have htaken := congrArg Scope.pending (scope_takeStatement d line column text)
              cases hread : Statement.read text <;>
                simp only [hread, Scope.dismiss, Scope.await] at htaken <;>
                simpa [step, Event.awaiting?, Event.passesBy, hread] using htaken

/-! ### Many events -/

/-- The outline in the making after events. -/
def after (file : Path) (events : List (Nat × Event)) : Draft := events.foldl step (start file)

/-- One more event is one more step. -/
theorem after_concat (file : Path) (events : List (Nat × Event)) (event : Nat × Event) :
    after file (events ++ [event]) = (after file events).step event := by
  rw [after, List.foldl_append, List.foldl_cons, List.foldl_nil, after]

/-- Whoever waits was declared by an event that all later ones pass by. -/
theorem pending_after_iff {file : Path} {events : List (Nat × Event)} {o : Owner} :
    (after file events).scope.pending = some o ↔
      ∃ front event quiet, events = front ++ event :: quiet ∧
        (∃ name, event.2.awaiting? = some name ∧
          o = ⟨name.text, (after file front).declarations.length⟩) ∧
        ∀ q ∈ quiet, q.2.passesBy = true := by
  induction events using List.reverseRecOn with
  | nil => simp [after, start, Scope.empty]
  | append_singleton events event ih =>
      rw [after_concat, pending_step]
      simp only [concat_eq_append_cons_iff]
      constructor
      · intro h
        cases hname : event.2.awaiting? with
        | some name =>
            rw [hname] at h
            exact ⟨events, event, [], Or.inl ⟨rfl, rfl, rfl⟩,
              ⟨name, hname, (Option.some.inj h).symm⟩, by simp⟩
        | none =>
            -- The event passes by, so whoever waits has waited before.
            simp only [hname, Option.ite_none_right_eq_some] at h
            obtain ⟨front, declaring, quiet, hevents, hdeclares, hquiet⟩ := ih.1 h.2
            refine ⟨front, declaring, quiet ++ [event], Or.inr ⟨quiet, rfl, hevents⟩, hdeclares, ?_⟩
            intro q hq
            rcases List.mem_append.1 hq with hq | hq
            · exact hquiet q hq
            · exact List.mem_singleton.1 hq ▸ h.1
      · rintro ⟨front, declaring, quiet, hcut, ⟨name, hname, rfl⟩, hquiet⟩
        rcases hcut with ⟨rfl, rfl, rfl⟩ | ⟨rest, rfl, hevents⟩
        · rw [hname]
        · have hpasses : event.2.passesBy = true := hquiet event (by simp)
          simp only [Event.awaiting?_of_passesBy hpasses, hpasses, if_true]
          exact ih.2 ⟨front, declaring, rest, hevents, ⟨name, hname, rfl⟩,
            fun q hq => hquiet q (List.mem_append_left _ hq)⟩

/-- Somebody waits. -/
theorem waits_iff (file : Path) {events : List (Nat × Event)} :
    (after file events).scope.pending.isSome = true ↔ Event.Waits events := by
  rw [Option.isSome_iff_exists]
  constructor
  · rintro ⟨o, ho⟩
    obtain ⟨front, event, quiet, hevents, ⟨name, hname, -⟩, hquiet⟩ := pending_after_iff.1 ho
    exact ⟨front, event, quiet, hevents, by rw [hname]; rfl, hquiet⟩
  · rintro ⟨front, event, quiet, hevents, hname, hquiet⟩
    obtain ⟨name, hname⟩ := Option.isSome_iff_exists.1 hname
    exact ⟨_, pending_after_iff.2 ⟨front, event, quiet, hevents, ⟨name, hname, rfl⟩, hquiet⟩⟩

/-- The `i`th brace from the inside that is still open after events, opened
while `frame` waited. -/
def Opened (file : Path) (events : List (Nat × Event)) (i : Nat) (frame : Frame) : Prop :=
  ∃ front line column behind, events = front ++ (line, .opening column) :: behind ∧
    StaysOpen (Event.braces behind) ∧
    (Event.braces behind).count '{' = (Event.braces behind).count '}' + i ∧
    (after file front).scope.pending = frame

section Opened

variable {file : Path} {events : List (Nat × Event)} {i : Nat} {frame : Frame}

/-- What an event makes of the braces that were open before it. -/
theorem opened_concat {event : Nat × Event} :
    Opened file (events ++ [event]) i frame ↔
      ((∃ line column, event = (line, .opening column)) ∧ i = 0 ∧
        (after file events).scope.pending = frame) ∨
      ∃ front line column behind, events = front ++ (line, .opening column) :: behind ∧
        StaysOpen (Event.braces (behind ++ [event])) ∧
        (Event.braces (behind ++ [event])).count '{'
          = (Event.braces (behind ++ [event])).count '}' + i ∧
        (after file front).scope.pending = frame := by
  simp only [Opened, concat_eq_append_cons_iff]
  constructor
  · rintro ⟨front, line, column, behind, ⟨rfl, rfl, rfl⟩ | ⟨rest, rfl, hevents⟩, hopen, hcount,
      hframe⟩
    · have hi : i = 0 := by simpa [Event.braces, Event.marks] using hcount.symm
      exact Or.inl ⟨⟨line, column, rfl⟩, hi, hframe⟩
    · exact Or.inr ⟨front, line, column, rest, hevents, hopen, hcount, hframe⟩
  · rintro (⟨⟨line, column, rfl⟩, rfl, hframe⟩ |
      ⟨front, line, column, behind, hevents, hopen, hcount, hframe⟩)
    · exact ⟨events, line, column, [], Or.inl ⟨rfl, rfl, rfl⟩, staysOpen_nil, rfl, hframe⟩
    · exact ⟨front, line, column, _, Or.inr ⟨behind, rfl, hevents⟩, hopen, hcount, hframe⟩

/-- A statement opens and closes nothing. -/
theorem opened_statement {line column depth : Nat} {text : Text} {terminated : Bool} :
    Opened file (events ++ [(line, .statement text column depth terminated)]) i frame ↔
      Opened file events i frame := by
  rw [opened_concat]
  simp [Event.braces_concat, Event.mark?, Opened]

/-- An opening brace opens one more, inside all others. -/
theorem opened_opening {line column : Nat} :
    Opened file (events ++ [(line, .opening column)]) i frame ↔
      (i = 0 ∧ (after file events).scope.pending = frame) ∨
        ∃ j, i = j + 1 ∧ Opened file events j frame := by
  rw [opened_concat]
  refine or_congr ⟨fun ⟨_, hi, hframe⟩ => ⟨hi, hframe⟩,
    fun ⟨hi, hframe⟩ => ⟨⟨line, column, rfl⟩, hi, hframe⟩⟩ ?_
  simp only [Event.braces_concat, Event.mark?, Option.map_some, Option.toList_some,
    staysOpen_concat, count_concat_opening]
  constructor
  · -- A brace that was open before has the new one inside it.
    rintro ⟨front, line, column, behind, hevents, ⟨hopen, hle⟩, hcount, hframe⟩
    have hbehind := hopen _ (List.prefix_refl _)
    exact ⟨i - 1, by omega, front, line, column, behind, hevents, hopen, by omega, hframe⟩
  · rintro ⟨j, rfl, front, line, column, behind, hevents, hopen, hcount, hframe⟩
    exact ⟨front, line, column, behind, hevents, ⟨hopen, by omega⟩, by omega, hframe⟩

/-- A closing brace closes the innermost one. -/
theorem opened_closing {line column : Nat} :
    Opened file (events ++ [(line, .closing column)]) i frame ↔
      Opened file events (i + 1) frame := by
  rw [opened_concat, Opened]
  simp only [Event.braces_concat, Event.mark?, Option.map_some, Option.toList_some,
    staysOpen_concat, count_concat_closing]
  constructor
  · rintro (⟨⟨_, _, hevent⟩, -⟩ |
      ⟨front, line, column, behind, hevents, ⟨hopen, hle⟩, hcount, hframe⟩)
    · cases hevent
    · exact ⟨front, line, column, behind, hevents, hopen, by omega, hframe⟩
  · rintro ⟨front, line, column, behind, hevents, hopen, hcount, hframe⟩
    exact Or.inr ⟨front, line, column, behind, hevents, ⟨hopen, by omega⟩, by omega, hframe⟩

/-- The frames of the scope are the braces that are still open. -/
theorem getElem?_frames_iff :
    (after file events).scope.frames[i]? = some frame ↔ Opened file events i frame := by
  -- Event by event; a brace moves the places of all frames by one.
  induction events using List.reverseRecOn generalizing i with
  | nil => simp [after, start, Scope.empty, Opened]
  | append_singleton events event ih =>
      rw [after_concat, frames_step]
      obtain ⟨line, event⟩ := event
      cases event with
      | opening column =>
          rw [opened_opening]
          cases i with
          | zero => simp
          | succ j => simp [ih]
      | closing column =>
          rw [opened_closing, ← ih, List.getElem?_tail]
      | statement text column depth terminated =>
          rw [opened_statement, ← ih]

/-- A frame of the scope is a brace that is still open. -/
theorem mem_frames_iff :
    frame ∈ (after file events).scope.frames ↔
      ∃ front line column behind, events = front ++ (line, .opening column) :: behind ∧
        StaysOpen (Event.braces behind) ∧ (after file front).scope.pending = frame := by
  simp only [List.mem_iff_getElem?, getElem?_frames_iff, Opened]
  constructor
  · rintro ⟨i, front, line, column, behind, hevents, hopen, -, hframe⟩
    exact ⟨front, line, column, behind, hevents, hopen, hframe⟩
  · rintro ⟨front, line, column, behind, hevents, hopen, hframe⟩
    have hle := hopen _ (List.prefix_refl _)
    exact ⟨_, front, line, column, behind, hevents, hopen, (Nat.add_sub_of_le hle).symm, hframe⟩

/-- A brace is open if a block is. -/
theorem hasOpen_iff (file : Path) (events : List (Nat × Event)) :
    HasOpen (Event.braces events) ↔ (after file events).scope.frames ≠ [] := by
  constructor
  · rintro ⟨outer, inside, hbraces, hopen⟩
    obtain ⟨front, line, column, behind, rfl, rfl⟩ := Event.exists_of_braces_eq hbraces
    exact List.ne_nil_of_mem (mem_frames_iff.2 ⟨front, line, column, behind, rfl, hopen, rfl⟩)
  · intro hframes
    obtain ⟨frame, hframe⟩ := List.exists_mem_of_ne_nil _ hframes
    obtain ⟨front, line, column, behind, rfl, hopen, -⟩ := mem_frames_iff.1 hframe
    exact ⟨Event.braces front, Event.braces behind,
      by simp [Event.braces, Event.marks, Event.mark?], hopen⟩

/-- The current block has an owner inside the block of a declaration. -/
theorem inBlock_iff (file : Path) (events : List (Nat × Event)) :
    Event.InBlock events ↔ (after file events).scope.current.isSome = true := by
  have howner : (after file events).scope.current.isSome = true ↔
      ∃ o, some o ∈ (after file events).scope.frames := by
    rw [Scope.current, Option.isSome_map, Scope.owners, List.head?_filterMap,
      List.findSome?_isSome_iff]
    constructor
    · rintro ⟨frame, hframe, hsome⟩
      obtain ⟨o, rfl⟩ := Option.isSome_iff_exists.1 hsome
      exact ⟨o, hframe⟩
    · exact fun ⟨o, ho⟩ => ⟨some o, ho, rfl⟩
  rw [howner]
  simp only [mem_frames_iff, Event.InBlock, ← waits_iff file, Option.isSome_iff_exists]
  constructor
  · rintro ⟨front, line, column, behind, hevents, ⟨o, ho⟩, hopen⟩
    exact ⟨o, front, line, column, behind, hevents, hopen, ho⟩
  · rintro ⟨o, front, line, column, behind, hevents, hopen, ho⟩
    exact ⟨front, line, column, behind, hevents, ⟨o, ho⟩, hopen⟩

end Opened

end Draft

instance : DecidablePred Event.InBlock := fun events =>
  decidable_of_iff _ (Draft.inBlock_iff .empty events).symm

end DefIndex
