import DefIndex.Proofs.FirstPerKey
import DefIndex.Proofs.Prefixes
import DefIndex.Proofs.Slices

/-!
# `DefIndex.Proofs.Ownership`: which declaration a block belongs to

Reading keeps a stack of blocks and one declaration that waits for the next
brace. This file tells the same from the events of the text alone. A
declaration by keyword owns the next opening brace unless something comes
between: the end of a statement, another brace, another declaration or an
inherit statement. What is declared or imported belongs to the owner of the
innermost owned block that is open there.

* `Event.Owns` is the rule for one brace, `Event.Within` the rule for a
  place in the text.
* `Draft.owns_iff` ties the first to the declaration that waits, and
  `Draft.within_iff` the second to the current block.
* `Draft.step_effect` says what an event adds, and where.
* `Outline.ownership_read` is the statement about a file: every declaration
  and every import of its outline is where the rules say.
-/

set_option autoImplicit false

namespace DefIndex

open Braces

/-! ### The rules -/

/-- Whether a statement holds the word of an import, with white space
behind it. -/
def Statement.isImport (text : Text) : Bool := (afterPhrase? ["IMPORT"] false text).isSome

namespace Event

/-- Whether a `;` ends the event. -/
def isEnded : Event → Bool
  | .statement _ _ _ terminated => terminated
  | _ => false

/-- Whether the event is a brace. -/
def isBrace : Event → Bool
  | .statement .. => false
  | _ => true

/-- What a statement says if it starts outside parentheses; inside it says
nothing. -/
def meaning : Event → Statement
  | .statement text _ 0 _ => Statement.read text
  | _ => .other

/-- Whether the event declares a name. -/
def declares (event : Event) : Bool :=
  match event.meaning with
  | .inherits (some _) | .declares .. => true
  | _ => false

/-- Whether the event declares a name that is no inherit statement's. -/
def declaresByKeyword (event : Event) : Bool :=
  match event.meaning with
  | .declares .. => true
  | _ => false

/-- Whether the event is a statement outside parentheses that starts with
the mark of a reference and is no import. -/
def startsInherit : Event → Bool
  | .statement text _ 0 _ =>
    (Text.trimStart text).head? == some sigil && !Statement.isImport text
  | _ => false

/-- The number of declarations among events, and so the index of the next
one. -/
def declaredIn (events : List (Nat × Event)) : Nat :=
  events.countP fun event => event.2.declares

/-- The declaration of index `k` owns a brace that comes next: it was made
by keyword, and from its statement on no `;` ends anything, no brace comes,
and nothing else is declared or inherited. -/
def Owns (events : List (Nat × Event)) (k : Nat) : Prop :=
  ∃ front event between, events = front ++ event :: between ∧
    event.2.declaresByKeyword = true ∧ declaredIn front = k ∧
    (∀ e ∈ event :: between, e.2.isEnded = false) ∧
    ∀ e ∈ between, e.2.isBrace = false ∧ e.2.declares = false ∧ e.2.startsInherit = false

/-- A block is open behind events that the declaration of index `k` owns; its
brace comes right behind `front`. -/
def OpenFor (events front : List (Nat × Event)) (k : Nat) : Prop :=
  ∃ line column behind, events = front ++ (line, .opening column) :: behind ∧
    StaysOpen (braces behind) ∧ Owns front k

/-- What comes behind events lies in the block of the declaration of index
`k`: of the owned blocks that are open, the one that was opened last. -/
def Within (events : List (Nat × Event)) (k : Nat) : Prop :=
  ∃ front, OpenFor events front k ∧
    ∀ front' k', OpenFor events front' k' → front'.length ≤ front.length

/-- The import that an event makes. -/
def import? (file : Path) (event : Nat × Event) : Option Import :=
  match event with
  | (line, .statement text column 0 _) =>
    match Statement.read text with
    | .imports token =>
      some ⟨importPath file (Statement.pathText token.text),
        .span file line (column + token.offset) token.text.length⟩
    | _ => none
  | _ => none

/-! ### Waiting -/

/-- An inherit statement starts with the mark of a reference and is no
import. -/
theorem read_eq_inherits_iff (text : Text) :
    (∃ found, Statement.read text = .inherits found) ↔
      ((Text.trimStart text).head? == some sigil && !Statement.isImport text) = true := by
  rw [Statement.read, Statement.isImport]
  cases hphrase : Statement.afterPhrase? ["IMPORT"] false text with
  | some rest =>
      simp only [Option.isSome_some, Bool.not_true, Bool.and_false, Bool.false_eq_true, iff_false]
      rintro ⟨found, hread⟩
      rw [Statement.readImport] at hread
      split at hread <;> cases hread
  | none =>
      simp only [Option.isSome_none, Bool.not_false, Bool.and_true, beq_iff_eq]
      constructor
      · rintro ⟨found, hread⟩
        split at hread
        next body hbody => rw [hbody]; rfl
        next =>
          rcases Statement.readDeclaration_cases text Kind.byKeyword with hother | ⟨_, _, _, hname⟩
          · rw [hother] at hread
            cases hread
          · rw [hname] at hread
            cases hread
      · intro hhead
        obtain ⟨body, hbody⟩ := List.head?_eq_some_iff.1 hhead
        rw [hbody]
        exact ⟨_, rfl⟩

/-- What lets a declaration go on waiting. -/
theorem passesBy_iff {event : Event} :
    event.passesBy = true ↔ event.isEnded = false ∧ event.isBrace = false ∧
      event.declares = false ∧ event.startsInherit = false := by
  cases event with
  | opening column => simp [passesBy, isBrace]
  | closing column => simp [passesBy, isBrace]
  | statement text column depth terminated =>
      cases terminated with
      | true => cases depth <;> simp [passesBy, isEnded]
      | false =>
          cases depth with
          | succ depth => simp [passesBy, isEnded, isBrace, declares, meaning, startsInherit]
          | zero =>
              -- An inherit statement stops the waiting with a name or without.
              have hinherits := read_eq_inherits_iff text
              simp only [passesBy, isEnded, isBrace, declares, meaning, startsInherit, true_and,
                ← Bool.not_eq_true, ← hinherits]
              cases hread : Statement.read text with
              | inherits found => cases found <;> simp
              | _ => simp

/-- Whose name waits for a block. -/
theorem isSome_awaiting?_iff {event : Event} :
    event.awaiting?.isSome = true ↔ event.declaresByKeyword = true ∧ event.isEnded = false := by
  cases event with
  | opening column => simp [awaiting?, declaresByKeyword, meaning]
  | closing column => simp [awaiting?, declaresByKeyword, meaning]
  | statement text column depth terminated =>
      cases terminated with
      | true => cases depth <;> simp [awaiting?, isEnded]
      | false =>
          cases depth with
          | succ depth => simp [awaiting?, declaresByKeyword, meaning]
          | zero =>
              simp only [awaiting?, declaresByKeyword, meaning, isEnded, and_true]
              cases Statement.read text <;> simp

end Event

namespace Draft

/-! ### What an event adds -/

/-- What an event can add to the declarations and to the imports. -/
inductive Effect (file : Path) (d : Draft) (event : Nat × Event) (d' : Draft) : Prop where
  /-- A declaration. -/
  | declared (new : Declaration) (added : d.added? event = some new)
      (importless : Event.import? file event = none)
      (declarations : d'.declarations = grow d.declarations new)
      (unattached : d'.unattached = d.unattached)
  /-- An import, for the owner of the current block. -/
  | imported (found : Import) (owner : Nat) (added : d.added? event = none)
      (imports : Event.import? file event = some found) (current : d.scope.current = some owner)
      (declarations : d'.declarations
        = d.declarations.modify owner (Declaration.withImport found))
      (unattached : d'.unattached = d.unattached)
  /-- An import that nobody takes. -/
  | setAside (found : Import) (added : d.added? event = none)
      (imports : Event.import? file event = some found) (current : d.scope.current = none)
      (declarations : d'.declarations = d.declarations)
      (unattached : d'.unattached = d.unattached ++ [found])
  /-- Nothing. -/
  | idle (added : d.added? event = none) (importless : Event.import? file event = none)
      (declarations : d'.declarations = d.declarations)
      (unattached : d'.unattached = d.unattached)

/-- Every event adds one of these. -/
theorem step_effect (d : Draft) (event : Nat × Event) :
    Effect d.file d event (d.step event) := by
  obtain ⟨line, event⟩ := event
  cases event with
  | opening column => exact .idle rfl rfl rfl rfl
  | closing column =>
      show Effect d.file d _ (if d.scope.leave.1.isNone
        then { d with scope := d.scope.leave.2 }.warn .strayBrace line column 1
        else { d with scope := d.scope.leave.2 })
      split <;> exact .idle rfl rfl rfl rfl
  | statement text column depth terminated =>
      -- The end of a statement changes the scope and nothing else.
      have hds : (d.step (line, .statement text column depth terminated)).declarations
          = (if depth = 0 then d.takeStatement line column text else d).declarations := by
        simp only [step, apply_ite Draft.declarations, ite_self]
      have hunattached : (d.step (line, .statement text column depth terminated)).unattached
          = (if depth = 0 then d.takeStatement line column text else d).unattached := by
        simp only [step, apply_ite Draft.unattached, ite_self]
      cases depth with
      | succ depth => exact .idle rfl rfl hds hunattached
      | zero =>
          -- Outside parentheses the statement decides, by what it says.
          rw [if_pos rfl] at hds hunattached
          cases hread : Statement.read text with
          | imports token =>
              simp only [takeStatement, hread, attach] at hds hunattached
              have himport : Event.import? d.file (line, .statement text column 0 terminated)
                  = some ⟨importPath d.file (Statement.pathText token.text),
                    .span d.file line (column + token.offset) token.text.length⟩ := by
                simp only [Event.import?, hread]
              have hadded : d.added? (line, .statement text column 0 terminated) = none := by
                simp only [added?, hread]
              cases hcurrent : d.scope.current with
              | some owner =>
                  simp only [hcurrent] at hds hunattached
                  exact .imported _ owner hadded himport hcurrent hds hunattached
              | none =>
                  simp only [hcurrent] at hds hunattached
                  exact .setAside _ hadded himport hcurrent hds hunattached
          | inherits found =>
              simp only [takeStatement, hread] at hds hunattached
              cases found with
              | none =>
                  exact .idle (by simp only [added?, hread]) (by simp only [Event.import?, hread])
                    hds hunattached
              | some pair =>
                  exact .declared _ (by simp only [added?, hread])
                    (by simp only [Event.import?, hread])
                    (hds.trans (declare_fields ..).1) (hunattached.trans (warnings_declare ..).1)
          | declares kind name =>
              simp only [takeStatement, hread] at hds hunattached
              exact .declared _ (by simp only [added?, hread])
                (by simp only [Event.import?, hread])
                (hds.trans (declare_fields ..).1) (hunattached.trans (warnings_declare ..).1)
          | other =>
              simp only [takeStatement, hread] at hds hunattached
              exact .idle (by simp only [added?, hread]) (by simp only [Event.import?, hread])
                hds hunattached

/-- A declaration is added for an event that declares. -/
theorem isSome_added?_iff (d : Draft) (event : Nat × Event) :
    (d.added? event).isSome = true ↔ event.2.declares = true := by
  obtain ⟨line, event⟩ := event
  cases event with
  | opening column => simp [added?, Event.declares, Event.meaning]
  | closing column => simp [added?, Event.declares, Event.meaning]
  | statement text column depth terminated =>
      cases depth with
      | succ depth => simp [added?, Event.declares, Event.meaning]
      | zero =>
          simp only [added?, Event.declares, Event.meaning]
          cases Statement.read text with
          | inherits found => cases found <;> simp
          | _ => simp

/-- It stands in the current block, its name is that of the event, and it
imports nothing yet. -/
theorem added?_fields {d : Draft} {event : Nat × Event} {new : Declaration}
    (h : d.added? event = some new) :
    new.parent = d.scope.current ∧ new.imports = [] ∧ new.ReadFrom [event] := by
  obtain ⟨line, event⟩ := event
  cases event with
  | opening column => cases h
  | closing column => cases h
  | statement text column depth terminated =>
      cases depth with
      | succ depth => cases h
      | zero =>
          simp only [added?] at h
          split at h
          next name target hread =>
            cases h
            exact ⟨rfl, rfl, text, column, terminated, name, by simp [declaration],
              hread ▸ .inherits name target, rfl, rfl⟩
          next kind name hread =>
            cases h
            exact ⟨rfl, rfl, text, column, terminated, name, by simp [declaration],
              hread ▸ .keyword kind name, rfl, rfl⟩
          next => cases h

/-- There are as many declarations as events that declare. -/
theorem length_declarations_after (file : Path) (events : List (Nat × Event)) :
    (after file events).declarations.length = Event.declaredIn events := by
  induction events using List.reverseRecOn with
  | nil => rfl
  | append_singleton events event ih =>
      have hlength := congrArg List.length ((after file events).headings_step event)
      rw [List.length_map, List.length_map, List.length_append, ih] at hlength
      rw [after_concat, hlength, Event.declaredIn, Event.declaredIn, List.countP_append,
        List.countP_singleton]
      have hadded := isSome_added?_iff (after file events) event
      cases hfound : (after file events).added? event with
      | none => simp [← hadded, hfound]
      | some new => simp [← hadded, hfound]

/-! ### Owners -/

section Owners

variable {events : List (Nat × Event)}

/-- The declaration that waits is the one that owns a brace if one comes. -/
theorem owns_iff (file : Path) {k : Nat} :
    Event.Owns events k ↔ ∃ o, (after file events).scope.pending = some o ∧ o.key = k := by
  constructor
  · rintro ⟨front, event, between, hevents, hkeyword, rfl, hended, hquiet⟩
    obtain ⟨hfirst, hrest⟩ := List.forall_mem_cons.1 hended
    obtain ⟨name, hname⟩ := Option.isSome_iff_exists.1
      (Event.isSome_awaiting?_iff.2 ⟨hkeyword, hfirst⟩)
    refine ⟨_, pending_after_iff.2 ⟨front, event, between, hevents, ⟨name, hname, rfl⟩, ?_⟩,
      length_declarations_after file front⟩
    exact fun e he => Event.passesBy_iff.2 ⟨hrest e he, hquiet e he⟩
  · rintro ⟨o, ho, rfl⟩
    obtain ⟨front, event, between, hevents, ⟨name, hname, rfl⟩, hquiet⟩ := pending_after_iff.1 ho
    obtain ⟨hkeyword, hfirst⟩ := Event.isSome_awaiting?_iff.1 (by rw [hname]; rfl)
    refine ⟨front, event, between, hevents, hkeyword, (length_declarations_after file front).symm, ?_, ?_⟩
    · exact List.forall_mem_cons.2 ⟨hfirst, fun e he => (Event.passesBy_iff.1 (hquiet e he)).1⟩
    · exact fun e he => (Event.passesBy_iff.1 (hquiet e he)).2

/-- Of two braces that are open the later one has fewer open braces behind
it. -/
theorem open_lt_of_length_lt {front front' behind behind' : List (Nat × Event)}
    {line line' column column' i j : Nat}
    (h : events = front ++ (line, .opening column) :: behind)
    (h' : events = front' ++ (line', .opening column') :: behind')
    (hopen : StaysOpen (Event.braces behind))
    (hi : (Event.braces behind).count '{' = (Event.braces behind).count '}' + i)
    (hj : (Event.braces behind').count '{' = (Event.braces behind').count '}' + j)
    (hlt : front.length < front'.length) : j < i := by
  -- The later brace and what is behind it stand behind the earlier one.
  obtain ⟨inner, rfl⟩ : ∃ inner, behind = inner ++ (line', .opening column') :: behind' := by
    rcases List.append_eq_append_iff.1 (h.symm.trans h') with
      ⟨more, hfront, hrest⟩ | ⟨more, hfront, -⟩
    · cases more with
      | nil => simp [hfront] at hlt
      | cons event inner => exact ⟨inner, (List.cons.inj hrest).2⟩
    · rw [hfront, List.length_append] at hlt
      omega
  have hbraces : Event.braces (inner ++ (line', .opening column') :: behind')
      = Event.braces inner ++ '{' :: Event.braces behind' := by
    simp [Event.braces, Event.marks, Event.mark?]
  rw [hbraces] at hopen hi
  have hinner := hopen _ (List.prefix_append _ _)
  simp only [List.count_append, List.count_cons] at hi
  simp at hi
  omega

/-- The innermost owner stands before all other owners among the frames. -/
theorem exists_frame_of_current {s : Scope} {k : Nat} (h : s.current = some k) :
    ∃ i o, s.frames[i]? = some (some o) ∧ o.key = k ∧
      ∀ (j : Nat) (o' : Owner), s.frames[j]? = some (some o') → i ≤ j := by
  obtain ⟨o, ho, rfl⟩ := Option.map_eq_some_iff.1 h
  rw [Scope.owners, List.head?_filterMap] at ho
  obtain ⟨inside, frame, outside, hframes, rfl, hplain⟩ := List.findSome?_eq_some_iff.1 ho
  refine ⟨inside.length, o, by simp [hframes], rfl, fun j o' hj => Nat.le_of_not_lt fun hlt => ?_⟩
  rw [hframes, List.getElem?_append_left hlt] at hj
  have hnone := hplain _ (List.mem_of_getElem? hj)
  cases hnone

/-- Where some frame has an owner there is an innermost one. -/
theorem exists_current_of_frame {s : Scope} {o : Owner} (h : some o ∈ s.frames) :
    ∃ k, s.current = some k := by
  have hmem : o ∈ s.owners := List.mem_filterMap.2 ⟨some o, h, rfl⟩
  rw [Scope.current]
  cases howners : s.owners with
  | nil => simp [howners] at hmem
  | cons first rest => exact ⟨first.key, rfl⟩

/-- The innermost owned block is that of the innermost owner. -/
theorem within_iff (file : Path) {k : Nat} :
    Event.Within events k ↔ (after file events).scope.current = some k := by
  -- An owned block that is open is a frame, at the place of its brace.
  have hplace {front : List (Nat × Event)} {k : Nat} (h : Event.OpenFor events front k) :
      ∃ i o, (after file events).scope.frames[i]? = some (some o) ∧ o.key = k ∧
        ∃ line column behind, events = front ++ (line, .opening column) :: behind ∧
          StaysOpen (Event.braces behind) ∧
          (Event.braces behind).count '{' = (Event.braces behind).count '}' + i ∧
          (after file front).scope.pending = some o := by
    obtain ⟨line, column, behind, hevents, hopen, howns⟩ := h
    obtain ⟨o, ho, hkey⟩ := (owns_iff file).1 howns
    have hle := hopen _ (List.prefix_refl _)
    have hcount := (Nat.add_sub_of_le hle).symm
    exact ⟨_, o, getElem?_frames_iff.2 ⟨front, line, column, behind, hevents, hopen, hcount, ho⟩,
      hkey, line, column, behind, hevents, hopen, hcount, ho⟩
  have howner {i : Nat} {o : Owner} (h : (after file events).scope.frames[i]? = some (some o)) :
      ∃ front line column behind, events = front ++ (line, .opening column) :: behind ∧
        StaysOpen (Event.braces behind) ∧
        (Event.braces behind).count '{' = (Event.braces behind).count '}' + i ∧
        Event.OpenFor events front o.key := by
    obtain ⟨front, line, column, behind, hevents, hopen, hcount, ho⟩ := getElem?_frames_iff.1 h
    exact ⟨front, line, column, behind, hevents, hopen, hcount, line, column, behind, hevents, hopen,
      (owns_iff file).2 ⟨o, ho, rfl⟩⟩
  constructor
  · rintro ⟨front, hfront, hlast⟩
    obtain ⟨i, o, hi, rfl, line, column, behind, hevents, hopen, hcount, ho⟩ := hplace hfront
    obtain ⟨k, hk⟩ := exists_current_of_frame (List.mem_of_getElem? hi)
    obtain ⟨j, o', hj, rfl, hfirst⟩ := exists_frame_of_current hk
    have hle := hfirst i o hi
    rcases Nat.lt_or_eq_of_le hle with hlt | rfl
    · -- The frame in front of it would be a later brace.
      obtain ⟨front', line', column', behind', hevents', hopen', hcount', hfor'⟩ := howner hj
      rcases Nat.lt_or_eq_of_le (hlast front' _ hfor') with hshorter | hsame
      · have := open_lt_of_length_lt hevents' hevents hopen' hcount' hcount hshorter
        omega
      · obtain ⟨rfl, hrest⟩ := List.append_inj (hevents'.symm.trans hevents) hsame
        obtain ⟨-, rfl⟩ := List.cons.inj hrest
        omega
    · rw [hi, Option.some.injEq, Option.some.injEq] at hj
      rw [hk, hj]
  · intro hk
    obtain ⟨i, o, hi, rfl, hfirst⟩ := exists_frame_of_current hk
    obtain ⟨front, line, column, behind, hevents, hopen, hcount, hfor⟩ := howner hi
    refine ⟨front, hfor, fun front' k' hfor' => Nat.le_of_not_lt fun hlt => ?_⟩
    obtain ⟨j, o', hj, -, line', column', behind', hevents', hopen', hcount', -⟩ := hplace hfor'
    have hle := hfirst j o' hj
    have := open_lt_of_length_lt hevents hevents' hopen hcount hcount' hlt
    omega

end Owners

end Draft

/-! ### What is declared and imported -/

namespace Event

instance (k : Nat) : DecidablePred (Within · k) := fun _ =>
  decidable_of_iff _ (Draft.within_iff .empty).symm

/-- The block of a declaration is open if some declaration owns it. -/
theorem inBlock_iff_exists_within {events : List (Nat × Event)} :
    InBlock events ↔ ∃ k, Within events k := by
  rw [Draft.inBlock_iff .empty, Option.isSome_iff_exists]
  exact exists_congr fun k => (Draft.within_iff .empty).symm

instance (events : List (Nat × Event)) : Decidable (∃ k, Within events k) :=
  decidable_of_iff _ inBlock_iff_exists_within

/-- The imports in the blocks of the declaration of index `k`. -/
def importsWithin (file : Path) (k : Nat) (events : List (Nat × Event)) : List Import :=
  inTurn (fun past event => if Within past k then import? file event else none) events

/-- The imports outside the blocks of declarations. -/
def importsOutside (file : Path) (events : List (Nat × Event)) : List Import :=
  inTurn (fun past event => if ∃ k, Within past k then none else import? file event) events

end Event

namespace Draft

section Made

variable {file : Path} {events past : List (Nat × Event)} {event : Nat × Event}

/-- What the last of some events added. -/
theorem effect_after (file : Path) (events : List (Nat × Event)) (event : Nat × Event) :
    Effect file (after file events) event (after file (events ++ [event])) := by
  have heffect := step_effect (after file events) event
  rwa [file_after, ← after_concat] at heffect

/-- What comes later leaves a declaration where it is, with all that it says of
itself. -/
theorem exists_extends_after {d : Declaration} {k : Nat}
    (h : (after file past).declarations[k]? = some d) (rest : List (Nat × Event)) :
    ∃ e, (after file (past ++ rest)).declarations[k]? = some e ∧ d.Extends e := by
  rw [after, List.foldl_append]
  exact (extends_foldl _ rest).declarations k d h

/-- Every declaration was added by one of the events, and says of itself what
it said then. -/
theorem exists_added_after (file : Path) (events : List (Nat × Event)) :
    ∀ e ∈ (after file events).declarations, ∃ (d : Draft) (event : Nat × Event) (new : Declaration),
      event ∈ events ∧ d.added? event = some new ∧ new.Extends e := by
  induction events using List.reverseRecOn with
  | nil => simp [after, start]
  | append_singleton events event ih =>
      intro e he
      -- A declaration that was there already may have got an import or a child.
      have hold {f : Declaration} (hf : f ∈ (after file events).declarations)
          (hsame : f.Extends e) : ∃ (d : Draft) (event' : Nat × Event) (new : Declaration),
            event' ∈ events ++ [event] ∧ d.added? event' = some new ∧ new.Extends e := by
        obtain ⟨d, event', new, hevent, hadded, hextends⟩ := ih f hf
        exact ⟨d, event', new, List.mem_append_left _ hevent, hadded, hextends.trans hsame⟩
      cases effect_after file events event with
      | declared new added _ declarations =>
          rw [declarations] at he
          obtain ⟨i, hi⟩ := List.getElem?_of_mem he
          rcases getElem?_grow_cases hi with ⟨-, rfl⟩ | ⟨-, f, hf, rfl⟩
          · exact ⟨_, event, e, List.mem_append_right _ (List.mem_singleton_self _), added, .refl e⟩
          · refine hold (List.mem_of_getElem? hf) ?_
            split
            · exact .addChild f _
            · exact .refl f
      | imported found owner _ _ _ declarations =>
          rw [declarations] at he
          obtain ⟨i, hi⟩ := List.getElem?_of_mem he
          obtain ⟨f, hf, rfl | ⟨-, rfl⟩⟩ := getElem?_modify_withImport hi
          · exact hold (List.mem_of_getElem? hf) (.refl e)
          · exact hold (List.mem_of_getElem? hf) (.withImport f found)
      | setAside _ _ _ _ declarations => exact hold (declarations ▸ he) (.refl e)
      | idle _ _ declarations => exact hold (declarations ▸ he) (.refl e)

/-- What declares a name gives the next declaration, and its parent is the
owner of the current block. -/
theorem exists_declaration_after (file : Path) (rest : List (Nat × Event))
    (h : event.2.declares = true) :
    ∃ d, (after file (past ++ event :: rest)).declarations[Event.declaredIn past]? = some d ∧
      d.ReadFrom [event] ∧ d.parent = (after file past).scope.current := by
  obtain ⟨new, hnew⟩ := Option.isSome_iff_exists.1
    ((isSome_added?_iff (after file past) event).2 h)
  obtain ⟨hparent, -, hread⟩ := added?_fields hnew
  have hstep : (after file (past ++ [event])).declarations
      = grow (after file past).declarations new := by
    cases effect_after file past event with
    | declared new' added _ declarations =>
        rw [declarations, Option.some.inj (added.symm.trans hnew)]
    | imported _ _ added => rw [added] at hnew; cases hnew
    | setAside _ added => rw [added] at hnew; cases hnew
    | idle added => rw [added] at hnew; cases hnew
  have hplace : (after file (past ++ [event])).declarations[Event.declaredIn past]? = some new := by
    rw [hstep, ← length_declarations_after file past, getElem?_grow_length]
  obtain ⟨e, he, hextends⟩ := exists_extends_after hplace rest
  rw [← List.append_cons] at he
  refine ⟨e, he, ?_, hextends.parent.trans hparent⟩
  rwa [Declaration.ReadFrom, hextends.name, hextends.line, hextends.columns.1]

/-- The owner of a block is there, and it may own one. -/
theorem exists_owner_after {k : Nat} (file : Path) (h : Event.Within past k)
    (rest : List (Nat × Event)) :
    ∃ d, (after file (past ++ rest)).declarations[k]? = some d ∧ d.kind ≠ .inherit := by
  obtain ⟨d, hd, hkind, -⟩ :=
    (sound_foldl (sound_start file) past).owner ((within_iff file).1 h)
  obtain ⟨e, he, hextends⟩ := exists_extends_after hd rest
  exact ⟨e, he, hextends.kind ▸ hkind⟩

/-- No block belongs to a declaration that is still to come. -/
theorem importsWithin_eq_nil (file : Path) {k : Nat} (h : Event.declaredIn events ≤ k) :
    Event.importsWithin file k events = [] := by
  induction events using List.reverseRecOn with
  | nil => rfl
  | append_singleton events event ih =>
      have hmore : Event.declaredIn events ≤ k := by
        rw [Event.declaredIn, List.countP_append] at h
        exact Nat.le_of_add_right_le h
      have houtside : ¬ Event.Within events k := by
        -- An owner is there before its block is open.
        intro hwithin
        obtain ⟨d, hd, -⟩ := exists_owner_after file hwithin []
        have hlt := (List.getElem?_eq_some_iff.1 hd).1
        rw [List.append_nil, length_declarations_after] at hlt
        omega
      rw [Event.importsWithin, inTurn_concat, if_neg houtside, Option.toList_none, List.append_nil]
      exact ih hmore

/-- An import that comes next stands in the current block. -/
theorem importsWithin_concat (file : Path) (k : Nat) :
    Event.importsWithin file k (events ++ [event]) = Event.importsWithin file k events
      ++ (if (after file events).scope.current = some k then Event.import? file event
        else none).toList := by
  rw [Event.importsWithin, inTurn_concat, Event.importsWithin]
  simp only [within_iff file]

/-- Or it stands in none. -/
theorem importsOutside_concat (file : Path) :
    Event.importsOutside file (events ++ [event]) = Event.importsOutside file events
      ++ (if (after file events).scope.current.isSome = true then none
        else Event.import? file event).toList := by
  rw [Event.importsOutside, inTurn_concat, Event.importsOutside]
  simp only [← Event.inBlock_iff_exists_within, inBlock_iff file]

/-- An import is taken if its path is new. -/
theorem imports_withImport (found : Import) (d : Declaration) :
    (d.withImport found).imports = if found.path ∈ d.imports.map Import.path then d.imports
      else d.imports ++ [found] := by
  have hknown : (d.imports.any fun i => i.path = found.path) = true
      ↔ found.path ∈ d.imports.map Import.path := by
    simp
  simp only [Declaration.withImport, hknown]
  split <;> rfl

/-- A declaration has the imports in its blocks, each path once. -/
theorem imports_after {d : Declaration} {k : Nat}
    (h : (after file events).declarations[k]? = some d) :
    d.imports = firstPerKey Import.path (Event.importsWithin file k events) := by
  -- The last event adds to one side what it adds to the other.
  induction events using List.reverseRecOn generalizing d with
  | nil => simp [after, start] at h
  | append_singleton events event ih =>
      rw [importsWithin_concat]
      cases effect_after file events event with
      | declared new added importless declarations =>
          rw [importless, ite_self, Option.toList_none, List.append_nil]
          rw [declarations] at h
          rcases getElem?_grow_cases h with ⟨hk, rfl⟩ | ⟨-, e, he, rfl⟩
          · -- Nothing was imported in its blocks before it was there.
            rw [length_declarations_after] at hk
            rw [importsWithin_eq_nil _ (Nat.le_of_eq hk.symm), (added?_fields added).2.1]
            rfl
          · refine Eq.trans ?_ (ih he)
            split <;> rfl
      | imported found owner _ imports current declarations =>
          rw [declarations, List.getElem?_modify] at h
          obtain ⟨e, he, rfl⟩ := Option.map_eq_some_iff.1 h
          rw [current, imports]
          split
          next howner =>
            rw [if_pos (congrArg some howner), Option.toList_some, firstPerKey_concat,
              imports_withImport, ih he]
          next howner =>
            rw [if_neg fun h => howner (Option.some.inj h), Option.toList_none, List.append_nil]
            exact ih he
      | setAside found _ _ current declarations =>
          rw [current, if_neg (Option.some_ne_none k).symm, Option.toList_none, List.append_nil]
          exact ih (declarations ▸ h)
      | idle _ importless declarations =>
          rw [importless, ite_self, Option.toList_none, List.append_nil]
          exact ih (declarations ▸ h)

/-- Set aside are the imports outside every block. -/
theorem unattached_after (file : Path) (events : List (Nat × Event)) :
    (after file events).unattached = Event.importsOutside file events := by
  induction events using List.reverseRecOn with
  | nil => rfl
  | append_singleton events event ih =>
      rw [importsOutside_concat, ← ih]
      cases effect_after file events event with
      | declared _ _ importless _ unattached =>
          rw [unattached, importless, ite_self, Option.toList_none, List.append_nil]
      | imported _ _ _ _ current _ unattached =>
          rw [unattached, current, Option.isSome_some, if_pos rfl, Option.toList_none,
            List.append_nil]
      | setAside _ _ imports current _ unattached =>
          rw [unattached, current, Option.isSome_none, if_neg Bool.false_ne_true, imports]
          rfl
      | idle _ importless _ unattached =>
          rw [unattached, importless, ite_self, Option.toList_none, List.append_nil]

/-- A statement that starts inside parentheses adds nothing. -/
theorem after_concat_parenthesised (file : Path) (events : List (Nat × Event))
    (line : Nat) (text : Text) (column depth : Nat) (terminated : Bool) :
    (after file (events ++ [(line, .statement text column (depth + 1) terminated)])).declarations
        = (after file events).declarations ∧
      (after file (events ++ [(line, .statement text column (depth + 1) terminated)])).unattached
        = (after file events).unattached := by
  cases effect_after file events (line, .statement text column (depth + 1) terminated) with
  | declared _ added => cases added
  | imported _ _ _ imports => cases imports
  | setAside _ _ imports => cases imports
  | idle _ _ declarations unattached => exact ⟨declarations, unattached⟩

end Made

end Draft

/-! ### Outlines -/

/-- The declarations and imports of an outline are those of its events, each
where the braces say. -/
structure Outline.Ownership (o : Outline) (events : List (Nat × Event)) : Prop where
  /-- There is a declaration for each event that declares. -/
  length : o.declarations.length = Event.declaredIn events
  /-- A brace opens a block for the declaration that owns it. -/
  owned : ∀ past line column k,
    (∃ owner, (Draft.after o.file (past ++ [(line, .opening column)])).scope.frames.head?
      = some (some owner) ∧ owner.key = k) ↔ Event.Owns past k
  /-- What declares takes the next index, and its parent is the owner of the
  block that the event stands in. -/
  declared : ∀ past event rest, events = past ++ event :: rest → event.2.declares = true →
    ∃ d, o.declarations[Event.declaredIn past]? = some d ∧ d.ReadFrom [event] ∧
      ∀ k, d.parent = some k ↔ Event.Within past k
  /-- The owner of a block is there, and it is no inherit statement's. -/
  owner : ∀ past rest k, events = past ++ rest → Event.Within past k →
    ∃ d, o.declarations[k]? = some d ∧ d.kind ≠ .inherit
  /-- Its imports are those in its blocks, the first of each path. -/
  imports : ∀ k d, o.declarations[k]? = some d →
    d.imports = firstPerKey Import.path (Event.importsWithin o.file k events)
  /-- Imports outside every such block are set aside. -/
  unattached : o.unattached = Event.importsOutside o.file events
  /-- A statement that starts inside parentheses declares and imports
  nothing. -/
  parenthesised : ∀ past line text column depth terminated,
    let event := (line, Event.statement text column (depth + 1) terminated)
    (Draft.after o.file (past ++ [event])).declarations = (Draft.after o.file past).declarations ∧
      (Draft.after o.file (past ++ [event])).unattached = (Draft.after o.file past).unattached

/-- Every declaration and every import of a file belongs to the owner of the
innermost owned block that is open where it stands. -/
theorem Outline.ownership_read (file : Path) (source : Text) :
    (Outline.read file source).Ownership
      (Event.ofLines 0 (Comment.cleanLines source)) := by
  have hfile := Outline.file_read file source
  constructor
  case length => exact Draft.length_declarations_after _ _
  case owned =>
    intro past line column k
    rw [Draft.owns_iff (Outline.read file source).file, Draft.after_concat]
    exact exists_congr fun owner => and_congr_left' (Option.some_inj)
  case declared =>
    intro past event rest hevents hdeclares
    obtain ⟨d, hd, hread, hparent⟩ :=
      Draft.exists_declaration_after file.normalize rest hdeclares
    rw [← hevents] at hd
    refine ⟨d, hd, hread, fun k => ?_⟩
    rw [hparent, Draft.within_iff file.normalize]
  case owner =>
    intro past rest k hevents hwithin
    obtain ⟨d, hd, hkind⟩ := Draft.exists_owner_after file.normalize hwithin rest
    rw [← hevents] at hd
    exact ⟨d, hd, hkind⟩
  case imports =>
    intro k d hd
    rw [hfile]
    exact Draft.imports_after hd
  case unattached =>
    rw [hfile]
    exact Draft.unattached_after _ _
  case parenthesised =>
    intro past line text column depth terminated
    exact Draft.after_concat_parenthesised _ past line text column depth terminated

end DefIndex
