import Mathlib.Data.List.Induction
import DefIndex.Proofs.Scoping

/-!
# `DefIndex.Proofs.WellFormed`: every outline is a well-formed forest

Reading accepts any text: stray braces, braces inside parentheses, names
that are missing, blocks that nobody closes. `Outline.WellFormed` says what
holds of the outline all the same, for every path and every text.

The part about blocks and scopes is `Draft.Sound`. The part about places
is proved here: a declaration stands inside the event that made it
(`Declaration.InsideEvent`), events stand one after the other
(`Event.Precedes`), and so do the names.
-/

set_option autoImplicit false

namespace DefIndex

/-! ### Places -/

/-- The line of a name, its column, and the first column past it. -/
def Declaration.place (e : Declaration) : Nat × Nat × Nat := (e.line, e.column, e.endColumn)

/-- One name ends before another one starts. -/
def Declaration.Precedes (d e : Declaration) : Prop :=
  d.line < e.line ∨ d.line = e.line ∧ d.endColumn ≤ e.column

/-- An update that a view does not show. -/
theorem map_modify_of_view {α : Type} {view : Declaration → α} {f : Declaration → Declaration}
    (hf : ∀ e, view (f e) = view e) (ds : List Declaration) (i : Nat) :
    (ds.modify i f).map view = ds.map view := by
  refine List.ext_getElem? fun j => ?_
  rw [List.getElem?_map, List.getElem?_map, List.getElem?_modify]
  cases ds[j]? with
  | none => rfl
  | some e =>
      simp only [Option.map_eq_map, Option.map_some]
      split
      · rw [hf]
      · rfl

/-- A new declaration stands behind the others for a view that shows no
children. -/
theorem map_grow_of_view {α : Type} {view : Declaration → α}
    (hview : ∀ (e : Declaration) (children : List Nat), view { e with children } = view e)
    (ds : List Declaration) (new : Declaration) :
    (grow ds new).map view = ds.map view ++ [view new] := by
  rw [grow, List.map_append]
  congr 1
  cases new.parent with
  | none => rfl
  | some p => exact map_modify_of_view (fun e => hview e _) ds p

/-- An event adds at most one place, and that inside itself. -/
theorem Draft.Change.places {d d' : Draft} {event : Nat × Event} (h : Draft.Change d event d') :
    d'.declarations.map Declaration.place = d.declarations.map Declaration.place ∨
      ∃ new : Declaration, new.InsideEvent event ∧
        d'.declarations.map Declaration.place
          = d.declarations.map Declaration.place ++ [new.place] := by
  cases h with
  | entered hds _ => exact Or.inl (by rw [hds])
  | left hds _ => exact Or.inl (by rw [hds])
  | idle hds _ => exact Or.inl (by rw [hds])
  | imported owner found _ hds _ =>
      refine Or.inl ?_
      rw [hds]
      refine map_modify_of_view (fun e => ?_) _ _
      rw [Declaration.withImport]
      split <;> rfl
  | declared new hds _ _ _ _ _ hinside _ _ =>
      exact Or.inr ⟨new, hinside, by rw [hds, map_grow_of_view fun _ _ => rfl]⟩

/-- A name inside an earlier event precedes one inside a later event. -/
theorem Declaration.precedes_of_insideEvent {d e : Declaration} {a b : Nat × Event}
    (hd : d.InsideEvent a) (he : e.InsideEvent b) (hab : Event.Precedes a b) : d.Precedes e := by
  obtain ⟨hdline, -, hdend⟩ := hd
  obtain ⟨heline, hestart, -⟩ := he
  rcases hab with hline | ⟨hline, hcolumn⟩
  · exact Or.inl (by omega)
  · exact Or.inr ⟨by omega, by omega⟩

/-- Order and membership in an event only look at places. -/
theorem Draft.placed_of_map_place {ds es : List Declaration} {events : List (Nat × Event)}
    (hsame : es.map Declaration.place = ds.map Declaration.place)
    (horder : ds.Pairwise Declaration.Precedes)
    (hinside : ∀ e ∈ ds, ∃ a ∈ events, e.InsideEvent a) :
    es.Pairwise Declaration.Precedes ∧ ∀ e ∈ es, ∃ a ∈ events, e.InsideEvent a := by
  let before (p q : Nat × Nat × Nat) : Prop := p.1 < q.1 ∨ p.1 = q.1 ∧ p.2.2 ≤ q.2.1
  have hview (l : List Declaration) :
      l.Pairwise Declaration.Precedes ↔ (l.map Declaration.place).Pairwise before := by
    rw [List.pairwise_map]
    rfl
  refine ⟨(hview es).2 (hsame ▸ (hview ds).1 horder), fun e he => ?_⟩
  have hmem : e.place ∈ ds.map Declaration.place := hsame ▸ List.mem_map_of_mem he
  obtain ⟨d, hd, hplace⟩ := List.mem_map.1 hmem
  obtain ⟨a, ha, hline, hstart, hend⟩ := hinside d hd
  simp only [Declaration.place, Prod.mk.injEq] at hplace
  exact ⟨a, ha, by omega, by omega, by omega⟩

/-- The names of a file stand one after the other, each inside an event. -/
theorem Draft.placed_foldl (file : Path) (events : List (Nat × Event))
    (h : events.Pairwise Event.Precedes) :
    (events.foldl step (start file)).declarations.Pairwise Declaration.Precedes ∧
      ∀ e ∈ (events.foldl step (start file)).declarations, ∃ a ∈ events, e.InsideEvent a := by
  -- The induction takes the last event off, which all others precede.
  induction events using List.reverseRecOn with
  | nil => exact ⟨List.Pairwise.nil, by simp [start]⟩
  | append_singleton events event ih =>
      obtain ⟨hevents, -, hlast⟩ := List.pairwise_append.1 h
      obtain ⟨horder, hinside⟩ := ih hevents
      have hmore {ds : List Declaration} (hds : ∀ e ∈ ds, ∃ a ∈ events, e.InsideEvent a) :
          ∀ e ∈ ds, ∃ a ∈ events ++ [event], e.InsideEvent a := by
        intro e he
        obtain ⟨a, ha, hea⟩ := hds e he
        exact ⟨a, List.mem_append_left _ ha, hea⟩
      rw [List.foldl_append, List.foldl_cons, List.foldl_nil]
      rcases (step_change (events.foldl step (start file)) event).places with
        hsame | ⟨new, hnew, hsame⟩
      · exact placed_of_map_place hsame horder (hmore hinside)
      · rw [← List.map_singleton, ← List.map_append] at hsame
        refine placed_of_map_place hsame (List.pairwise_append.2 ⟨horder, by simp, ?_⟩) ?_
        · intro d hd e he
          obtain ⟨a, ha, hda⟩ := hinside d hd
          rw [List.mem_singleton.1 he]
          exact Declaration.precedes_of_insideEvent hda hnew (hlast a ha event (by simp))
        · intro e he
          rcases List.mem_append.1 he with he | he
          · exact hmore hinside e he
          · exact ⟨event, by simp, List.mem_singleton.1 he ▸ hnew⟩

/-! ### Open blocks, outermost first -/

/-- The keys of open blocks, outermost first: the first declaration lies in
no block, every next one in the block of the one before. -/
structure OpenBlocks (ds : List Declaration) (keys : List Nat) : Prop where
  /-- An open block belongs to a declaration. -/
  lt_length : ∀ k ∈ keys, k < ds.length
  /-- The outermost block lies in no other. -/
  outermost : ∀ k, keys.head? = some k → parentAt ds k = none
  /-- Every other block lies in the one before it. -/
  next : ∀ i p k, keys[i]? = some p → keys[i + 1]? = some k → parentAt ds k = some p

/-- One more block opens inside the last one. -/
theorem OpenBlocks.concat {ds : List Declaration} {keys : List Nat} (h : OpenBlocks ds keys)
    {k : Nat} (hk : k < ds.length) (hparent : parentAt ds k = keys.getLast?) :
    OpenBlocks ds (keys ++ [k]) where
  lt_length := by
    intro j hj
    rcases List.mem_append.1 hj with hj | hj
    · exact h.lt_length j hj
    · exact List.mem_singleton.1 hj ▸ hk
  outermost := by
    intro j hj
    cases keys with
    | nil =>
        have hjk : k = j := by simpa using hj
        rw [← hjk, hparent]
        rfl
    | cons p ps => exact h.outermost j (by simpa using hj)
  next := by
    intro i p j hp hj
    -- The new block is the next one of the last, all others are old.
    have hi : i + 1 < keys.length + 1 := by
      have := (List.getElem?_eq_some_iff.1 hj).1
      simpa using this
    rcases Nat.lt_succ_iff_lt_or_eq.1 hi with hlt | heq
    · rw [List.getElem?_append_left hlt] at hj
      rw [List.getElem?_append_left (by omega)] at hp
      exact h.next i p j hp hj
    · have hjk : k = j := by simpa [heq] using hj
      rw [List.getElem?_append_left (by omega)] at hp
      rw [← hjk, hparent, List.getLast?_eq_getElem?, ← heq]
      exact hp

/-- The blocks of a chain of owners. -/
theorem OpenChain.openBlocks {ds : List Declaration} {owners : List Owner}
    (h : OpenChain ds owners) : OpenBlocks ds (owners.map Owner.key).reverse := by
  induction owners with
  | nil => exact ⟨by simp, by simp, by simp⟩
  | cons o around ih =>
      obtain ⟨⟨f, hf, -, -, hparent, -⟩, haround⟩ := h
      rw [List.map_cons, List.reverse_cons]
      refine (ih haround).concat (List.getElem?_eq_some_iff.1 hf).1 ?_
      rw [parentAt, hf, Option.bind_some, hparent, List.getLast?_reverse, List.head?_map]

/-! ### Outlines -/

/-- The declarations of an outline are a forest in source order, and its
open blocks are a way into that forest. -/
structure Outline.WellFormed (o : Outline) : Prop where
  /-- Names stand in the order of their lines and columns. -/
  increasing : o.declarations.Pairwise fun d e =>
    d.line < e.line ∨ d.line = e.line ∧ d.column < e.column
  /-- Names on one line do not overlap. -/
  disjoint : o.declarations.Pairwise fun d e => d.line = e.line → d.endColumn ≤ e.column
  /-- The declaration around another one comes first, is no inherit
  statement, and gives its full name as the context. -/
  enclosed : ∀ (i p : Nat) (d : Declaration), o.declarations[i]? = some d → d.parent = some p →
    p < i ∧ ∃ e, o.declarations[p]? = some e ∧ e.kind ≠ .inherit ∧
      d.context = qualify e.context e.name
  /-- Outside every block the context is empty. -/
  top : ∀ d ∈ o.declarations, d.parent = none → d.context = []
  /-- The children of a declaration are the indices of those that it is
  around, in increasing order. -/
  children : ∀ (i : Nat) (d : Declaration), o.declarations[i]? = some d →
    d.children = (List.range o.declarations.length).filter fun j =>
      parentAt o.declarations j = some i
  /-- An inherit statement has no children and no imports. -/
  inherits : ∀ d ∈ o.declarations, d.kind = .inherit → d.children = [] ∧ d.imports = []
  /-- No name is empty. -/
  named : ∀ d ∈ o.declarations, d.name ≠ []
  /-- A block imports no path twice. -/
  imports : ∀ d ∈ o.declarations, (d.imports.map Import.path).Nodup
  /-- What is inside a declaration, at any depth, stands right behind it
  without a gap. -/
  block : ∀ i < o.declarations.length, ∃ last, ∀ j,
    Relation.TransGen (Encloses o.declarations) i j ↔ i < j ∧ j < last
  /-- The blocks that are still open lie in each other, outermost first. -/
  openBlocks : OpenBlocks o.declarations o.openScopes
  /-- A declaration that waits for its block is the last one and lies in
  the innermost open block. -/
  pending : ∀ k, o.pending = some k →
    k + 1 = o.declarations.length ∧ parentAt o.declarations k = o.openScopes.getLast?

/-- The declarations of an outline are a forest. -/
theorem Outline.wellNested_read (file : Path) (source : Text) :
    WellNested (Outline.read file source).declarations :=
  (Draft.sound_foldl (Draft.sound_start file.normalize) _).nested

/-- The names of an outline stand one after the other. -/
theorem Outline.pairwise_precedes_read (file : Path) (source : Text) :
    (Outline.read file source).declarations.Pairwise Declaration.Precedes :=
  (Draft.placed_foldl file.normalize _ (Event.pairwise_precedes_cleanLines source)).1

/-- Every text reads as a well-formed outline. -/
theorem Outline.wellFormed_read (file : Path) (source : Text) :
    (Outline.read file source).WellFormed := by
  have hsound := Draft.sound_foldl (Draft.sound_start file.normalize)
    (Event.ofLines 0 (Comment.cleanLines source))
  have hnested := Outline.wellNested_read file source
  have horder := Outline.pairwise_precedes_read file source
  refine ⟨?_, ?_, ?_, ?_, ?_, ?_, hnested.named, hnested.imports, ?_, hsound.chain.openBlocks, ?_⟩
  · -- A name has at least one character, so its end is past its start.
    refine horder.imp_of_mem fun {d e} hd _ hde => ?_
    have hlen : 0 < d.name.length := List.length_pos_iff.2 (hnested.named d hd)
    rcases hde with hline | ⟨hline, hend⟩
    · exact Or.inl hline
    · rw [Declaration.endColumn] at hend
      exact Or.inr ⟨hline, by omega⟩
  · refine horder.imp fun {d e} hde hline => ?_
    rcases hde with hlt | ⟨-, hend⟩
    · omega
    · exact hend
  · exact fun i p d hd hparent => hnested.enclosed hd hparent
  · intro d hd hparent
    obtain ⟨i, hi⟩ := List.getElem?_of_mem hd
    exact hnested.top hi hparent
  · exact fun i d hd => hnested.children hd
  · intro d hd hkind
    obtain ⟨i, hi⟩ := List.getElem?_of_mem hd
    exact ⟨hnested.children_inherit hi hkind, hnested.importless d hd hkind⟩
  · intro i hi
    obtain ⟨last, -, -, hblock⟩ := hnested.exists_block hi
    exact ⟨last, hblock⟩
  · intro k hk
    obtain ⟨o, ho, rfl⟩ := Option.map_eq_some_iff.1 hk
    obtain ⟨hlast, f, hf, -, -, hparent, -⟩ := hsound.waiting o ho
    refine ⟨hlast, ?_⟩
    show parentAt _ o.key = (List.map Owner.key _).reverse.getLast?
    rw [List.getLast?_reverse, List.head?_map, ← hparent]
    show ((Outline.read file source).declarations[o.key]?).bind _ = _
    rw [show (Outline.read file source).declarations[o.key]? = some f from hf]
    rfl

end DefIndex
