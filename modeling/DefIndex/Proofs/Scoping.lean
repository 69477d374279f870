import DefIndex.Proofs.Dotted
import DefIndex.Proofs.DraftStep

/-!
# `DefIndex.Proofs.Scoping`: the scope and the declarations agree

While a file is read, four structures grow side by side: the declarations,
their lists of children, the open blocks, and the declaration that waits
for its block. `Draft.Sound` is the invariant that ties them together:

* the declarations are a forest (`WellNested`);
* the owners of the open blocks are a chain in it, each inside the next
  (`OpenChain`), and the names along the chain give the context;
* the innermost open block is around the last declaration or owned by it;
* a waiting declaration is the last one and stands in the innermost block.

`Draft.sound_foldl` proves it for every sequence of events, from the five
changes that an event can make.
-/

set_option autoImplicit false

namespace DefIndex

/-- The context that owners give, innermost first. -/
def Owner.contextOf (owners : List Owner) : Text := Dotted.path (owners.map Owner.name).reverse

/-- `o` stands for a declaration that may own a block and lies in the
blocks of `around`, innermost first. -/
def OpensUnder (ds : List Declaration) (around : List Owner) (o : Owner) : Prop :=
  ∃ f, ds[o.key]? = some f ∧ f.name = o.name ∧ f.kind ≠ .inherit ∧
    f.parent = around.head?.map Owner.key ∧ f.context = Owner.contextOf around

/-- Owners, innermost first, each in the blocks of those behind it. -/
def OpenChain (ds : List Declaration) : List Owner → Prop
  | [] => True
  | o :: around => OpensUnder ds around o ∧ OpenChain ds around

/-- An owner stays one when declarations are kept. -/
theorem OpensUnder.keeps {ds es : List Declaration} (hkeeps : Keeps ds es) {around : List Owner}
    {o : Owner} (h : OpensUnder ds around o) : OpensUnder es around o := by
  obtain ⟨f, hf, hname, hkind, hparent, hcontext⟩ := h
  obtain ⟨g, hg, hgname, hgkind, hgcontext, hgparent⟩ := hkeeps hf
  exact ⟨g, hg, hgname.trans hname, hgkind ▸ hkind, hgparent.trans hparent,
    hgcontext.trans hcontext⟩

/-- A chain stays one when declarations are kept. -/
theorem OpenChain.keeps {ds es : List Declaration} (hkeeps : Keeps ds es) {owners : List Owner}
    (h : OpenChain ds owners) : OpenChain es owners := by
  induction owners with
  | nil => trivial
  | cons o around ih => exact ⟨h.1.keeps hkeeps, ih h.2⟩

/-- The owners of a chain have names. -/
theorem OpenChain.named {ds : List Declaration} (hds : WellNested ds) {owners : List Owner}
    (h : OpenChain ds owners) : ∀ t ∈ owners.map Owner.name, t ≠ [] := by
  induction owners with
  | nil => simp
  | cons o around ih =>
      obtain ⟨⟨f, hf, hname, -⟩, haround⟩ := h
      intro t ht
      rcases List.mem_cons.1 ht with rfl | ht
      · exact hname ▸ hds.named f (List.mem_of_getElem? hf)
      · exact ih haround t ht

/-- The context in a block is the full name of its owner. -/
theorem OpenChain.contextOf_cons {ds : List Declaration} (hds : WellNested ds) {o : Owner}
    {around : List Owner} (h : OpenChain ds (o :: around)) :
    Owner.contextOf (o :: around) = qualify (Owner.contextOf around) o.name := by
  have hnames : ∀ t ∈ (around.map Owner.name).reverse, t ≠ [] := fun t ht =>
    h.2.named hds t (List.mem_reverse.1 ht)
  rw [Owner.contextOf, List.map_cons, List.reverse_cons, Dotted.path_concat hnames]
  rfl

/-! ### Imports -/

section Imports

variable {ds : List Declaration} {owner : Nat} {found : Import}

/-- An import changes nothing else in a declaration. -/
theorem Declaration.withImport_fields (found : Import) (e : Declaration) :
    (e.withImport found).name = e.name ∧ (e.withImport found).kind = e.kind ∧
      (e.withImport found).context = e.context ∧ (e.withImport found).parent = e.parent ∧
      (e.withImport found).children = e.children := by
  rw [Declaration.withImport]
  split <;> exact ⟨rfl, rfl, rfl, rfl, rfl⟩

/-- A path that is there already is not added again. -/
theorem Declaration.nodup_withImport {e : Declaration} (h : (e.imports.map Import.path).Nodup) :
    ((e.withImport found).imports.map Import.path).Nodup := by
  rw [Declaration.withImport]
  split
  · exact h
  next hnew =>
    have hnotMem : found.path ∉ e.imports.map Import.path := by
      intro hmem
      obtain ⟨i, hi, hpath⟩ := List.mem_map.1 hmem
      exact hnew (List.any_eq_true.2 ⟨i, hi, by simpa using hpath⟩)
    simp only [List.map_append, List.map_cons, List.map_nil]
    refine List.nodup_append.2 ⟨h, by simp, ?_⟩
    rintro a ha b hb rfl
    rw [List.mem_singleton.1 hb] at ha
    exact hnotMem ha

/-- Every declaration after an import, next to what it was. -/
theorem getElem?_modify_withImport {i : Nat} {e : Declaration}
    (he : (ds.modify owner (Declaration.withImport found))[i]? = some e) :
    ∃ d, ds[i]? = some d ∧ (e = d ∨ i = owner ∧ e = d.withImport found) := by
  rw [List.getElem?_modify] at he
  obtain ⟨d, hd, rfl⟩ := Option.map_eq_some_iff.1 he
  refine ⟨d, hd, ?_⟩
  split
  next howner => exact Or.inr ⟨howner.symm, rfl⟩
  next => exact Or.inl rfl

/-- An import keeps every declaration. -/
theorem keeps_modify_withImport :
    Keeps ds (ds.modify owner (Declaration.withImport found)) := by
  intro i d hd
  refine ⟨_, by rw [List.getElem?_modify, hd]; rfl, ?_⟩
  split
  · obtain ⟨hname, hkind, hcontext, hparent, -⟩ := Declaration.withImport_fields found d
    exact ⟨hname, hkind, hcontext, hparent⟩
  · exact ⟨rfl, rfl, rfl, rfl⟩

/-- An import moves no declaration to another block. -/
theorem parentAt_modify_withImport :
    parentAt (ds.modify owner (Declaration.withImport found)) = parentAt ds := by
  funext i
  rw [parentAt, parentAt, List.getElem?_modify]
  cases ds[i]? with
  | none => rfl
  | some d =>
      simp only [Option.map_eq_map, Option.map_some, Option.bind_some]
      split
      · exact (Declaration.withImport_fields found d).2.2.2.1
      · rfl

/-- A forest stays one when a declaration that owns a block gets an
import. -/
theorem WellNested.modify_withImport (h : WellNested ds)
    (howner : ∀ f, ds[owner]? = some f → f.kind ≠ .inherit) :
    WellNested (ds.modify owner (Declaration.withImport found)) := by
  -- What was said about a declaration is said about its new version.
  have hold {i : Nat} {e : Declaration}
      (he : (ds.modify owner (Declaration.withImport found))[i]? = some e) :
      ∃ d, ds[i]? = some d ∧ e.name = d.name ∧ e.kind = d.kind ∧ e.context = d.context ∧
        e.parent = d.parent ∧ e.children = d.children := by
    obtain ⟨d, hd, rfl | ⟨-, rfl⟩⟩ := getElem?_modify_withImport he
    · exact ⟨e, hd, rfl, rfl, rfl, rfl, rfl⟩
    · exact ⟨d, hd, Declaration.withImport_fields found d⟩
  refine ⟨?_, ?_, ?_, ?_, ?_, ?_, ?_⟩
  · intro i e p he hparent
    obtain ⟨d, hd, -, -, hcontext, hsame, -⟩ := hold he
    obtain ⟨hlt, f, hf, hkind, hdcontext⟩ := h.enclosed hd (hsame ▸ hparent)
    obtain ⟨g, hg, hgname, hgkind, hgcontext, -⟩ := keeps_modify_withImport hf
    exact ⟨hlt, g, hg, hgkind ▸ hkind, by rw [hcontext, hdcontext, hgcontext, hgname]⟩
  · intro i e he hparent
    obtain ⟨d, hd, -, -, hcontext, hsame, -⟩ := hold he
    exact hcontext.trans (h.top hd (hsame ▸ hparent))
  · intro i e he
    obtain ⟨d, hd, -, -, -, -, hchildren⟩ := hold he
    rw [hchildren, h.children hd, List.length_modify, parentAt_modify_withImport]
  · intro e he hkind
    obtain ⟨i, hi⟩ := List.getElem?_of_mem he
    obtain ⟨d, hd, rfl | ⟨hiowner, rfl⟩⟩ := getElem?_modify_withImport hi
    · exact h.importless e (List.mem_of_getElem? hd) hkind
    · have hd' : ds[owner]? = some d := hiowner ▸ hd
      exact absurd ((Declaration.withImport_fields found d).2.1 ▸ hkind) (howner d hd')
  · intro e he
    obtain ⟨i, hi⟩ := List.getElem?_of_mem he
    obtain ⟨d, hd, hname, -⟩ := hold hi
    exact hname ▸ h.named d (List.mem_of_getElem? hd)
  · intro e he
    obtain ⟨i, hi⟩ := List.getElem?_of_mem he
    obtain ⟨d, hd, rfl | ⟨-, rfl⟩⟩ := getElem?_modify_withImport hi
    · exact h.imports e (List.mem_of_getElem? hd)
    · exact Declaration.nodup_withImport (h.imports d (List.mem_of_getElem? hd))
  · intro i p hlink
    rw [Encloses, parentAt_modify_withImport] at hlink
    exact keeps_modify_withImport.reflTransGen (h.preorder hlink)

end Imports

/-! ### The invariant -/

/-- The declarations and the scope of an outline in the making agree. -/
structure Draft.Sound (d : Draft) : Prop where
  /-- The declarations are a forest. -/
  nested : WellNested d.declarations
  /-- The open blocks lie in each other. -/
  chain : OpenChain d.declarations d.scope.owners
  /-- The innermost open block is around the last declaration or its own. -/
  spine : ∀ p, d.scope.current = some p →
    Relation.ReflTransGen (Encloses d.declarations) p (d.declarations.length - 1)
  /-- Only the last declaration waits, in the innermost open block. -/
  waiting : ∀ o, d.scope.pending = some o →
    o.key + 1 = d.declarations.length ∧ OpensUnder d.declarations d.scope.owners o

namespace Draft

/-- Before the first event. -/
theorem sound_start (file : Path) : (start file).Sound where
  nested := wellNested_nil
  chain := trivial
  spine := by simp [start, Scope.empty, Scope.current, Scope.owners]
  waiting := by simp [start, Scope.empty]

/-- Sending a waiting declaration away leaves the open blocks alone. -/
theorem owners_of_rests {s s' : Scope} (h : s.Rests s') : s'.owners = s.owners := by
  rcases h with rfl | rfl <;> rfl

/-- Whoever waits afterwards waited before. -/
theorem pending_of_rests {s s' : Scope} (h : s.Rests s') {o : Owner} (ho : s'.pending = some o) :
    s.pending = some o := by
  rcases h with rfl | rfl
  · exact ho
  · simp [Scope.dismiss] at ho

/-- The key of the innermost owner. -/
theorem current_eq (s : Scope) : s.current = s.owners.head?.map Owner.key := rfl

variable {d d' : Draft}

/-- The owner of the innermost block may own one, and the context inside
is its full name. -/
theorem Sound.owner (h : d.Sound) {p : Nat} (hp : d.scope.current = some p) :
    ∃ f, d.declarations[p]? = some f ∧ f.kind ≠ .inherit ∧
      d.scope.context = qualify f.context f.name := by
  have hcontext : d.scope.context = Owner.contextOf d.scope.owners := rfl
  have hchain := h.chain
  cases howners : d.scope.owners with
  | nil => simp [current_eq, howners] at hp
  | cons o around =>
      rw [howners] at hchain hcontext
      obtain ⟨f, hf, hname, hkind, -, haround⟩ := hchain.1
      have hkey : o.key = p := by simpa [current_eq, howners] using hp
      refine ⟨f, hkey ▸ hf, hkind, ?_⟩
      rw [hcontext, hchain.contextOf_cons h.nested, haround, hname]

/-- Entering a block: the waiting declaration is the last one, so its block
is the innermost one now. -/
theorem Sound.entered (h : d.Sound) (hds : d'.declarations = d.declarations)
    (hscope : d'.scope = d.scope.enter) : d'.Sound := by
  have hpending : d'.scope.pending = none := by rw [hscope]; rfl
  cases hwait : d.scope.pending with
  | none =>
      -- Nobody waits: the new frame has no owner, so no block is added.
      have howners : d'.scope.owners = d.scope.owners := by
        simp [hscope, Scope.enter, Scope.owners, hwait]
      refine ⟨hds ▸ h.nested, ?_, ?_, by simp [hpending]⟩
      · rw [hds, howners]
        exact h.chain
      · rw [hds, current_eq, howners]
        exact h.spine
  | some o =>
      obtain ⟨hlast, hopens⟩ := h.waiting o hwait
      have howners : d'.scope.owners = o :: d.scope.owners := by
        simp [hscope, Scope.enter, Scope.owners, hwait]
      refine ⟨hds ▸ h.nested, ?_, ?_, by simp [hpending]⟩
      · rw [hds, howners]
        exact ⟨hopens, h.chain⟩
      · rw [hds, current_eq, howners]
        -- The way from the last declaration to itself has no links.
        rintro p hp
        have hkey : p = d.declarations.length - 1 := by
          have : o.key = p := by simpa using hp
          omega
        rw [hkey]

/-- Leaving a block: the block around it is around all that was inside. -/
theorem Sound.left (h : d.Sound) (hds : d'.declarations = d.declarations)
    (hscope : d'.scope = d.scope.leave.2) : d'.Sound := by
  have hpending : d'.scope.pending = none := by
    rw [hscope, Scope.leave]
    split <;> rfl
  -- A frame without an owner, or no frame at all, leaves the owners alone.
  have hsub : d'.scope.owners = d.scope.owners ∨
      ∃ o, d.scope.owners = o :: d'.scope.owners := by
    rw [hscope, Scope.leave, Scope.owners, Scope.owners]
    cases d.scope.frames with
    | nil => exact Or.inl rfl
    | cons frame rest =>
        cases frame with
        | none => exact Or.inl rfl
        | some o => exact Or.inr ⟨o, rfl⟩
  have hchain := h.chain
  have hspine := h.spine
  rcases hsub with hsame | ⟨o, hcons⟩
  · refine ⟨hds ▸ h.nested, ?_, ?_, by simp [hpending]⟩
    · rw [hds, hsame]
      exact hchain
    · rw [hds, current_eq, hsame]
      exact hspine
  · rw [hcons] at hchain
    obtain ⟨⟨f, hf, -, -, hparent, -⟩, haround⟩ := hchain
    refine ⟨hds ▸ h.nested, hds ▸ haround, ?_, by simp [hpending]⟩
    rw [hds, current_eq, ← hparent]
    -- One link up from the block that is left, and on along its own way.
    intro p hp
    have hlink : Encloses d.declarations p o.key := encloses_iff.2 ⟨f, hf, hp⟩
    refine (Relation.ReflTransGen.single hlink).trans (hspine o.key ?_)
    rw [current_eq, hcons]
    rfl

/-- Nothing but a dismissal. -/
theorem Sound.idle (h : d.Sound) (hds : d'.declarations = d.declarations)
    (hscope : d.scope.Rests d'.scope) : d'.Sound := by
  have howners := owners_of_rests hscope
  refine ⟨hds ▸ h.nested, ?_, ?_, ?_⟩
  · rw [hds, howners]
    exact h.chain
  · rw [hds, current_eq, howners]
    exact h.spine
  · intro o ho
    rw [hds, howners]
    exact h.waiting o (pending_of_rests hscope ho)

/-- An import goes to the owner of the innermost block. -/
theorem Sound.imported (h : d.Sound) {owner : Nat} {found : Import}
    (hcurrent : d.scope.current = some owner)
    (hds : d'.declarations = d.declarations.modify owner (Declaration.withImport found))
    (hscope : d.scope.Rests d'.scope) : d'.Sound := by
  have howners := owners_of_rests hscope
  have hkind : ∀ f, d.declarations[owner]? = some f → f.kind ≠ .inherit := by
    intro f hf
    obtain ⟨g, hg, hgkind, -⟩ := h.owner hcurrent
    rw [hf] at hg
    exact Option.some.inj hg ▸ hgkind
  refine ⟨hds ▸ h.nested.modify_withImport hkind, ?_, ?_, ?_⟩
  · rw [hds, howners]
    exact h.chain.keeps keeps_modify_withImport
  · rw [hds, current_eq, howners, List.length_modify]
    exact fun p hp => keeps_modify_withImport.reflTransGen (h.spine p hp)
  · intro o ho
    obtain ⟨hlast, hopens⟩ := h.waiting o (pending_of_rests hscope ho)
    rw [hds, howners, List.length_modify]
    exact ⟨hlast, hopens.keeps keeps_modify_withImport⟩

/-- A new declaration lies in the innermost block. -/
theorem Sound.declared (h : d.Sound) {new : Declaration}
    (hds : d'.declarations = grow d.declarations new)
    (hparent : new.parent = d.scope.current) (hcontext : new.context = d.scope.context)
    (hname : new.name ≠ []) (hchildren : new.children = []) (himports : new.imports = [])
    (hframes : d'.scope.frames = d.scope.frames)
    (hpending : d'.scope.pending = none ∨
      new.kind ≠ .inherit ∧ d'.scope.pending = some ⟨new.name, d.declarations.length⟩) :
    d'.Sound := by
  have howners : d'.scope.owners = d.scope.owners := by rw [Scope.owners, hframes, Scope.owners]
  have hcontext' : new.context = Owner.contextOf d.scope.owners := hcontext
  have hnested : WellNested (grow d.declarations new) := by
    refine h.nested.grow hname hchildren himports ?_ ?_
    · intro hnone
      rw [hparent, current_eq, Option.map_eq_none_iff, List.head?_eq_none_iff] at hnone
      rw [hcontext', hnone]
      rfl
    · intro p hp
      rw [hparent] at hp
      obtain ⟨f, hf, hfkind, hfcontext⟩ := h.owner hp
      exact ⟨h.spine p hp, f, hf, hfkind, hcontext.trans hfcontext⟩
  refine ⟨hds ▸ hnested, ?_, ?_, ?_⟩
  · rw [hds, howners]
    exact h.chain.keeps keeps_grow
  · rw [hds, current_eq, howners, ← current_eq, ← hparent, length_grow, Nat.add_sub_cancel]
    -- The new declaration is the last one now, one link below its block.
    intro p hp
    exact Relation.ReflTransGen.single (encloses_iff.2 ⟨new, getElem?_grow_length, hp⟩)
  · intro o ho
    rcases hpending with hnone | ⟨hkind, hsome⟩
    · simp [hnone] at ho
    · rw [hsome] at ho
      cases ho
      rw [hds, length_grow, howners]
      exact ⟨rfl, new, getElem?_grow_length, rfl, hkind, hparent, hcontext'⟩

/-- Every change keeps the invariant. -/
theorem Sound.change (h : d.Sound) {event : Nat × Event} (hchange : Change d event d') :
    d'.Sound := by
  cases hchange with
  | entered hds hscope => exact h.entered hds hscope
  | left hds hscope => exact h.left hds hscope
  | idle hds hscope => exact h.idle hds hscope
  | imported owner found hcurrent hds hscope => exact h.imported hcurrent hds hscope
  | declared new hds hparent hcontext hname hchildren himports _ hframes hpending =>
      exact h.declared hds hparent hcontext hname hchildren himports hframes hpending

/-- The invariant holds after any sequence of events. -/
theorem sound_foldl (h : d.Sound) (events : List (Nat × Event)) :
    (events.foldl step d).Sound := by
  induction events generalizing d with
  | nil => exact h
  | cons event events ih => exact ih (h.change (step_change d event))

end Draft

end DefIndex
