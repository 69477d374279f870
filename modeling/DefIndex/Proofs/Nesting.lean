import Mathlib.Data.Nat.Find
import Mathlib.Logic.Relation
import Mathlib.Tactic.ByContra
import DefIndex.Outline

/-!
# `DefIndex.Proofs.Nesting`: lists of declarations that describe a forest

A file is a list of declarations, each with the index of the declaration
around it. Not every list of this kind is a forest read from top to
bottom. `WellNested` collects what makes it one, and this file proves
the consequences that need no more than the list.

* `Encloses` is one link of the list, `Relation.TransGen (Encloses ds)`
  the way from a declaration down to everything inside it.
* `WellNested.preorder` is the one field that talks about order: the
  declaration around an entry is the entry before it, or one around that.
  Reading top to bottom, a block that was left is never entered again.
* `WellNested.exists_block` turns it into the statement about blocks: what
  is inside a declaration stands right behind it, without a gap.
* `WellNested.grow` is how a list grows, one declaration at a time.
  `Keeps` says what growing leaves alone, and carries every fact about
  links along.
-/

set_option autoImplicit false

namespace DefIndex

/-- The index of the declaration around the one at an index. -/
def parentAt (ds : List Declaration) (i : Nat) : Option Nat := ds[i]?.bind Declaration.parent

/-- The declaration at `p` is the one directly around the one at `i`. -/
def Encloses (ds : List Declaration) (p i : Nat) : Prop := parentAt ds i = some p

instance (ds : List Declaration) (p i : Nat) : Decidable (Encloses ds p i) :=
  inferInstanceAs (Decidable (parentAt ds i = some p))

/-- A link, spelled out. -/
theorem encloses_iff {ds : List Declaration} {p i : Nat} :
    Encloses ds p i ↔ ∃ e, ds[i]? = some e ∧ e.parent = some p := by
  simp [Encloses, parentAt, Option.bind_eq_some_iff]

/-- The declarations of a file are a forest, read from top to bottom. -/
structure WellNested (ds : List Declaration) : Prop where
  /-- The declaration around another one comes first, may own a block, and
  gives its full name as the context. -/
  enclosed : ∀ {i : Nat} {e : Declaration} {p : Nat}, ds[i]? = some e → e.parent = some p →
    p < i ∧ ∃ f, ds[p]? = some f ∧ f.kind ≠ .inherit ∧ e.context = qualify f.context f.name
  /-- Outside every block the context is empty. -/
  top : ∀ {i : Nat} {e : Declaration}, ds[i]? = some e → e.parent = none → e.context = []
  /-- The children are the declarations directly inside, in order. -/
  children : ∀ {i : Nat} {e : Declaration}, ds[i]? = some e →
    e.children = (List.range ds.length).filter fun j => parentAt ds j = some i
  /-- Who owns no block imports nothing. -/
  importless : ∀ e ∈ ds, e.kind = .inherit → e.imports = []
  /-- No name is empty. -/
  named : ∀ e ∈ ds, e.name ≠ []
  /-- No file is imported twice in one block. -/
  imports : ∀ e ∈ ds, (e.imports.map Import.path).Nodup
  /-- The declaration around an entry is the entry before it or one around
  that. -/
  preorder : ∀ {i p : Nat}, Encloses ds p (i + 1) → Relation.ReflTransGen (Encloses ds) p i

/-- The empty file. -/
theorem wellNested_nil : WellNested [] where
  enclosed h := by simp at h
  top h := by simp at h
  children h := by simp at h
  importless := by simp
  named := by simp
  imports := by simp
  preorder h := by simp [Encloses, parentAt] at h

namespace WellNested

variable {ds : List Declaration}

/-! ### Blocks -/

/-- A declaration comes after the one around it. -/
theorem lt_of_encloses (h : WellNested ds) {p i : Nat} (hpi : Encloses ds p i) : p < i := by
  obtain ⟨e, he, hparent⟩ := encloses_iff.1 hpi
  exact (h.enclosed he hparent).1

/-- A declaration comes after all those around it. -/
theorem lt_of_transGen (h : WellNested ds) {i j : Nat}
    (hij : Relation.TransGen (Encloses ds) i j) : i < j := by
  induction hij with
  | single hlink => exact h.lt_of_encloses hlink
  | tail _ hlink ih => exact Nat.lt_trans ih (h.lt_of_encloses hlink)

/-- Only declarations of the list are inside another one. -/
theorem lt_length_of_transGen {i j : Nat} (hij : Relation.TransGen (Encloses ds) i j) :
    j < ds.length := by
  obtain ⟨p, -, hlink⟩ := Relation.TransGen.tail'_iff.1 hij
  obtain ⟨e, he, -⟩ := encloses_iff.1 hlink
  exact (List.getElem?_eq_some_iff.1 he).1

/-- One step back from something inside a declaration leads to that
declaration or to something else inside it. -/
theorem transGen_pred (h : WellNested ds) {i j : Nat}
    (hij : Relation.TransGen (Encloses ds) i (j + 1)) :
    i = j ∨ Relation.TransGen (Encloses ds) i j := by
  obtain ⟨p, hip, hlink⟩ := Relation.TransGen.tail'_iff.1 hij
  have hspine : Relation.ReflTransGen (Encloses ds) i j := hip.trans (h.preorder hlink)
  rcases Relation.reflTransGen_iff_eq_or_transGen.1 hspine with hji | hdown
  · exact Or.inl hji.symm
  · exact Or.inr hdown

/-- Everything between a declaration and something inside it is inside it
as well. -/
theorem transGen_of_between (h : WellNested ds) {i j k : Nat}
    (hij : Relation.TransGen (Encloses ds) i j) (hik : i < k) (hkj : k ≤ j) :
    Relation.TransGen (Encloses ds) i k := by
  -- Going back from `j` one entry at a time never leaves the block before
  -- it reaches `i`.
  induction j with
  | zero => omega
  | succ j ih =>
      rcases Nat.lt_or_ge k (j + 1) with hlt | hge
      · rcases h.transGen_pred hij with rfl | hdown
        · omega
        · exact ih hdown (by omega)
      · have heq : k = j + 1 := by omega
        rw [heq]
        exact hij

/-- What is inside a declaration is the block of entries right behind it,
up to some end. -/
theorem exists_block (h : WellNested ds) {i : Nat} (hi : i < ds.length) :
    ∃ last, i < last ∧ last ≤ ds.length ∧
      ∀ j, Relation.TransGen (Encloses ds) i j ↔ i < j ∧ j < last := by
  classical
  -- The block ends at the first later index that is not inside.
  have hex : ∃ m, i < m ∧ ¬ Relation.TransGen (Encloses ds) i m :=
    ⟨ds.length, hi, fun hin => Nat.lt_irrefl _ (lt_length_of_transGen hin)⟩
  obtain ⟨hlast, hout⟩ := Nat.find_spec hex
  refine ⟨Nat.find hex, hlast, ?_, fun j => ⟨fun hin => ⟨h.lt_of_transGen hin, ?_⟩, ?_⟩⟩
  · exact Nat.find_min' hex ⟨hi, fun hin => Nat.lt_irrefl _ (lt_length_of_transGen hin)⟩
  · refine Nat.lt_of_not_le fun hle => hout ?_
    exact h.transGen_of_between hin hlast hle
  · rintro ⟨hij, hj⟩
    by_contra hin
    exact Nat.find_min hex hj ⟨hij, hin⟩

/-- A declaration that owns no block has nothing inside. -/
theorem children_inherit (h : WellNested ds) {i : Nat} {e : Declaration} (he : ds[i]? = some e)
    (hkind : e.kind = .inherit) : e.children = [] := by
  rw [h.children he, List.filter_eq_nil_iff]
  -- A child would have it as the declaration around, against `enclosed`.
  intro j _ hj
  have hlink : Encloses ds i j := of_decide_eq_true hj
  obtain ⟨c, hc, hparent⟩ := encloses_iff.1 hlink
  obtain ⟨-, f, hf, hne, -⟩ := h.enclosed hc hparent
  rw [he] at hf
  cases hf
  exact hne hkind

end WellNested

/-! ### Growing lists -/

/-- Every declaration of `ds` is in `es` at its index, with the same name,
form, context and enclosing declaration. -/
def Keeps (ds es : List Declaration) : Prop :=
  ∀ {i : Nat} {d : Declaration}, ds[i]? = some d → ∃ e, es[i]? = some e ∧
    e.name = d.name ∧ e.kind = d.kind ∧ e.context = d.context ∧ e.parent = d.parent

/-- Links stay when declarations are kept. -/
theorem Keeps.encloses {ds es : List Declaration} (h : Keeps ds es) {p i : Nat}
    (hpi : Encloses ds p i) : Encloses es p i := by
  obtain ⟨d, hd, hparent⟩ := encloses_iff.1 hpi
  obtain ⟨e, he, -, -, -, hsame⟩ := h hd
  exact encloses_iff.2 ⟨e, he, hsame.trans hparent⟩

/-- Ways of links stay when declarations are kept. -/
theorem Keeps.reflTransGen {ds es : List Declaration} (h : Keeps ds es) {p i : Nat}
    (hpi : Relation.ReflTransGen (Encloses ds) p i) : Relation.ReflTransGen (Encloses es) p i :=
  Relation.ReflTransGen.mono (fun _ _ hlink => h.encloses hlink) _ _ hpi

/-- The declarations after one of them got a child. -/
theorem getElem?_addChild (ds : List Declaration) (child : Nat) (parent : Option Nat) (i : Nat) :
    (Draft.addChild ds child parent)[i]?
      = ds[i]?.map fun e =>
          if parent = some i then { e with children := e.children ++ [child] } else e := by
  cases parent with
  | none => simp [Draft.addChild]
  | some p =>
      rw [Draft.addChild, List.getElem?_modify]
      by_cases hpi : p = i
      · simp [hpi]
      · simp [hpi]

/-- Adding a child changes no length. -/
theorem length_addChild (ds : List Declaration) (child : Nat) (parent : Option Nat) :
    (Draft.addChild ds child parent).length = ds.length := by
  cases parent with
  | none => rfl
  | some p => exact List.length_modify _ _ _

/-- A list with one more declaration, which the one around it has as a
child. -/
def grow (ds : List Declaration) (new : Declaration) : List Declaration :=
  Draft.addChild ds ds.length new.parent ++ [new]

section Grow

variable {ds : List Declaration} {new : Declaration}

/-- Growing adds one declaration. -/
theorem length_grow : (grow ds new).length = ds.length + 1 := by
  simp [grow, length_addChild]

/-- The new declaration stands at the end. -/
theorem getElem?_grow_length : (grow ds new)[ds.length]? = some new := by
  rw [grow, List.getElem?_append_right (by rw [length_addChild])]
  simp [length_addChild]

/-- An old declaration stays in its place. -/
theorem getElem?_grow_of_lt {i : Nat} (hi : i < ds.length) :
    (grow ds new)[i]? = ds[i]?.map fun e =>
      if new.parent = some i then { e with children := e.children ++ [ds.length] } else e := by
  rw [grow, List.getElem?_append_left (by rwa [length_addChild]), getElem?_addChild]

/-- The declarations of a grown list are the new one and the old ones,
which change at most in their children. -/
theorem getElem?_grow_cases {i : Nat} {e : Declaration} (he : (grow ds new)[i]? = some e) :
    (i = ds.length ∧ e = new) ∨ (i < ds.length ∧ ∃ d, ds[i]? = some d ∧
      e = if new.parent = some i then { d with children := d.children ++ [ds.length] } else d) := by
  have hi : i < ds.length + 1 := by
    have hlt := (List.getElem?_eq_some_iff.1 he).1
    rwa [length_grow] at hlt
  rcases Nat.lt_succ_iff_lt_or_eq.1 hi with hlt | rfl
  · rw [getElem?_grow_of_lt hlt] at he
    obtain ⟨d, hd, rfl⟩ := Option.map_eq_some_iff.1 he
    exact Or.inr ⟨hlt, d, hd, rfl⟩
  · rw [getElem?_grow_length] at he
    exact Or.inl ⟨rfl, (Option.some.inj he).symm⟩

/-- Growing keeps the old declarations. -/
theorem keeps_grow : Keeps ds (grow ds new) := by
  intro i d hd
  have hi := (List.getElem?_eq_some_iff.1 hd).1
  refine ⟨_, by rw [getElem?_grow_of_lt hi, hd, Option.map_some], ?_⟩
  split <;> exact ⟨rfl, rfl, rfl, rfl⟩

/-- The declaration around an old one stays. -/
theorem parentAt_grow_of_lt {j : Nat} (hj : j < ds.length) :
    parentAt (grow ds new) j = parentAt ds j := by
  rw [parentAt, parentAt, getElem?_grow_of_lt hj]
  cases ds[j]? with
  | none => rfl
  | some d => simp only [Option.map_some, Option.bind_some]; split <;> rfl

/-- The declaration around the new one. -/
theorem parentAt_grow_length : parentAt (grow ds new) ds.length = new.parent := by
  rw [parentAt, getElem?_grow_length, Option.bind_some]

/-- The declarations of a grown list, without their places. -/
theorem exists_of_mem_grow {e : Declaration} (he : e ∈ grow ds new) :
    e = new ∨ ∃ d ∈ ds, ∃ children, e = { d with children := children } := by
  obtain ⟨i, hi⟩ := List.getElem?_of_mem he
  rcases getElem?_grow_cases hi with ⟨-, rfl⟩ | ⟨-, d, hd, rfl⟩
  · exact Or.inl rfl
  · refine Or.inr ⟨d, List.mem_of_getElem? hd, ?_⟩
    split
    · exact ⟨d.children ++ [ds.length], rfl⟩
    · exact ⟨d.children, rfl⟩

/-- What a declaration of a grown list keeps. -/
theorem mem_grow {e : Declaration} (he : e ∈ grow ds new) :
    e = new ∨ ∃ d ∈ ds, e.name = d.name ∧ e.kind = d.kind ∧ e.imports = d.imports := by
  rcases exists_of_mem_grow he with rfl | ⟨d, hd, children, rfl⟩
  · exact Or.inl rfl
  · exact Or.inr ⟨d, hd, rfl, rfl, rfl⟩

/-- The children of a grown list: the new declaration is one more child of
the one around it. -/
theorem filter_parentAt_grow (i : Nat) :
    (List.range (grow ds new).length).filter (fun j => parentAt (grow ds new) j = some i)
      = (List.range ds.length).filter (fun j => parentAt ds j = some i)
        ++ if new.parent = some i then [ds.length] else [] := by
  rw [length_grow, List.range_succ, List.filter_append]
  congr 1
  · refine List.filter_congr fun j hj => ?_
    rw [parentAt_grow_of_lt (List.mem_range.1 hj)]
  · rw [List.filter_cons, parentAt_grow_length]
    by_cases hparent : new.parent = some i <;> simp [hparent]

/-- A forest stays one when a declaration is added in a block that is
still open: around the last declaration or behind it. -/
theorem WellNested.grow (h : WellNested ds) (hname : new.name ≠ []) (hchildren : new.children = [])
    (himports : new.imports = []) (htop : new.parent = none → new.context = [])
    (hopen : ∀ p, new.parent = some p → Relation.ReflTransGen (Encloses ds) p (ds.length - 1) ∧
      ∃ f, ds[p]? = some f ∧ f.kind ≠ .inherit ∧ new.context = qualify f.context f.name) :
    WellNested (grow ds new) where
  enclosed := by
    intro i e p he hparent
    rcases getElem?_grow_cases he with ⟨rfl, rfl⟩ | ⟨-, d, hd, rfl⟩
    · obtain ⟨-, f, hf, hkind, hcontext⟩ := hopen p hparent
      have hkeeps : Keeps ds (DefIndex.grow ds e) := keeps_grow
      obtain ⟨g, hg, hgname, hgkind, hgcontext, -⟩ := hkeeps hf
      exact ⟨(List.getElem?_eq_some_iff.1 hf).1, g, hg, hgkind ▸ hkind,
        by rw [hcontext, hgcontext, hgname]⟩
    · have hold : d.parent = some p := by
        revert hparent
        split <;> exact id
      obtain ⟨hlt, f, hf, hkind, hcontext⟩ := h.enclosed hd hold
      have hkeeps : Keeps ds (DefIndex.grow ds new) := keeps_grow
      obtain ⟨g, hg, hgname, hgkind, hgcontext, -⟩ := hkeeps hf
      refine ⟨hlt, g, hg, hgkind ▸ hkind, ?_⟩
      rw [hgcontext, hgname, ← hcontext]
      split <;> rfl
  top := by
    intro i e he hparent
    rcases getElem?_grow_cases he with ⟨-, rfl⟩ | ⟨-, d, hd, rfl⟩
    · exact htop hparent
    · have hold : d.parent = none := by
        revert hparent
        split <;> exact id
      have hcontext := h.top hd hold
      split <;> exact hcontext
  children := by
    intro i e he
    rw [filter_parentAt_grow]
    rcases getElem?_grow_cases he with ⟨rfl, rfl⟩ | ⟨hi, d, hd, rfl⟩
    · -- Nothing is inside the new declaration: whatever is around another
      -- one is older than that.
      have hnone : (List.range ds.length).filter
          (fun j => parentAt ds j = some ds.length) = [] := by
        refine List.filter_eq_nil_iff.2 fun j hj hlink => ?_
        have hlt := h.lt_of_encloses (of_decide_eq_true hlink : Encloses ds ds.length j)
        exact Nat.lt_asymm hlt (List.mem_range.1 hj)
      have hself : e.parent ≠ some ds.length := by
        intro hparent
        obtain ⟨-, f, hf, -⟩ := hopen _ hparent
        exact Nat.lt_irrefl _ (List.getElem?_eq_some_iff.1 hf).1
      rw [hnone, if_neg hself, hchildren, List.append_nil]
    · split
      · rw [h.children hd]
      · rw [h.children hd, List.append_nil]
  importless := by
    intro e he hkind
    rcases mem_grow he with rfl | ⟨d, hd, -, hdkind, hdimports⟩
    · exact himports
    · rw [hdimports]
      exact h.importless d hd (hdkind ▸ hkind)
  named := by
    intro e he
    rcases mem_grow he with rfl | ⟨d, hd, hdname, -⟩
    · exact hname
    · exact hdname ▸ h.named d hd
  imports := by
    intro e he
    rcases mem_grow he with rfl | ⟨d, hd, -, -, hdimports⟩
    · simp [himports]
    · exact hdimports ▸ h.imports d hd
  preorder := by
    intro i p hlink
    obtain ⟨e, he, hparent⟩ := encloses_iff.1 hlink
    rcases getElem?_grow_cases he with ⟨hi, rfl⟩ | ⟨hi, d, hd, rfl⟩
    · obtain ⟨hspine, -⟩ := hopen p hparent
      rw [← hi, Nat.add_sub_cancel] at hspine
      exact keeps_grow.reflTransGen hspine
    · refine keeps_grow.reflTransGen (h.preorder ?_)
      have hsame : parentAt (DefIndex.grow ds new) (i + 1) = parentAt ds (i + 1) :=
        parentAt_grow_of_lt hi
      rw [Encloses, ← hsame]
      exact hlink

end Grow

end DefIndex
