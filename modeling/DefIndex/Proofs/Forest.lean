import Mathlib.Data.List.Basic
import DefIndex.Proofs.Nesting
import DefIndex.Splice

/-!
# `DefIndex.Proofs.Forest`: the forest of a file holds its declarations

`Outline.forest` follows the lists of children, with a bound on the height
that keeps the recursion going. For a well-nested list of declarations the
bound is never met, and the forest read from top to bottom is the list.

* `Lists ds first last parent trees` says that the trees hold exactly the
  declarations with the indices from `first` up to `last`, in this order,
  the outermost of them inside `parent`.
* `Region` is the condition on a stretch of indices to be such a forest:
  no link leads into it or out of it, except from `parent`.
* `Region.split` cuts off the first tree of a stretch. The cut is made
  where the block of the first declaration ends
  (`WellNested.exists_region`).
* `WellNested.lists_forest` puts the trees together again.
-/

set_option autoImplicit false

namespace DefIndex

namespace Splice

mutual

/-- The declarations of a tree, from top to bottom. -/
def preorder : Splice → List Declaration
  | file _ parts => preorderAll parts
  | declaration d parts => d :: preorderAll parts

/-- The declarations of a forest, from top to bottom. -/
def preorderAll : List Splice → List Declaration
  | [] => []
  | tree :: trees => preorder tree ++ preorderAll trees

end

end Splice

/-- The trees hold the declarations from `first` up to `last`, the
outermost of them inside `parent`. -/
inductive Lists (ds : List Declaration) : Nat → Nat → Option Nat → List Splice → Prop where
  /-- An empty stretch. -/
  | nil (first : Nat) (parent : Option Nat) : Lists ds first first parent []
  /-- A declaration, all that is inside it, and all that follows. -/
  | cons {first middle last : Nat} {parent : Option Nat} {d : Declaration}
      {parts trees : List Splice} (found : ds[first]? = some d) (enclosed : d.parent = parent)
      (children : d.children = Splice.topIdsAll (first + 1) parts)
      (inside : Lists ds (first + 1) middle (some first) parts)
      (behind : Lists ds middle last parent trees) :
      Lists ds first last parent (.declaration d parts :: trees)

namespace Lists

variable {ds : List Declaration} {first last : Nat} {parent : Option Nat} {trees : List Splice}

/-- A stretch is as long as its trees are large. -/
theorem add_sizeAll (h : Lists ds first last parent trees) :
    first + Splice.sizeAll trees = last := by
  induction h with
  | nil => rfl
  | cons _ _ _ _ _ ihInside ihBehind =>
      simp only [Splice.sizeAll, Splice.size]
      omega

/-- The trees hold what stands between the ends of the stretch. -/
theorem take_append_preorderAll (h : Lists ds first last parent trees) :
    ds.take first ++ Splice.preorderAll trees = ds.take last := by
  induction h with
  | nil => simp [Splice.preorderAll]
  | cons found _ _ _ _ ihInside ihBehind =>
      rw [← ihBehind, ← ihInside, List.take_add_one, found]
      simp [Splice.preorderAll, Splice.preorder]

end Lists

/-! ### Stretches of indices -/

/-- The indices from `first` up to `last` whose declarations lie directly
inside `parent`. -/
def rootsIn (ds : List Declaration) (first last : Nat) (parent : Option Nat) : List Nat :=
  (List.range' first (last - first)).filter fun j => parentAt ds j = parent

/-- The declarations from `first` up to `last` are closed: what is around
them is `parent` or among them, and they are around nothing else. -/
structure Region (ds : List Declaration) (first last : Nat) (parent : Option Nat) : Prop where
  ordered : first ≤ last
  bounded : last ≤ ds.length
  parent_lt : ∀ q, parent = some q → q < first
  closed : ∀ j, first ≤ j → j < last →
    parentAt ds j = parent ∨ ∃ q, parentAt ds j = some q ∧ first ≤ q
  ended : ∀ q j, Encloses ds q j → first ≤ q → q < last → j < last

/-- The whole list is closed. -/
theorem WellNested.region (ds : List Declaration) : Region ds 0 ds.length none where
  ordered := Nat.zero_le _
  bounded := Nat.le_refl _
  parent_lt := by simp
  closed := by
    intro j _ _
    cases hparent : parentAt ds j with
    | none => exact Or.inl rfl
    | some q => exact Or.inr ⟨q, rfl, Nat.zero_le q⟩
  ended q j hlink _ _ := WellNested.lt_length_of_transGen (.single hlink)

/-- The roots of a stretch that is cut in two. -/
theorem rootsIn_append (ds : List Declaration) {first middle last : Nat} (hfirst : first ≤ middle)
    (hlast : middle ≤ last) (parent : Option Nat) :
    rootsIn ds first last parent
      = rootsIn ds first middle parent ++ rootsIn ds middle last parent := by
  have hsplit : last - first = middle - first + (last - middle) := by omega
  have hstart : first + (middle - first) = middle := by omega
  rw [rootsIn, rootsIn, rootsIn, hsplit, ← List.range'_append_1, hstart, List.filter_append]

/-- A stretch without roots. -/
theorem rootsIn_eq_nil {ds : List Declaration} {first last : Nat} {parent : Option Nat}
    (h : ∀ j, first ≤ j → j < last → parentAt ds j ≠ parent) :
    rootsIn ds first last parent = [] := by
  refine List.filter_eq_nil_iff.2 fun j hj hparent => ?_
  rw [List.mem_range'_1] at hj
  exact h j hj.1 (by omega) (of_decide_eq_true hparent)

/-- A stretch of one declaration that is a root. -/
theorem rootsIn_singleton {ds : List Declaration} {first : Nat} {parent : Option Nat}
    (h : parentAt ds first = parent) : rootsIn ds first (first + 1) parent = [first] := by
  rw [rootsIn, Nat.add_sub_cancel_left, List.range'_one]
  simp [h]

/-- The children of a declaration, as roots of the whole list. -/
theorem WellNested.children_eq_rootsIn {ds : List Declaration} (h : WellNested ds) {i : Nat}
    {d : Declaration} (hd : ds[i]? = some d) :
    d.children = rootsIn ds 0 ds.length (some i) := by
  rw [h.children hd, rootsIn, Nat.sub_zero, List.range_eq_range']

/-- What is inside a declaration is closed, and no link leads out of it. -/
theorem WellNested.exists_region {ds : List Declaration} (h : WellNested ds) {i : Nat}
    (hi : i < ds.length) :
    ∃ last, Region ds (i + 1) last (some i) ∧ ∀ j, Encloses ds i j → i < j ∧ j < last := by
  obtain ⟨last, hlt, hle, hblock⟩ := h.exists_block hi
  refine ⟨last, ⟨hlt, hle, ?_, ?_, ?_⟩, fun j hlink => (hblock j).1 (.single hlink)⟩
  · rintro q hq
    cases hq
    exact Nat.lt_succ_self _
  · intro j hj hj'
    -- The last link on the way from `i` down to `j`.
    obtain ⟨q, hway, hlink⟩ := Relation.TransGen.tail'_iff.1 ((hblock j).2 ⟨hj, hj'⟩)
    rcases Relation.reflTransGen_iff_eq_or_transGen.1 hway with rfl | hway
    · exact Or.inl hlink
    · exact Or.inr ⟨q, hlink, h.lt_of_transGen hway⟩
  · intro q j hlink hq hq'
    exact ((hblock j).1 (((hblock q).2 ⟨hq, hq'⟩).tail hlink)).2

namespace Region

variable {ds : List Declaration} {first last : Nat} {parent : Option Nat}

/-- The first declaration of a stretch lies directly inside `parent`. -/
theorem parentAt_first (hds : WellNested ds) (h : Region ds first last parent)
    (hlt : first < last) : parentAt ds first = parent := by
  rcases h.closed first (Nat.le_refl _) hlt with hown | ⟨q, hlink, hq⟩
  · exact hown
  · exact absurd (hds.lt_of_encloses hlink) (Nat.not_lt.2 hq)

/-- The block of the first declaration of a stretch, with what it does to
the rest. -/
theorem split (hds : WellNested ds) (h : Region ds first last parent) (hlt : first < last) :
    ∃ middle, first < middle ∧ middle ≤ last ∧
      Region ds (first + 1) middle (some first) ∧ Region ds middle last parent ∧
      rootsIn ds first last parent = first :: rootsIn ds middle last parent ∧
      ∀ d, ds[first]? = some d → d.children = rootsIn ds (first + 1) middle (some first) := by
  have hfirst : first < ds.length := Nat.lt_of_lt_of_le hlt h.bounded
  obtain ⟨middle, hblock, hdirect⟩ := hds.exists_region hfirst
  -- Inside the block, and only there, the declaration around is `first` or
  -- one behind it.
  have hparentIn {j : Nat} (hj : first < j) (hj' : j < middle) :
      ∃ q, parentAt ds j = some q ∧ first ≤ q := by
    rcases hblock.closed j hj hj' with hown | ⟨q, hlink, hq⟩
    · exact ⟨first, hown, Nat.le_refl _⟩
    · exact ⟨q, hlink, Nat.le_of_succ_le hq⟩
  have hinside {q j : Nat} (hlink : Encloses ds q j) (hq : first ≤ q) (hq' : q < middle) :
      j < middle := by
    rcases Nat.eq_or_lt_of_le hq with rfl | hq
    · exact (hdirect j hlink).2
    · exact hblock.ended q j hlink hq hq'
  have hle : middle ≤ last := by
    refine Nat.le_of_not_lt fun hover => ?_
    obtain ⟨q, hlink, hq⟩ := hparentIn hlt hover
    exact Nat.lt_irrefl _ (h.ended q last hlink hq (hds.lt_of_encloses hlink))
  refine ⟨middle, hblock.ordered, hle, hblock, ?_, ?_, fun d hd => ?_⟩
  · refine ⟨hle, h.bounded, ?_, ?_, ?_⟩
    · exact fun q hq => Nat.lt_trans (h.parent_lt q hq) hblock.ordered
    · intro j hj hj'
      rcases h.closed j (Nat.le_trans (Nat.le_of_lt hblock.ordered) hj) hj' with
        hparent | ⟨q, hlink, hq⟩
      · exact Or.inl hparent
      · refine Or.inr ⟨q, hlink, Nat.le_of_not_lt fun hq' => ?_⟩
        exact Nat.lt_irrefl _ (Nat.lt_of_lt_of_le (hinside hlink hq hq') hj)
    · exact fun q j hlink hq hq' =>
        h.ended q j hlink (Nat.le_trans (Nat.le_of_lt hblock.ordered) hq) hq'
  · have hnone : rootsIn ds (first + 1) middle parent = [] := by
      refine rootsIn_eq_nil fun j hj hj' hparent => ?_
      obtain ⟨q, hlink, hq⟩ := hparentIn hj hj'
      exact Nat.lt_irrefl _ (Nat.lt_of_lt_of_le (h.parent_lt q (hparent.symm.trans hlink)) hq)
    rw [rootsIn_append ds (Nat.le_succ first) (Nat.le_trans hblock.ordered hle),
      rootsIn_append ds hblock.ordered hle, rootsIn_singleton (h.parentAt_first hds hlt), hnone,
      List.nil_append, List.singleton_append]
  · have hbefore : rootsIn ds 0 (first + 1) (some first) = [] :=
      rootsIn_eq_nil fun j _ hj' hlink =>
        Nat.lt_irrefl _ (Nat.lt_of_lt_of_le hj' (hdirect j hlink).1)
    have hbehind : rootsIn ds middle ds.length (some first) = [] :=
      rootsIn_eq_nil fun j hj _ hlink =>
        Nat.lt_irrefl _ (Nat.lt_of_lt_of_le (hdirect j hlink).2 hj)
    rw [hds.children_eq_rootsIn hd,
      rootsIn_append ds (Nat.zero_le (first + 1)) (Nat.le_trans hblock.ordered hblock.bounded),
      rootsIn_append ds hblock.ordered hblock.bounded, hbefore, hbehind, List.nil_append,
      List.append_nil]

/-- The trees at the roots of a stretch hold the stretch, if they may grow
as high as the stretch is long. -/
theorem lists (hds : WellNested ds) (h : Region ds first last parent) {height : Nat}
    (hheight : last - first ≤ height) :
    Lists ds first last parent
        ((rootsIn ds first last parent).flatMap (Outline.treeAt ds height)) ∧
      Splice.topIdsAll first
        ((rootsIn ds first last parent).flatMap (Outline.treeAt ds height))
        = rootsIn ds first last parent := by
  -- The first tree and what follows it are shorter stretches.
  induction hlen : last - first using Nat.strong_induction_on
    generalizing first last parent height with
  | _ length ih =>
      rcases Nat.eq_or_lt_of_le h.ordered with rfl | hlt
      · simp only [rootsIn, Nat.sub_self, List.range'_zero, List.filter_nil, List.flatMap_nil]
        exact ⟨.nil _ _, rfl⟩
      · obtain ⟨middle, hmiddle, hle, hinside, hbehind, hroots, hchildren⟩ := h.split hds hlt
        obtain ⟨height, rfl⟩ : ∃ k, height = k + 1 := ⟨height - 1, by omega⟩
        have hfirst : first < ds.length := Nat.lt_of_lt_of_le hlt h.bounded
        have hd : ds[first]? = some ds[first] := List.getElem?_eq_getElem hfirst
        have hparent : ds[first].parent = parent := by
          have hown := h.parentAt_first hds hlt
          rwa [parentAt, hd, Option.bind_some] at hown
        obtain ⟨hlistsIn, hidsIn⟩ := ih (middle - (first + 1)) (by omega) hinside
          (by omega : middle - (first + 1) ≤ height) rfl
        obtain ⟨hlistsBehind, hidsBehind⟩ := ih (last - middle) (by omega) hbehind
          (by omega : last - middle ≤ height + 1) rfl
        -- The bound goes down by one with the depth, the stretch inside the
        -- first declaration by one at least.
        have hchildren := hchildren _ hd
        have htree : Outline.treeAt ds (height + 1) first
            = [.declaration ds[first]
                ((rootsIn ds (first + 1) middle (some first)).flatMap
                  (Outline.treeAt ds height))] := by
          rw [Outline.treeAt, hd, ← hchildren]
        rw [hroots, List.flatMap_cons, htree, List.singleton_append]
        refine ⟨.cons hd hparent (hchildren.trans hidsIn.symm) hlistsIn hlistsBehind, ?_⟩
        -- The number of the next root is where the first tree ends.
        have hsize : first + (Splice.sizeAll ((rootsIn ds (first + 1) middle (some first)).flatMap
            (Outline.treeAt ds height)) + 1) = middle := by
          have := hlistsIn.add_sizeAll
          omega
        simp only [Splice.topIdsAll, Splice.topIds, Splice.size]
        rw [hsize, hidsBehind, List.singleton_append]

end Region

/-- The indices of the outermost declarations. -/
theorem Outline.topLevel_eq (o : Outline) :
    o.topLevel = rootsIn o.declarations 0 o.declarations.length none := by
  rw [topLevel, rootsIn, Nat.sub_zero, ← List.range_eq_range']
  refine List.filter_congr fun ix hix => ?_
  have hlt : ix < o.declarations.length := List.mem_range.1 hix
  rw [parentAt, List.getElem?_eq_getElem hlt]
  cases hparent : o.declarations[ix].parent with
  | none => simp [hparent]
  | some p => simp [hparent]

/-- The forest of a file holds its declarations. -/
theorem WellNested.lists_forest {o : Outline} (h : WellNested o.declarations) :
    Lists o.declarations 0 o.declarations.length none o.forest := by
  rw [Outline.forest, Outline.topLevel_eq]
  exact ((WellNested.region _).lists h (by omega)).1

/-- The forest of a file, read from top to bottom, is the file. -/
theorem WellNested.preorderAll_forest {o : Outline} (h : WellNested o.declarations) :
    Splice.preorderAll o.forest = o.declarations := by
  simpa using h.lists_forest.take_append_preorderAll

end DefIndex
