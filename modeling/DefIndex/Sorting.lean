/-!
# `DefIndex.Sorting`: stable sorting by insertion

Every list the index reports has a stated order, and most are short, so
one insertion sort serves them all. `sortBy le` is stable: equal elements
keep their order. The recursion is structural, so a sorted
closed list can be computed in a proof.

* `sortBy_perm`: sorting rearranges.
* `pairwise_sortBy`: the result is in order, for a total preorder.
* `mem_dropRepeats` and `pairwise_dropRepeats`: of elements in order, each
  is left once when repeats are dropped.
-/

set_option autoImplicit false

namespace DefIndex

/-- Put `x` in front of the first element that it does not exceed. An
element equal to `x` stays behind it: `sortBy` inserts the elements from
the right end of the list, so that `x` stood to its left. -/
def insertBy {α : Type} (le : α → α → Bool) (x : α) : List α → List α
  | [] => [x]
  | y :: ys => if le x y then x :: y :: ys else y :: insertBy le x ys

/-- The elements in the order of `le`, equal ones as they stood. -/
def sortBy {α : Type} (le : α → α → Bool) : List α → List α
  | [] => []
  | x :: xs => insertBy le x (sortBy le xs)

/-- Drop every element that equals its left neighbour. -/
def dropRepeats {α : Type} (same : α → α → Bool) : List α → List α
  | [] => []
  | [x] => [x]
  | x :: y :: rest =>
    if same x y then dropRepeats same (x :: rest)
    else x :: dropRepeats same (y :: rest)

/-- Keep the first of the elements that share a key. -/
def firstPerKey {α κ : Type} [DecidableEq κ] (key : α → κ) (xs : List α) : List α :=
  (xs.foldl (fun (kept : List α) x =>
    if kept.any (fun y => key y = key x) then kept else x :: kept) []).reverse

/-! ### Laws of sorting -/

/-- Insertion adds one element. -/
theorem insertBy_perm {α : Type} (le : α → α → Bool) (x : α) (xs : List α) :
    (insertBy le x xs).Perm (x :: xs) := by
  induction xs with
  | nil => exact List.Perm.refl _
  | cons y ys ih =>
      simp only [insertBy]
      split
      · exact List.Perm.refl _
      · exact (ih.cons y).trans (List.Perm.swap x y ys)

/-- Sorting rearranges. -/
theorem sortBy_perm {α : Type} (le : α → α → Bool) (xs : List α) :
    (sortBy le xs).Perm xs := by
  induction xs with
  | nil => exact List.Perm.refl _
  | cons x xs ih => exact (insertBy_perm le x _).trans (ih.cons x)

/-- Sorting keeps the members. -/
theorem mem_sortBy {α : Type} {le : α → α → Bool} {xs : List α} {a : α} :
    a ∈ sortBy le xs ↔ a ∈ xs :=
  (sortBy_perm le xs).mem_iff

/-- Sorting keeps the length. -/
theorem length_sortBy {α : Type} (le : α → α → Bool) (xs : List α) :
    (sortBy le xs).length = xs.length :=
  (sortBy_perm le xs).length_eq

/-- Insertion keeps a list in order. -/
theorem pairwise_insertBy {α : Type} {le : α → α → Bool}
    (total : ∀ a b, le a b = true ∨ le b a = true)
    (trans : ∀ a b c, le a b = true → le b c = true → le a c = true)
    (x : α) {xs : List α} (h : xs.Pairwise fun a b => le a b = true) :
    (insertBy le x xs).Pairwise fun a b => le a b = true := by
  induction xs with
  | nil => simp [insertBy]
  | cons y ys ih =>
      rw [List.pairwise_cons] at h
      simp only [insertBy]
      split
      next hxy =>
        refine List.pairwise_cons.2 ⟨?_, List.pairwise_cons.2 h⟩
        intro b hb
        rcases List.mem_cons.1 hb with rfl | hb
        · exact hxy
        · exact trans _ _ _ hxy (h.1 b hb)
      next hxy =>
        refine List.pairwise_cons.2 ⟨?_, ih h.2⟩
        intro b hb
        rcases List.mem_cons.1 ((insertBy_perm le x ys).mem_iff.1 hb) with rfl | hb
        · exact (total b y).resolve_left hxy
        · exact h.1 b hb

/-- The result of sorting is in order. -/
theorem pairwise_sortBy {α : Type} {le : α → α → Bool}
    (total : ∀ a b, le a b = true ∨ le b a = true)
    (trans : ∀ a b c, le a b = true → le b c = true → le a c = true)
    (xs : List α) : (sortBy le xs).Pairwise fun a b => le a b = true := by
  induction xs with
  | nil => exact List.Pairwise.nil
  | cons x xs ih => exact pairwise_insertBy total trans x ih

/-! ### Laws of dropping repeats -/

/-- What is left of a list stood in it. -/
theorem mem_of_mem_dropRepeats {α : Type} {same : α → α → Bool} {xs : List α} {a : α}
    (ha : a ∈ dropRepeats same xs) : a ∈ xs := by
  fun_induction dropRepeats same xs with
  | case1 => exact ha
  | case2 => exact ha
  | case3 x y rest _ ih =>
      rcases List.mem_cons.1 (ih ha) with rfl | ha
      · exact List.mem_cons_self
      · exact List.mem_cons_of_mem _ (List.mem_cons_of_mem _ ha)
  | case4 x y rest _ ih =>
      rcases List.mem_cons.1 ha with rfl | ha
      · exact List.mem_cons_self
      · exact List.mem_cons_of_mem _ (ih ha)

/-- No element gets lost if only equal ones count as repeats. -/
theorem mem_dropRepeats {α : Type} {same : α → α → Bool} {xs : List α}
    (hsame : ∀ a ∈ xs, ∀ b ∈ xs, same a b = true → a = b) {a : α} (ha : a ∈ xs) :
    a ∈ dropRepeats same xs := by
  fun_induction dropRepeats same xs with
  | case1 => exact ha
  | case2 => exact ha
  | case3 x y rest hxy ih =>
      -- The second element is dropped, and it is the first one.
      have heq : x = y := hsame x (by simp) y (by simp) hxy
      have hrest : ∀ b ∈ x :: rest, b ∈ x :: y :: rest := by
        intro b hb
        rcases List.mem_cons.1 hb with rfl | hb
        · exact List.mem_cons_self
        · exact List.mem_cons_of_mem _ (List.mem_cons_of_mem _ hb)
      refine ih (fun b hb c hc => hsame b (hrest b hb) c (hrest c hc)) ?_
      rwa [← heq, List.mem_cons, List.mem_cons, ← or_assoc, or_self, ← List.mem_cons] at ha
  | case4 x y rest _ ih =>
      rcases List.mem_cons.1 ha with rfl | ha
      · exact List.mem_cons_self
      · refine List.mem_cons_of_mem _ (ih (fun b hb c hc => ?_) ha)
        exact hsame b (List.mem_cons_of_mem _ hb) c (List.mem_cons_of_mem _ hc)

/-- Where equal elements count as repeats, those in order are distinct once
repeats next to each other are gone. -/
theorem pairwise_dropRepeats {α : Type} {le same : α → α → Bool} {xs : List α}
    (antisymm : ∀ a ∈ xs, ∀ b ∈ xs, le a b = true → le b a = true → a = b)
    (hsame : ∀ a ∈ xs, same a a = true) (hordered : xs.Pairwise fun a b => le a b = true) :
    (dropRepeats same xs).Pairwise fun a b => le a b = true ∧ a ≠ b := by
  fun_induction dropRepeats same xs with
  | case1 => exact List.Pairwise.nil
  | case2 => exact List.pairwise_singleton _ _
  | case3 x y rest _ ih =>
      have hrest : ∀ b ∈ x :: rest, b ∈ x :: y :: rest := by
        intro b hb
        rcases List.mem_cons.1 hb with rfl | hb
        · exact List.mem_cons_self
        · exact List.mem_cons_of_mem _ (List.mem_cons_of_mem _ hb)
      obtain ⟨hx, hbehind⟩ := List.pairwise_cons.1 hordered
      refine ih (fun b hb c hc => antisymm b (hrest b hb) c (hrest c hc))
        (fun b hb => hsame b (hrest b hb)) (List.pairwise_cons.2 ⟨fun b hb => ?_, ?_⟩)
      · exact hx b (List.mem_cons_of_mem _ hb)
      · exact (List.pairwise_cons.1 hbehind).2
  | case4 x y rest hxy ih =>
      obtain ⟨hx, hbehind⟩ := List.pairwise_cons.1 hordered
      refine List.pairwise_cons.2 ⟨fun b hb => ?_, ih
        (fun b hb c hc => antisymm b (List.mem_cons_of_mem _ hb) c (List.mem_cons_of_mem _ hc))
        (fun b hb => hsame b (List.mem_cons_of_mem _ hb)) hbehind⟩
      have hmem : b ∈ y :: rest := mem_of_mem_dropRepeats hb
      refine ⟨hx b hmem, ?_⟩
      rintro rfl
      -- A second `x` behind `y` would hold `y` between two equal elements.
      have hyx : y = x := by
        rcases List.mem_cons.1 hmem with heq | hmem
        · exact heq.symm
        · have hle : le y x = true := (List.pairwise_cons.1 hbehind).1 x hmem
          exact antisymm y (by simp) x (by simp) hle (hx y List.mem_cons_self)
      exact hxy (hyx ▸ hsame x List.mem_cons_self)

end DefIndex
