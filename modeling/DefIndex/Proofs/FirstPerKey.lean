import Mathlib.Data.List.Induction
import Mathlib.Data.List.Nodup
import DefIndex.Sorting

/-!
# `DefIndex.Proofs.FirstPerKey`: the first element of each key

`firstPerKey` goes through a list and keeps an element if its key is new.
Candidates are kept by their labels, imports by their paths.

`firstPerKey_concat` reads it from the right, one element at a time. What is
kept follows: elements only (`mem_of_mem_firstPerKey`), every key
(`mem_map_firstPerKey`), and none twice (`nodup_map_firstPerKey`).
-/

set_option autoImplicit false

namespace DefIndex

section FirstPerKey

variable {α κ : Type} [DecidableEq κ] {key : α → κ}

/-- The last element is kept if its key is new. -/
theorem firstPerKey_concat (xs : List α) (x : α) :
    firstPerKey key (xs ++ [x])
      = if key x ∈ (firstPerKey key xs).map key then firstPerKey key xs
        else firstPerKey key xs ++ [x] := by
  rw [firstPerKey, List.foldl_append, List.foldl_cons, List.foldl_nil, firstPerKey]
  have hseen (kept : List α) :
      kept.any (fun y => key y = key x) = true ↔ key x ∈ kept.reverse.map key := by
    simp [List.any_eq_true]
  simp only [hseen]
  split
  · rfl
  · rw [List.reverse_cons]

/-- Only elements are kept. -/
theorem mem_of_mem_firstPerKey {xs : List α} {x : α} (h : x ∈ firstPerKey key xs) : x ∈ xs := by
  induction xs using List.reverseRecOn with
  | nil => exact h
  | append_singleton xs y ih =>
      rw [firstPerKey_concat] at h
      split at h
      · exact List.mem_append_left _ (ih h)
      · exact (List.mem_append.1 h).elim (fun h => List.mem_append_left _ (ih h))
          (List.mem_append_right _)

/-- Every key is kept. -/
theorem mem_map_firstPerKey {xs : List α} {k : κ} :
    k ∈ (firstPerKey key xs).map key ↔ k ∈ xs.map key := by
  induction xs using List.reverseRecOn with
  | nil => exact Iff.rfl
  | append_singleton xs y ih =>
      rw [firstPerKey_concat, List.map_append, List.mem_append, List.map_singleton,
        List.mem_singleton]
      split
      next hseen =>
        -- The last key is one of the others.
        obtain ⟨x, hx, hkey⟩ := List.mem_map.1 hseen
        rw [ih]
        refine ⟨Or.inl, fun h => h.elim id ?_⟩
        rintro rfl
        exact List.mem_map.2 ⟨x, mem_of_mem_firstPerKey hx, hkey⟩
      next => rw [List.map_append, List.mem_append, ih, List.map_singleton, List.mem_singleton]

/-- No key is kept twice. -/
theorem nodup_map_firstPerKey (xs : List α) : ((firstPerKey key xs).map key).Nodup := by
  induction xs using List.reverseRecOn with
  | nil => exact List.nodup_nil
  | append_singleton xs y ih =>
      rw [firstPerKey_concat]
      split
      next => exact ih
      next hnew =>
        rw [List.map_append, List.map_singleton, List.nodup_append]
        refine ⟨ih, List.nodup_singleton _, fun k hk k' hk' => ?_⟩
        rw [List.mem_singleton.1 hk']
        exact fun hsame => hnew (hsame ▸ hk)

end FirstPerKey

end DefIndex
