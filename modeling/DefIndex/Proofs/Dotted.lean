import DefIndex.Kind

/-!
# `DefIndex.Proofs.Dotted`: dotted names

A context is built in three ways: by joining the names of open blocks
(`Text.join`), by qualifying one name after the other (`qualify`), and, where
one file is put inside another, by putting the context of the place in
front of the context in the file (`Dotted.under`). Names are not empty, and
this is what makes the three agree.

* `Text.cut_append_cons` and `Text.join_cut`: cutting at a separator, and
  joining again.
* `Dotted.path_concat`: joining one more name qualifies it.
* `Dotted.qualify_under`: qualifying under a place and then going there is
  the same as going there and then qualifying.
-/

set_option autoImplicit false

namespace DefIndex

namespace Text

/-! ### Cutting and joining -/

section Cut

variable {α : Type} [DecidableEq α] {sep : α}

/-- Without the separator there is one piece. -/
theorem cut_of_notMem {t : List α} (h : sep ∉ t) : cut sep t = [t] := by
  induction t with
  | nil => rfl
  | cons c cs ih =>
      rw [List.mem_cons, not_or] at h
      rw [cut, ih h.2]
      exact if_neg (Ne.symm h.1)

/-- A separator stands in a text a last time. -/
theorem exists_last_of_mem {α : Type} {sep : α} {t : List α} (h : sep ∈ t) :
    ∃ front last, t = front ++ sep :: last ∧ sep ∉ last := by
  obtain ⟨behind, before, hreverse, hnone⟩ := List.eq_append_cons_of_mem (List.mem_reverse.2 h)
  refine ⟨before.reverse, behind.reverse, ?_, fun hmem => hnone (List.mem_reverse.1 hmem)⟩
  rw [← List.reverse_reverse t, hreverse]
  simp

/-- No piece of a text holds the separator. -/
theorem notMem_of_mem_cut {t piece : List α} (h : piece ∈ cut sep t) : sep ∉ piece := by
  induction t generalizing piece with
  | nil =>
      rw [List.mem_singleton.1 h]
      exact List.not_mem_nil
  | cons c cs ih =>
      rw [cut] at h
      cases hcs : cut sep cs with
      | nil => exact absurd hcs (cut_ne_nil sep cs)
      | cons first pieces =>
          rw [hcs] at h ih
          have hfirst : sep ∉ first := ih List.mem_cons_self
          simp only at h
          split at h
          · rcases List.mem_cons.1 h with rfl | h
            · exact List.not_mem_nil
            · exact ih h
          next hc =>
            rcases List.mem_cons.1 h with rfl | h
            · rw [List.mem_cons, not_or]
              exact ⟨Ne.symm hc, hfirst⟩
            · exact ih (List.mem_cons_of_mem _ h)

/-- The pieces in front of a separator, then those behind it. -/
theorem cut_append_cons (front rest : List α) :
    cut sep (front ++ sep :: rest) = cut sep front ++ cut sep rest := by
  induction front with
  | nil =>
      cases hrest : cut sep rest with
      | nil => exact absurd hrest (cut_ne_nil sep rest)
      | cons piece pieces => simp [cut, hrest]
  | cons c cs ih =>
      rw [List.cons_append, cut, ih, cut]
      cases hcs : cut sep cs with
      | nil => exact absurd hcs (cut_ne_nil sep cs)
      | cons piece pieces =>
          simp only [List.cons_append]
          split <;> rfl

end Cut

/-- Pieces that are joined again give the text. -/
theorem join_cut (sep : Char) (t : Text) : join [sep] (cut sep t) = t := by
  induction t with
  | nil => rfl
  | cons c cs ih =>
      rw [cut]
      cases hcs : cut sep cs with
      | nil => exact absurd hcs (cut_ne_nil sep cs)
      | cons piece pieces =>
          rw [hcs] at ih
          simp only
          split
          next hc =>
            rw [hc, join, ih, List.nil_append, List.singleton_append]
            simp
          next hc =>
            cases pieces with
            | nil => simpa [join] using ih
            | cons p ps => simpa [join] using ih

end Text

namespace Dotted

/-- The names from the outermost to the innermost, with dots between. -/
def path (names : List Text) : Text := Text.join ['.'] names

/-- A joined list with a name that is not empty is not empty. -/
theorem path_ne_nil {names : List Text} (hne : names ≠ []) (h : ∀ t ∈ names, t ≠ []) :
    path names ≠ [] := by
  cases names with
  | nil => exact absurd rfl hne
  | cons t ts =>
      have ht := h t List.mem_cons_self
      cases ts with
      | nil => exact ht
      | cons u us => simp [path, Text.join, ht]

/-- Joining one more name puts it behind a dot. -/
theorem join_append_singleton (sep t : Text) {ts : List Text} (hne : ts ≠ []) :
    Text.join sep (ts ++ [t]) = Text.join sep ts ++ sep ++ t := by
  induction ts with
  | nil => exact absurd rfl hne
  | cons u us ih =>
      cases us with
      | nil => simp [Text.join]
      | cons v vs =>
          have hrest := ih (by simp)
          simp only [List.cons_append, Text.join] at hrest ⊢
          rw [hrest]
          simp [List.append_assoc]

/-- Joining one more name qualifies it. -/
theorem path_concat {names : List Text} (h : ∀ t ∈ names, t ≠ []) (t : Text) :
    path (names ++ [t]) = qualify (path names) t := by
  by_cases hne : names = []
  · subst hne
    rfl
  · rw [path, join_append_singleton _ _ hne, qualify, if_neg]
    · simp [path]
    · simpa using path_ne_nil hne h

/-- A qualified name is as empty as the name. -/
theorem qualify_ne_nil (context : Text) {name : Text} (h : name ≠ []) :
    qualify context name ≠ [] := by
  rw [qualify]
  split
  · exact h
  · simp

/-- A dotted name seen from the outside: behind the name of the place, with
a dot between unless one of the two is empty. -/
def under (place inner : Text) : Text :=
  if inner.isEmpty then place else qualify place inner

/-- At the top nothing comes in front. -/
@[simp] theorem nil_under (inner : Text) : under [] inner = inner := by
  cases inner <;> rfl

/-- Under a place with a name no context is empty. -/
theorem under_ne_nil {place : Text} (h : place ≠ []) (inner : Text) : under place inner ≠ [] := by
  rw [under]
  split
  · exact h
  · next hinner => exact qualify_ne_nil place (by simpa using hinner)

/-- Qualifying and going to a place commute. -/
theorem qualify_under (place inner : Text) {name : Text} (h : name ≠ []) :
    qualify (under place inner) name = under place (qualify inner name) := by
  have hname : (qualify inner name).isEmpty = false := by
    simpa using qualify_ne_nil inner h
  rw [under, under, hname]
  cases place with
  | nil => cases inner <;> rfl
  | cons c cs =>
      cases inner with
      | nil => rfl
      | cons d ds => simp [qualify]

end Dotted

end DefIndex
