import Mathlib.Data.List.Perm.Basic
import DefIndex.Suggestion

/-!
# `DefIndex.Proofs.Ranking`: the best suggestions, each once

`Suggestion.findSimilar` pairs the candidates near a query with their
distances, sorts them, drops every suggestion that repeats its left
neighbour and cuts the list. Repeats are only dropped next to each other.
This is enough, and no repeat takes a place in front of the cut: the
distance of a candidate is a function of its text, so suggestions of one
text are equal, and equal suggestions are neighbours once they are sorted.

* `Suggestion.Before` is the strict order of suggestions.
* `Suggestion.Ranking` are all candidates near a query, each once and best
  first. There is one such list (`Suggestion.Ranking.unique`), and it does
  not say how often a candidate was given, or where.
* `Suggestion.similar_findSimilar`: what is found is the start of it.
-/

set_option autoImplicit false

namespace DefIndex

namespace Suggestion

/-! ### The order of suggestions -/

/-- A suggestion is better than another one: it is nearer, or as near and
first in the order of texts. -/
def Before (a b : Suggestion) : Prop :=
  a.distance < b.distance ∨ a.distance = b.distance ∧ compare a.value b.value = .lt

/-- A suggestion is known by its text and its distance. -/
theorem eq_of_fields {a b : Suggestion} (hvalue : a.value = b.value)
    (hdistance : a.distance = b.distance) : a = b := by
  cases a
  cases b
  rw [Suggestion.mk.injEq]
  exact ⟨hvalue, hdistance⟩

/-- The order that suggestions are sorted by. -/
theorem le_iff {a b : Suggestion} : le a b = true ↔
    a.distance < b.distance ∨ a.distance = b.distance ∧ (compare a.value b.value).isLE = true := by
  simp [le, textLe]

/-- Of two suggestions one comes first. -/
theorem le_total (a b : Suggestion) : le a b = true ∨ le b a = true := by
  have htexts : (compare a.value b.value).isLE = true ∨ (compare b.value a.value).isLE = true := by
    rw [Std.OrientedOrd.eq_swap (a := b.value) (b := a.value)]
    cases compare a.value b.value <;> simp [Ordering.isLE, Ordering.swap]
  rw [le_iff, le_iff]
  rcases Nat.lt_trichotomy a.distance b.distance with hlt | heq | hgt
  · exact Or.inl (Or.inl hlt)
  · exact htexts.imp (fun h => Or.inr ⟨heq, h⟩) fun h => Or.inr ⟨heq.symm, h⟩
  · exact Or.inr (Or.inl hgt)

/-- The order of suggestions is transitive. -/
theorem le_trans (a b c : Suggestion) (hab : le a b = true) (hbc : le b c = true) :
    le a c = true := by
  rw [le_iff] at hab hbc ⊢
  rcases hab with hab | ⟨hab, habText⟩
  · rcases hbc with hbc | ⟨hbc, -⟩
    · exact Or.inl (Nat.lt_trans hab hbc)
    · exact Or.inl (hbc ▸ hab)
  · rcases hbc with hbc | ⟨hbc, hbcText⟩
    · exact Or.inl (hab ▸ hbc)
    · exact Or.inr ⟨hab.trans hbc, Std.TransCmp.isLE_trans habText hbcText⟩

/-- Two suggestions of which each comes before the other are one. -/
theorem le_antisymm {a b : Suggestion} (hab : le a b = true) (hba : le b a = true) : a = b := by
  rw [le_iff] at hab hba
  rcases hab with hab | ⟨hdistance, habText⟩
  · rcases hba with hba | ⟨hba, -⟩ <;> omega
  · rcases hba with hba | ⟨-, hbaText⟩
    · omega
    · have hvalue : compare a.value b.value = .eq :=
        Std.OrientedCmp.isLE_antisymm habText hbaText
      exact eq_of_fields (Std.LawfulEqOrd.eq_of_compare hvalue) hdistance

/-- Of two different suggestions the first one is better. -/
theorem before_of_le {a b : Suggestion} (hle : le a b = true) (hne : a ≠ b) : Before a b := by
  rcases le_iff.1 hle with hlt | ⟨hdistance, htext⟩
  · exact Or.inl hlt
  · refine Or.inr ⟨hdistance, ?_⟩
    cases hvalue : compare a.value b.value with
    | lt => rfl
    | eq =>
        exact absurd (eq_of_fields (Std.LawfulEqOrd.eq_of_compare hvalue) hdistance) hne
    | gt =>
        rw [hvalue] at htext
        cases htext

/-- No suggestion is better than one that is better than it. -/
theorem Before.asymm {a b : Suggestion} (hab : Before a b) (hba : Before b a) : False := by
  rcases hab with hab | ⟨hab, habText⟩
  · rcases hba with hba | ⟨hba, -⟩ <;> omega
  · rcases hba with hba | ⟨-, hbaText⟩
    · omega
    · exact Std.OrientedCmp.not_lt_of_lt habText hbaText

/-- Lists of the same suggestions are one list if each suggestion is better than
those behind it. -/
theorem eq_of_pairwise_before {l l' : List Suggestion} (h : l.Pairwise Before)
    (h' : l'.Pairwise Before) (hmembers : ∀ s, s ∈ l ↔ s ∈ l') : l = l' := by
  have hnodup {l : List Suggestion} (hl : l.Pairwise Before) : l.Nodup :=
    hl.imp fun hab heq => (heq ▸ hab).asymm (heq ▸ hab)
  have hperm : l.Perm l' := (List.perm_ext_iff_of_nodup (hnodup h) (hnodup h')).2 hmembers
  exact hperm.eq_of_pairwise (fun _ _ _ _ hab hba => (hab.asymm hba).elim) h h'

/-- Sorting suggestions and dropping repeats loses none of them, and leaves each
one better than those behind it. -/
theorem sorted_dropRepeats (same : Suggestion → Suggestion → Bool) (found : List Suggestion)
    (hsame : ∀ a ∈ found, ∀ b ∈ found, same a b = true ↔ a = b) :
    (∀ s, s ∈ dropRepeats same (sortBy le found) ↔ s ∈ found) ∧
      (dropRepeats same (sortBy le found)).Pairwise Before := by
  refine ⟨fun s => ⟨fun hs => mem_sortBy.1 (mem_of_mem_dropRepeats hs), fun hs => ?_⟩, ?_⟩
  · refine mem_dropRepeats (fun a ha b hb hab => ?_) (mem_sortBy.2 hs)
    exact (hsame a (mem_sortBy.1 ha) b (mem_sortBy.1 hb)).1 hab
  · refine (pairwise_dropRepeats ?_ ?_ (pairwise_sortBy le_total le_trans _)).imp ?_
    · exact fun _ _ _ _ hab hba => le_antisymm hab hba
    · exact fun a ha => (hsame a (mem_sortBy.1 ha) a (mem_sortBy.1 ha)).2 rfl
    · exact fun h => before_of_le h.1 h.2

/-! ### All candidates near a query -/

/-- The candidates with a distance of at least one and at most `maxDistance`
from the query, each once and with its distance, the best ones first. -/
structure Ranking (query : Text) (candidates : List Text) (maxDistance : Nat)
    (ranking : List Suggestion) : Prop where
  /-- They are the candidates within the distance. -/
  members : ∀ s, s ∈ ranking ↔ s.value ∈ candidates ∧
    s.distance = EditDistance.distance query s.value ∧ 1 ≤ s.distance ∧ s.distance ≤ maxDistance
  /-- Each is better than those behind it. -/
  increasing : ranking.Pairwise Before

section Ranking

variable {query : Text} {candidates others : List Text} {maxDistance : Nat}
  {ranking ranked : List Suggestion}

/-- A ranking only depends on which candidates there are. -/
theorem Ranking.congr (h : Ranking query candidates maxDistance ranking)
    (hsame : ∀ v, v ∈ others ↔ v ∈ candidates) : Ranking query others maxDistance ranking where
  members s := by rw [h.members, hsame]
  increasing := h.increasing

/-- There is one ranking of the candidates. -/
theorem Ranking.unique (h : Ranking query candidates maxDistance ranking)
    (h' : Ranking query candidates maxDistance ranked) : ranking = ranked :=
  eq_of_pairwise_before h.increasing h'.increasing fun s => by rw [h.members, h'.members]

/-- The suggestions that a candidate makes. -/
theorem near?_eq_some_iff {candidate : Text} {s : Suggestion} :
    near? query maxDistance candidate = some s ↔ s.value = candidate ∧
      s.distance = EditDistance.distance query s.value ∧ 1 ≤ s.distance ∧
        s.distance ≤ maxDistance := by
  simp only [near?]
  split
  next hnear =>
    rw [Option.some.injEq]
    constructor
    · rintro rfl
      exact ⟨rfl, rfl, hnear⟩
    · rintro ⟨rfl, hdistance, -⟩
      rw [← hdistance]
  next hfar =>
    refine iff_of_false (by simp) ?_
    rintro ⟨rfl, hdistance, hlow, hhigh⟩
    exact hfar (hdistance ▸ ⟨hlow, hhigh⟩)

/-- The suggestions of a list of candidates. -/
theorem mem_filterMap_near?_iff {s : Suggestion} :
    s ∈ candidates.filterMap (near? query maxDistance) ↔ s.value ∈ candidates ∧
      s.distance = EditDistance.distance query s.value ∧ 1 ≤ s.distance ∧
        s.distance ≤ maxDistance := by
  rw [List.mem_filterMap]
  simp only [near?_eq_some_iff]
  constructor
  · rintro ⟨candidate, hcandidate, rfl, hnear⟩
    exact ⟨hcandidate, hnear⟩
  · rintro ⟨hcandidate, hnear⟩
    exact ⟨s.value, hcandidate, rfl, hnear⟩

/-- Suggestions that are sorted and freed of repeats are the ranking. -/
theorem ranking_dropRepeats (query : Text) (candidates : List Text) (maxDistance : Nat) :
    Ranking query candidates maxDistance
      (dropRepeats (fun a b => a.value == b.value)
        (sortBy le (candidates.filterMap (near? query maxDistance)))) := by
  obtain ⟨hmembers, hordered⟩ := sorted_dropRepeats (fun a b => a.value == b.value)
    (candidates.filterMap (near? query maxDistance)) fun a ha b hb => by
      -- The text of a suggestion decides its distance.
      obtain ⟨-, hadistance, -⟩ := mem_filterMap_near?_iff.1 ha
      obtain ⟨-, hbdistance, -⟩ := mem_filterMap_near?_iff.1 hb
      constructor
      · intro hvalue
        have hvalue : a.value = b.value := eq_of_beq hvalue
        exact eq_of_fields hvalue (by rw [hadistance, hbdistance, hvalue])
      · rintro rfl
        exact beq_self_eq_true a.value
  exact ⟨fun s => (hmembers s).trans mem_filterMap_near?_iff, hordered⟩

end Ranking

/-- What is found for a query: the start of the ranking of the candidates. -/
structure Similar (query : Text) (candidates : List Text) (maxDistance maxCount : Nat)
    (found : List Suggestion) : Prop where
  /-- They are the first ones of the ranking, which is one list. -/
  best : ∃ ranking, Ranking query candidates maxDistance ranking ∧
    (∀ other, Ranking query candidates maxDistance other → other = ranking) ∧
      found = ranking.take maxCount
  /-- The same candidates in another order, or given more often or less, make
  no difference. -/
  unchanged : ∀ others, (∀ v, v ∈ others ↔ v ∈ candidates) →
    findSimilar query others maxDistance maxCount = found
  /-- A candidate that is left out is the query, too far from it, or ranks
  behind everything that is found. -/
  leftOut : ∀ v ∈ candidates, v ∉ found.map value →
    EditDistance.distance query v = 0 ∨ maxDistance < EditDistance.distance query v ∨
      ∀ s ∈ found, s.Before ⟨v, EditDistance.distance query v⟩

/-- Whatever the candidates are, the best ones are found, each once. -/
theorem similar_findSimilar (query : Text) (candidates : List Text) (maxDistance maxCount : Nat) :
    Similar query candidates maxDistance maxCount
      (findSimilar query candidates maxDistance maxCount) := by
  have hranking := ranking_dropRepeats query candidates maxDistance
  refine ⟨⟨_, hranking, fun other hother => hother.unique hranking, rfl⟩, ?_, ?_⟩
  · intro others hsame
    have hothers := ranking_dropRepeats query others maxDistance
    exact congrArg (List.take maxCount) (hothers.unique (hranking.congr hsame))
  · intro v hv hleft
    let s : Suggestion := ⟨v, EditDistance.distance query v⟩
    by_cases hnear : 1 ≤ s.distance ∧ s.distance ≤ maxDistance
    · refine Or.inr (Or.inr fun better hbetter => ?_)
      have hmem := (hranking.members s).2 ⟨hv, rfl, hnear⟩
      have hincreasing := hranking.increasing
      -- It is in the ranking, and behind the cut.
      rw [← List.take_append_drop maxCount (dropRepeats _ _)] at hmem hincreasing
      have hbehind := (List.mem_append.1 hmem).resolve_left fun htaken =>
        hleft (List.mem_map_of_mem htaken)
      exact (List.pairwise_append.1 hincreasing).2.2 better hbetter s hbehind
    · have hdistance : s.distance = EditDistance.distance query v := rfl
      omega

end Suggestion

end DefIndex
