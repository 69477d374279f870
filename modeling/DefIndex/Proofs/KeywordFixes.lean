import DefIndex.Completion
import DefIndex.Proofs.Edits
import DefIndex.Proofs.Ranking

/-!
# `DefIndex.Proofs.KeywordFixes`: the keywords that a word may have been meant as

`Suggestion.keywordFixes` lets a keyword in for one of two reasons. It is the
word in upper case, or it is within a third of the word's length in edits.
Both kinds are sorted as one list, the first one with the rank zero. No other
keyword has this rank: only the word itself is at the distance zero from it,
and the word is left out.

Only the word is put in upper case, and the keyword is taken as it is. A
keyword that has lower case letters is therefore never found by its upper
case, and one that differs from the word in case alone is offered only if it
is near enough. For keywords in upper case there is no difference.

* `Suggestion.Fixes` are the two reasons, `Suggestion.rank` is the order.
* `Suggestion.fixing_keywordFixes` is the statement about all words.
* `Suggestion.overlooked_optional` is a keyword in another case that is not
  offered.
-/

set_option autoImplicit false

namespace DefIndex

/-- Only equal texts are at the distance zero. -/
theorem EditDistance.eq_of_distance_eq_zero {a b : Text} (h : distance a b = 0) : a = b := by
  have hedits := edits_needed a.reverse b.reverse
  rw [← distance_eq_needed, h] at hedits
  generalize ha : a.reverse = a' at hedits
  generalize hb : b.reverse = b' at hedits
  cases hedits
  exact List.reverse_injective (ha.trans hb.symm)

namespace Suggestion

/-! ### Two reasons for one keyword -/

/-- A keyword that may have been meant by another word: it is the word in upper
case, or near it. -/
def Fixes (word keyword : Text) : Prop :=
  keyword ≠ word ∧
    (keyword = Text.toUpper word ∨ EditDistance.distance word keyword ≤ word.length / 3)

/-- What keywords are ordered by: zero for the word in upper case, the distance
for any other one. -/
def rank (word keyword : Text) : Nat :=
  if keyword = Text.toUpper word then 0 else EditDistance.distance word keyword

/-- A keyword with its rank. -/
def ranked (word keyword : Text) : Suggestion := ⟨keyword, rank word keyword⟩

/-- Better fixes of a word come first, those of one rank in the order of
texts. -/
def BetterFix (word a b : Text) : Prop := (ranked word a).Before (ranked word b)

section Fixes

variable {word : Text} {keywords : List Text}

/-- The word in upper case is the only fix with the rank zero. -/
theorem Fixes.rank_pos {keyword : Text} (h : Fixes word keyword)
    (hupper : keyword ≠ Text.toUpper word) : 0 < rank word keyword := by
  rw [rank, if_neg hupper]
  refine Nat.pos_of_ne_zero fun hzero => h.1 ?_
  exact (EditDistance.eq_of_distance_eq_zero hzero).symm

/-- The suggestions that a keyword makes. -/
theorem fix?_eq_some_iff {keyword : Text} {s : Suggestion} :
    fix? word keyword = some s ↔ Fixes word keyword ∧ s = ranked word keyword := by
  by_cases hword : keyword = word
  · simp [fix?, Fixes, hword]
  by_cases hupper : keyword = Text.toUpper word
  · have hfix : fix? word keyword = some (ranked word keyword) := by
      rw [fix?, if_neg hword, if_pos hupper, ranked, rank, if_pos hupper]
    rw [hfix, Option.some.injEq]
    exact ⟨fun h => ⟨⟨hword, Or.inl hupper⟩, h.symm⟩, fun h => h.2.symm⟩
  · have hrank : ranked word keyword = ⟨keyword, EditDistance.distance word keyword⟩ := by
      rw [ranked, rank, if_neg hupper]
    have hfix : fix? word keyword = if EditDistance.distance word keyword ≤ word.length / 3
        then some (ranked word keyword) else none := by
      rw [fix?, if_neg hword, if_neg hupper, hrank]
    rw [hfix]
    split
    next hnear =>
      rw [Option.some.injEq]
      exact ⟨fun h => ⟨⟨hword, Or.inr hnear⟩, h.symm⟩, fun h => h.2.symm⟩
    next hfar =>
      refine iff_of_false (by simp) ?_
      rintro ⟨⟨-, hreason⟩, -⟩
      exact hreason.elim hupper hfar

/-- The suggestions of a list of keywords. -/
theorem mem_filterMap_fix?_iff {s : Suggestion} :
    s ∈ keywords.filterMap (fix? word) ↔
      s.value ∈ keywords ∧ Fixes word s.value ∧ s = ranked word s.value := by
  simp only [List.mem_filterMap, fix?_eq_some_iff]
  constructor
  · rintro ⟨keyword, hkeyword, hfixes, rfl⟩
    exact ⟨hkeyword, hfixes, rfl⟩
  · rintro ⟨hkeyword, hfixes, hranked⟩
    exact ⟨s.value, hkeyword, hfixes, hranked⟩

/-- The empty word needs no case of its own: no keyword fixes it. -/
theorem keywordFixes_eq (word : Text) (keywords : List Text) : keywordFixes word keywords
    = (dropRepeats (fun a b => a == b) (sortBy le (keywords.filterMap (fix? word)))).map value := by
  rw [keywordFixes]
  split
  next hempty =>
    obtain rfl := List.isEmpty_iff.1 hempty
    have hnone : keywords.filterMap (fix? []) = [] := by
      refine List.eq_nil_iff_forall_not_mem.2 fun s hs => ?_
      obtain ⟨-, ⟨hne, hreason⟩, -⟩ := mem_filterMap_fix?_iff.1 hs
      rcases hreason with hupper | hnear
      · exact hne hupper
      · exact hne (EditDistance.eq_of_distance_eq_zero (Nat.le_zero.1 hnear)).symm
    rw [hnone]
    simp [sortBy, dropRepeats]
  next => rfl

/-- The keywords in order, without their ranks. -/
theorem exists_ranked_eq (word : Text) (keywords : List Text) :
    (∀ k, k ∈ keywordFixes word keywords ↔ k ∈ keywords ∧ Fixes word k) ∧
      ((keywordFixes word keywords).map (ranked word)).Pairwise Before := by
  obtain ⟨hmembers, hordered⟩ := sorted_dropRepeats (fun a b => a == b)
    (keywords.filterMap (fix? word)) fun a _ b _ => beq_iff_eq
  rw [keywordFixes_eq]
  constructor
  · intro k
    rw [List.mem_map]
    simp only [hmembers, mem_filterMap_fix?_iff]
    constructor
    · rintro ⟨s, ⟨hkeyword, hfixes, -⟩, rfl⟩
      exact ⟨hkeyword, hfixes⟩
    · rintro ⟨hkeyword, hfixes⟩
      exact ⟨ranked word k, ⟨hkeyword, hfixes, rfl⟩, rfl⟩
  · have hsame : ((dropRepeats (fun a b => a == b)
        (sortBy le (keywords.filterMap (fix? word)))).map value).map (ranked word)
        = dropRepeats (fun a b => a == b) (sortBy le (keywords.filterMap (fix? word))) := by
      rw [List.map_map]
      refine (List.map_congr_left fun s hs => ?_).trans (List.map_id _)
      exact (mem_filterMap_fix?_iff.1 ((hmembers s).1 hs)).2.2.symm
    rw [hsame]
    exact hordered

end Fixes

/-! ### The fixes of a word -/

/-- What is offered for a word. -/
structure Fixing (word : Text) (keywords fixes : List Text) : Prop where
  /-- No keyword is offered twice. -/
  once : fixes.Nodup
  /-- They are the other keywords that are the word in upper case, or are within
  a third of its length in edits. -/
  members : ∀ k, k ∈ fixes ↔ k ∈ keywords ∧ k ≠ word ∧
    (k = Text.toUpper word ∨ EditDistance.distance word k ≤ word.length / 3)
  /-- Each is better than those behind it. -/
  ordered : fixes.Pairwise (BetterFix word)
  /-- No other list is like this. -/
  unique : ∀ others : List Text, (∀ k, k ∈ others ↔ k ∈ fixes) →
    others.Pairwise (BetterFix word) → others = fixes
  /-- The word in upper case comes first. -/
  first : Text.toUpper word ∈ fixes → fixes.head? = some (Text.toUpper word)
  /-- A keyword in upper case is offered whatever the case of the word is. -/
  caseless : ∀ k ∈ keywords, Text.toUpper k = k → (k ∈ fixes ↔ k ≠ word ∧
    (Text.toUpper k = Text.toUpper word ∨ EditDistance.distance word k ≤ word.length / 3))
  /-- Any other keyword that differs from the word in case is left out if it is
  too far from it. -/
  overlooked : ∀ k ∈ keywords, k ≠ word → Text.toUpper k = Text.toUpper word →
    (k ∉ fixes ↔ k ≠ Text.toUpper word ∧ word.length / 3 < EditDistance.distance word k)

/-- Whatever the word and the keywords are, the fixes are those that qualify,
each once and the best ones first. -/
theorem fixing_keywordFixes (word : Text) (keywords : List Text) :
    Fixing word keywords (keywordFixes word keywords) := by
  obtain ⟨hmembers, hranked⟩ := exists_ranked_eq word keywords
  have hordered : (keywordFixes word keywords).Pairwise (BetterFix word) := by
    rwa [List.pairwise_map] at hranked
  constructor
  case once => exact hordered.imp fun hab heq => (heq ▸ hab).asymm (heq ▸ hab)
  case members => exact hmembers
  case ordered => exact hordered
  case unique =>
    intro others hsame hothers
    have hinjective : Function.Injective (ranked word) := fun a b h => congrArg value h
    refine hinjective.list_map (eq_of_pairwise_before (List.pairwise_map.2 hothers) hranked ?_)
    intro s
    simp only [List.mem_map, hsame]
  case first =>
    intro hupper
    cases hfixes : keywordFixes word keywords with
    | nil =>
        rw [hfixes] at hupper
        cases hupper
    | cons k rest =>
        rw [hfixes] at hupper hordered hmembers
        rcases List.mem_cons.1 hupper with heq | hrest
        · rw [heq]
          rfl
        · -- A keyword in front of it has no better rank.
          by_contra hhead
          have hne : k ≠ Text.toUpper word := fun heq => hhead (congrArg some heq)
          have hpos := ((hmembers k).1 List.mem_cons_self).2.rank_pos hne
          have hzero : rank word (Text.toUpper word) = 0 := if_pos rfl
          rcases (List.pairwise_cons.1 hordered).1 _ hrest with hlt | ⟨heq, -⟩
          · exact absurd hlt (by simp [ranked, hzero])
          · exact absurd heq (by simp only [ranked, hzero]; omega)
  case caseless =>
    intro k hk hcase
    rw [hmembers, Fixes, hcase]
    exact and_iff_right hk
  case overlooked =>
    intro k hk hne _
    rw [hmembers, Fixes]
    simp only [hk, hne, true_and, ne_eq, not_false_eq_true, not_or, Nat.not_le]

/-- A word in upper case and a keyword that has lower case letters: they are the
same but for the case, and the keyword is not offered. -/
theorem overlooked_optional :
    ("Optional" : Text) ∈ Keyword.all ∧ ("Optional" : Text) ≠ "OPTIONAL" ∧
      Text.toUpper "Optional" = Text.toUpper "OPTIONAL" ∧
      ("Optional" : Text) ∉ keywordFixes "OPTIONAL" Keyword.all := by
  have hcase : ("Optional" : Text) ≠ Text.toUpper "OPTIONAL" := by decide +kernel
  have hfar : ¬ EditDistance.distance "OPTIONAL" "Optional" ≤ ("OPTIONAL" : Text).length / 3 := by
    decide +kernel
  refine ⟨by decide, by decide, by decide +kernel, ?_⟩
  rw [(exists_ranked_eq _ _).1]
  rintro ⟨-, -, hupper | hnear⟩
  · exact hcase hupper
  · exact hfar hnear

end Suggestion

end DefIndex
