import DefIndex.Proofs.Phrase

/-!
# `DefIndex.Proofs.Heading`: a declaration up to its mark

A heading is what stands in front of the `;` or the brace of a
declaration: the keyword phrase of a form and a name, with blanks between
the words that the writer is free to choose.

* `Heading.afterPhrase?_text`: a phrase is found at one of the three words
  of a heading or not at all.
* `Heading.afterPhrase?_words`: of the keyword phrases only the own one is
  found, whatever the name is.
* `Heading.read_text`: a heading declares its name.
-/

set_option autoImplicit false

namespace DefIndex

/-- A name of ASCII letters, digits and underscores, other than the word
that imports a file. -/
structure Label where
  text : Text
  nonempty : text ≠ []
  plain : Plain text
  notImport : text ≠ "IMPORT"

/-- Spaces and tabs, any number of them. -/
structure Blank where
  text : Text
  spaces : Spaces text

/-- Spaces and tabs, at least one. -/
structure Gap extends Blank where
  nonempty : text ≠ []

/-- A declaration up to the mark that ends it: a form that is introduced by
a keyword, a name, and the blanks around the words. -/
structure Heading where
  kind : Kind
  opens : kind.opensScope = true
  name : Label
  indent : Blank
  /-- Between the words of the keyword phrase. -/
  between : Gap
  /-- In front of the name. -/
  before : Gap
  /-- Behind the name. -/
  behind : Blank

/-- A heading as it is written. -/
def Heading.text (h : Heading) : Text :=
  h.indent.text ++ (Text.join h.between.text h.kind.words
    ++ (h.before.text ++ (h.name.text ++ h.behind.text)))

/-! ### The words of a phrase -/

namespace Kind

/-- The first word of the phrase of a form. -/
def firstWord (k : Kind) : Text := k.words.headD []

/-- The word of the phrase that tells the forms apart. -/
def secondWord (k : Kind) : Text := k.words.getD 1 []

/-- A phrase has two words. -/
theorem words_eq {k : Kind} (h : k.opensScope = true) : k.words = [k.firstWord, k.secondWord] := by
  revert h
  cases k <;> decide

/-- The words of a phrase are plain, and none of them imports. -/
theorem plain_words {k : Kind} (h : k.opensScope = true) :
    (Plain k.firstWord ∧ k.firstWord ≠ [] ∧ k.firstWord ≠ "IMPORT") ∧
      Plain k.secondWord ∧ k.secondWord ≠ [] ∧ k.secondWord ≠ "IMPORT" := by
  revert h
  cases k <;> decide

/-- No phrase starts with the second word of another. -/
theorem firstWord_ne_secondWord {k k' : Kind} (h : k.opensScope = true) :
    k'.firstWord ≠ k.secondWord := by
  revert h
  cases k <;> cases k' <;> decide

/-- The words tell the forms apart. -/
theorem eq_of_words {k k' : Kind} (h : k.opensScope = true) (hfirst : k'.firstWord = k.firstWord)
    (hsecond : k'.secondWord = k.secondWord) : k' = k := by
  revert h hfirst hsecond
  cases k <;> cases k' <;> decide

end Kind

/-! ### Reading a heading -/

namespace Heading

open Statement

/-- The words of a heading and the blanks around them. -/
theorem text_eq (h : Heading) : h.text = h.indent.text ++ (h.kind.firstWord ++ (h.between.text
    ++ (h.kind.secondWord ++ (h.before.text ++ (h.name.text ++ h.behind.text))))) := by
  rw [text, Kind.words_eq h.opens]
  simp [Text.join]

/-- Where a phrase is found in a heading: at one of its three words. -/
theorem afterPhrase?_text (h : Heading) {word : Text} (hword : Plain word) (hne : word ≠ [])
    (words : List Text) :
    afterPhrase? (word :: words) false h.text
      = (if word = h.kind.firstWord then
            skipPhrase? words
              (h.kind.secondWord ++ (h.before.text ++ (h.name.text ++ h.behind.text)))
          else none).or
        ((if word = h.kind.secondWord then skipPhrase? words (h.name.text ++ h.behind.text)
          else none).or
        (if word = h.name.text then (skipBlanks? h.behind.text).bind (skipPhrase? words)
          else none)) := by
  obtain ⟨⟨hfirst, hfirst', -⟩, hsecond, hsecond', -⟩ := Kind.plain_words h.opens
  -- The words go by one after the other.
  have hend : afterPhrase? (word :: words) true h.behind.text = none := by
    by_cases hnil : h.behind.text = []
    · rw [hnil]
      rfl
    · have hpass : afterPhrase? (word :: words) true (h.behind.text ++ []) = none :=
        afterPhrase?_spaces hword hne words h.behind.spaces (Or.inl hnil) []
      rwa [List.append_nil] at hpass
  rw [text_eq, afterPhrase?_spaces hword hne words h.indent.spaces (Or.inr rfl),
    afterPhrase?_plain hword words hfirst hfirst'
      (h.between.spaces.breaks_append h.between.nonempty _),
    skipBlanks?_spaces h.between.spaces h.between.nonempty,
    hsecond.dropWhile_append hsecond', Option.bind_some,
    afterPhrase?_spaces hword hne words h.between.spaces (Or.inl h.between.nonempty),
    afterPhrase?_plain hword words hsecond hsecond'
      (h.before.spaces.breaks_append h.before.nonempty _),
    skipBlanks?_spaces h.before.spaces h.before.nonempty,
    h.name.plain.dropWhile_append h.name.nonempty, Option.bind_some,
    afterPhrase?_spaces hword hne words h.before.spaces (Or.inl h.before.nonempty),
    afterPhrase?_plain hword words h.name.plain h.name.nonempty h.behind.spaces.breaks, hend,
    Option.or_none]

/-- A heading imports nothing. -/
theorem afterPhrase?_import (h : Heading) : afterPhrase? ["IMPORT"] false h.text = none := by
  obtain ⟨⟨-, -, hfirst⟩, -, -, hsecond⟩ := Kind.plain_words h.opens
  rw [afterPhrase?_text h (by decide) (by decide), if_neg hfirst.symm, if_neg hsecond.symm,
    if_neg h.name.notImport.symm]
  rfl

/-- A heading has the phrase of its form and no other. -/
theorem afterPhrase?_words (h : Heading) {k : Kind} (hk : k.opensScope = true) :
    afterPhrase? k.words false h.text
      = if k = h.kind then some (h.name.text ++ h.behind.text) else none := by
  obtain ⟨⟨hfirst, hfirst', -⟩, hsecond, hsecond', -⟩ := Kind.plain_words hk
  obtain ⟨-, hown, -, -⟩ := Kind.plain_words h.opens
  -- A name that is the first word of a phrase has no second word behind it.
  have hlate : (skipBlanks? h.behind.text).bind (skipPhrase? [k.secondWord]) = none := by
    rcases skipBlanks?_of_spaces h.behind.spaces with hskip | hskip
    · rw [hskip, Option.bind_none]
    · have hnone := @skipPhrase?_plain k.secondWord [] [] hsecond (by simp [Plain])
        (by simp [Breaks]) []
      rw [if_neg hsecond'] at hnone
      rw [hskip, Option.bind_some]
      exact hnone
  rw [Kind.words_eq hk, afterPhrase?_text h hfirst hfirst',
    if_neg (Kind.firstWord_ne_secondWord h.opens), Option.none_or, hlate, ite_self, Option.or_none,
    skipPhrase?_plain hsecond hown (h.before.spaces.breaks_append h.before.nonempty _),
    skipBlanks?_spaces h.before.spaces h.before.nonempty,
    h.name.plain.dropWhile_append h.name.nonempty, Option.bind_some, skipPhrase?]
  by_cases hkind : k = h.kind
  · rw [if_pos hkind, hkind, if_pos rfl, if_pos rfl]
  · rw [if_neg hkind]
    split
    -- Some forms share the first word; then the second one differs.
    next hsame => rw [if_neg fun hsame' => hkind (Kind.eq_of_words h.opens hsame hsame')]
    next => rfl

/-- The name behind the phrase of a heading is the whole name. -/
theorem nameOf_text (h : Heading) : nameOf (h.name.text ++ h.behind.text) = h.name.text := by
  have htake : (h.name.text ++ h.behind.text).takeWhile (fun c => !Text.isBlank c && c != '(')
      = h.name.text := by
    rw [List.takeWhile_append_of_pos]
    · have hstop : h.behind.text.takeWhile (fun c => !Text.isBlank c && c != '(') = [] := by
        cases hbehind : h.behind.text with
        | nil => rfl
        | cons c cs =>
            have hc := Text.isBlank_of_space (h.behind.spaces c (by simp [hbehind]))
            rw [List.takeWhile_cons_of_neg (by simp [hc])]
      rw [hstop, List.append_nil]
    · intro c hc
      have hblank := Text.isBlank_of_plain (h.name.plain c hc)
      have hparen : c ≠ '(' := by
        rintro rfl
        exact absurd (h.name.plain _ hc) (by decide)
      simp [hblank, hparen]
  -- A plain name does not end in one of the marks that are dropped.
  rw [nameOf, htake, Text.dropEndWhile]
  cases hlast : h.name.text.reverse with
  | nil => exact absurd (List.reverse_eq_nil_iff.1 hlast) h.name.nonempty
  | cons c cs =>
      have hmem : c ∈ h.name.text := List.mem_reverse.1 (by simp [hlast])
      have hend : isNameEnd c = false := by
        have hcode := toNat_of_plain (h.name.plain c hmem)
        rw [isNameEnd, List.contains_eq_mem, decide_eq_false_iff_not]
        intro hmark
        simp only [List.mem_cons, List.not_mem_nil, or_false] at hmark
        rcases hmark with rfl | rfl | rfl | rfl | rfl | rfl <;> revert hcode <;> decide
      rw [List.dropWhile_cons_of_neg (by simp [hend]), ← hlast, List.reverse_reverse]

/-- Of the forms that are tried, the one of the heading is found. -/
theorem readDeclaration_text (h : Heading) {kinds : List Kind} (hmem : h.kind ∈ kinds)
    (hkinds : ∀ k ∈ kinds, k.opensScope = true) :
    ∃ offset, readDeclaration h.text kinds = .declares h.kind ⟨h.name.text, offset⟩ := by
  induction kinds with
  | nil => cases hmem
  | cons k rest ih =>
      obtain ⟨hk, hrest⟩ := List.forall_mem_cons.1 hkinds
      rw [readDeclaration, afterPhrase?_words h hk]
      by_cases hkind : k = h.kind
      · have hname : h.name.text.isEmpty = false := by
          simpa using h.name.nonempty
        simp only [if_pos hkind, nameOf_text, hname]
        exact ⟨_, by rw [hkind]; rfl⟩
      · simp only [if_neg hkind]
        exact ih ((List.mem_cons.1 hmem).resolve_left (Ne.symm hkind)) hrest

/-- A heading declares its name. -/
theorem read_text (h : Heading) :
    ∃ offset, Statement.read h.text = .declares h.kind ⟨h.name.text, offset⟩ := by
  obtain ⟨offset, hread⟩ := readDeclaration_text h ((Kind.mem_byKeyword_iff _).2 h.opens)
    fun k hk => (Kind.mem_byKeyword_iff k).1 hk
  refine ⟨offset, ?_⟩
  rw [Statement.read, afterPhrase?_import]
  -- The first character that is not blank is a letter.
  obtain ⟨⟨hplain, hne, -⟩, -⟩ := Kind.plain_words h.opens
  have htrim : Text.trimStart h.text = h.kind.firstWord ++ (h.between.text
      ++ (h.kind.secondWord ++ (h.before.text ++ (h.name.text ++ h.behind.text)))) := by
    rw [Text.trimStart, text_eq, h.indent.spaces.dropWhile_append, hplain.dropWhile_append hne]
  cases hfirst : h.kind.firstWord with
  | nil => exact absurd hfirst hne
  | cons c cs =>
      have hc : c ≠ '?' := by
        rintro rfl
        exact absurd (hplain '?' (by simp [hfirst])) (by decide)
      rw [htrim, hfirst, List.cons_append]
      simp only
      split
      next heq => exact absurd (List.cons.inj heq).1 hc
      next => exact hread

end Heading

end DefIndex
