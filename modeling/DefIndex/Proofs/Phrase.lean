import DefIndex.Statement

/-!
# `DefIndex.Proofs.Phrase`: looking for a phrase among words

`Statement.afterPhrase?` tries a phrase at every character of a statement.
Where the statement is made of words with blanks between them, only the
beginnings of the words matter.

* `Spaces` are runs of spaces and tabs, `Plain` texts are made of ASCII
  letters, digits and underscores.
* `afterPhrase?_spaces` and `afterPhrase?_plain` pass over blanks and over
  a word.
* `skipPhrase?_plain`: a word of a phrase is found if it is the word of the
  statement, not if it is only the beginning of it.
-/

set_option autoImplicit false

namespace DefIndex

/-! ### Spaces and plain texts -/

/-- A run of spaces and tabs. -/
def Spaces (t : Text) : Prop := ∀ c ∈ t, c = ' ' ∨ c = '\t'

/-- A text of ASCII letters, digits and underscores. -/
def Plain (t : Text) : Prop := ∀ c ∈ t, c.isAlphanum = true ∨ c = '_'

instance (t : Text) : Decidable (Spaces t) :=
  decidable_of_iff (t.all fun c => c == ' ' || c == '\t') (by simp [Spaces])

instance (t : Text) : Decidable (Plain t) :=
  decidable_of_iff (t.all fun c => c.isAlphanum || c == '_') (by simp [Plain])

/-- Spaces and tabs are white space. -/
theorem Text.isBlank_of_space {c : Char} (h : c = ' ' ∨ c = '\t') : Text.isBlank c = true := by
  rcases h with rfl | rfl <;> decide

/-- Spaces and tabs belong to no word. -/
theorem Text.isWord_of_space {c : Char} (h : c = ' ' ∨ c = '\t') : Text.isWord c = false := by
  rcases h with rfl | rfl <;> decide +kernel

/-- Letters, digits and underscores belong to words. -/
theorem Text.isWord_of_plain {c : Char} (h : c.isAlphanum = true ∨ c = '_') :
    Text.isWord c = true := by
  rcases h with h | rfl
  · simp [Text.isWord, h]
  · simp [Text.isWord]

/-- The code points of letters, digits and underscores. -/
theorem toNat_of_plain {c : Char} (h : c.isAlphanum = true ∨ c = '_') :
    (48 ≤ c.toNat ∧ c.toNat ≤ 57) ∨ (65 ≤ c.toNat ∧ c.toNat ≤ 90) ∨
      (97 ≤ c.toNat ∧ c.toNat ≤ 122) ∨ c.toNat = 95 := by
  rcases h with h | rfl
  · have hclass : ((decide (65 ≤ c.val ∧ c.val ≤ 90)
          || (decide (97 ≤ c.val) && decide (c.val ≤ 122)))
        || (decide (48 ≤ c.val) && decide (c.val ≤ 57))) = true := h
    simp only [Bool.or_eq_true, Bool.and_eq_true, decide_eq_true_eq,
      UInt32.le_iff_toNat_le] at hclass
    change ((65 ≤ c.toNat ∧ c.toNat ≤ 90) ∨ (97 ≤ c.toNat ∧ c.toNat ≤ 122)) ∨
      (48 ≤ c.toNat ∧ c.toNat ≤ 57) at hclass
    omega
  · decide

/-- Letters, digits and underscores are no white space. -/
theorem Text.isBlank_of_plain {c : Char} (h : c.isAlphanum = true ∨ c = '_') :
    Text.isBlank c = false := by
  have hcode := toNat_of_plain h
  rw [Bool.eq_false_iff, Text.isBlank, Ne, Text.inRanges_eq_true_iff]
  rintro ⟨r, hr, hlow, hhigh⟩
  simp only [Text.blankRanges, List.mem_cons, List.not_mem_nil, or_false] at hr
  rcases hr with rfl | rfl | rfl | rfl | rfl | rfl | rfl | rfl | rfl | rfl <;>
    simp only at hlow hhigh <;> omega

/-- A text that ends or goes on with white space. -/
def Breaks (t : Text) : Prop := ∀ c ∈ t.head?, Text.isBlank c = true

/-- Spaces with nothing behind them break a word. -/
theorem Spaces.breaks {t : Text} (h : Spaces t) : Breaks t := by
  intro c hc
  exact Text.isBlank_of_space (h c (List.mem_of_mem_head? hc))

/-- Spaces, at least one of them, break a word. -/
theorem Spaces.breaks_append {t : Text} (h : Spaces t) (hne : t ≠ []) (rest : Text) :
    Breaks (t ++ rest) := by
  cases t with
  | nil => exact absurd rfl hne
  | cons c cs =>
      intro b hb
      obtain rfl : c = b := by simpa using hb
      exact Text.isBlank_of_space (h c List.mem_cons_self)

/-- Leading spaces are skipped. -/
theorem Spaces.dropWhile_append {t : Text} (h : Spaces t) (rest : Text) :
    (t ++ rest).dropWhile Text.isBlank = rest.dropWhile Text.isBlank := by
  induction t with
  | nil => rfl
  | cons c cs ih =>
      obtain ⟨hc, hcs⟩ := List.forall_mem_cons.1 h
      rw [List.cons_append, List.dropWhile_cons_of_pos (Text.isBlank_of_space hc), ih hcs]

/-- A plain text that is not empty starts with no white space. -/
theorem Plain.dropWhile_append {t : Text} (h : Plain t) (hne : t ≠ []) (rest : Text) :
    (t ++ rest).dropWhile Text.isBlank = t ++ rest := by
  cases t with
  | nil => exact absurd rfl hne
  | cons c cs =>
      have hc := Text.isBlank_of_plain (h c List.mem_cons_self)
      rw [List.cons_append, List.dropWhile_cons_of_neg (by simp [hc])]

namespace Statement

/-! ### One word of a phrase -/

/-- A gap in front of a word is skipped. -/
theorem skipBlanks?_spaces {gap : Text} (hgap : Spaces gap) (hne : gap ≠ []) (rest : Text) :
    skipBlanks? (gap ++ rest) = some (rest.dropWhile Text.isBlank) := by
  cases gap with
  | nil => exact absurd rfl hne
  | cons c cs =>
      obtain ⟨hc, hcs⟩ := List.forall_mem_cons.1 hgap
      rw [List.cons_append, skipBlanks?, if_pos (Text.isBlank_of_space hc),
        Spaces.dropWhile_append hcs]

/-- Nothing but spaces is skipped to the end, or is nothing to skip. -/
theorem skipBlanks?_of_spaces {t : Text} (h : Spaces t) :
    skipBlanks? t = none ∨ skipBlanks? t = some [] := by
  cases t with
  | nil => exact Or.inl rfl
  | cons c cs =>
      have hskip := skipBlanks?_spaces h (List.cons_ne_nil c cs) []
      rw [List.append_nil] at hskip
      exact Or.inr hskip

/-- A word of a phrase is found where it is the whole word of the text. -/
theorem skipPhrase?_plain {word u rest : Text} (hword : Plain word) (hu : Plain u)
    (hrest : Breaks rest) (words : List Text) :
    skipPhrase? (word :: words) (u ++ rest)
      = if word = u then (skipBlanks? rest).bind (skipPhrase? words) else none := by
  rw [skipPhrase?]
  by_cases hsame : word = u
  · subst hsame
    rw [if_pos rfl, Text.dropStart?_eq_some_iff.2 rfl, Option.bind_some]
  rw [if_neg hsame]
  cases hdrop : Text.dropStart? word (u ++ rest) with
  | none => rfl
  | some tail =>
      rw [Text.dropStart?_eq_some_iff, List.append_eq_append_iff] at hdrop
      -- The longer of the two words goes on where the other one has ended.
      rcases hdrop with ⟨more, hmore, hrest'⟩ | ⟨more, hmore, htail⟩
      · cases more with
        | nil => exact absurd (by simpa using hmore) hsame
        | cons c cs =>
            have hblank : Text.isBlank c = true := hrest c (by simp [hrest'])
            have hplain := Text.isBlank_of_plain (hword c (by simp [hmore]))
            rw [hplain] at hblank
            exact Bool.noConfusion hblank
      · cases more with
        | nil => exact absurd (by simpa using hmore.symm) hsame
        | cons c cs =>
            have hplain := Text.isBlank_of_plain (hu c (by simp [hmore]))
            rw [htail, Option.bind_some, List.cons_append, skipBlanks?, if_neg (by simp [hplain])]
            rfl

/-! ### Going through a statement -/

section Search

variable {word : Text} (hword : Plain word) (hne : word ≠ []) (words : List Text)

include hword hne

/-- No phrase starts inside a run of spaces, and a word may start behind
it. -/
theorem afterPhrase?_spaces {gap : Text} (hgap : Spaces gap) {inWord : Bool}
    (hstart : gap ≠ [] ∨ inWord = false) (rest : Text) :
    afterPhrase? (word :: words) inWord (gap ++ rest)
      = afterPhrase? (word :: words) false rest := by
  induction gap generalizing inWord with
  | nil => rw [hstart.resolve_left (· rfl), List.nil_append]
  | cons c cs ih =>
      obtain ⟨hc, hcs⟩ := List.forall_mem_cons.1 hgap
      -- At a space the word of the statement is empty, that of the phrase
      -- is not.
      have hnone : skipPhrase? (word :: words) (c :: (cs ++ rest)) = none := by
        have hbreaks : Breaks (c :: (cs ++ rest)) := by
          intro b hb
          obtain rfl : c = b := by simpa using hb
          exact Text.isBlank_of_space hc
        have hskip := skipPhrase?_plain hword (u := []) (by simp [Plain]) hbreaks words
        rwa [if_neg hne, List.nil_append] at hskip
      rw [List.cons_append, afterPhrase?, hnone, Text.isWord_of_space hc]
      simp only [ite_self]
      exact ih hcs (Or.inr rfl)

omit hword hne in
/-- No phrase starts inside a word. -/
theorem afterPhrase?_inWord {u : Text} (hu : Plain u) (rest : Text) :
    afterPhrase? words true (u ++ rest) = afterPhrase? words true rest := by
  induction u with
  | nil => rfl
  | cons c cs ih =>
      obtain ⟨hc, hcs⟩ := List.forall_mem_cons.1 hu
      rw [List.cons_append, afterPhrase?, Text.isWord_of_plain hc]
      simpa using ih hcs

omit hne in
/-- A phrase starts with a word of the statement or comes later. -/
theorem afterPhrase?_plain {u rest : Text} (hu : Plain u) (hune : u ≠ []) (hrest : Breaks rest) :
    afterPhrase? (word :: words) false (u ++ rest)
      = (if word = u then (skipBlanks? rest).bind (skipPhrase? words) else none).or
          (afterPhrase? (word :: words) true rest) := by
  rw [← skipPhrase?_plain hword hu hrest words]
  cases u with
  | nil => exact absurd rfl hune
  | cons c cs =>
      obtain ⟨hc, hcs⟩ := List.forall_mem_cons.1 hu
      rw [List.cons_append, afterPhrase?, Text.isWord_of_plain hc,
        afterPhrase?_inWord (word :: words) hcs]
      cases skipPhrase? (word :: words) (c :: (cs ++ rest)) <;> rfl

end Search

end Statement

end DefIndex
