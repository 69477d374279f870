import DefIndex.Statement

/-!
# `DefIndex.Proofs.Token`: where a name stands in its statement

`Statement.read` gives a declared name as a token: its text and the
number of characters before it. The two are computed apart, the text from
what follows a phrase and the offset from lengths. This file proves that
they belong together.

* `Token.StandsIn` says it: the statement is some text, the token, and
  some more text, and the first part is as long as the offset.
* `Statement.namesStandIn_read` holds for the names of both forms of
  declarations. The names are not empty, and a form with a keyword may
  own a block.

Every reader below consumes text from the left, so what it leaves is an
end of what it got (`<:+`). A name is then the start (`<+:`) of such an
end, and `Token.standsIn_of_isPrefix` turns that into a place.
-/

set_option autoImplicit false

namespace DefIndex

/-- A token stands in a text when the text reads so at its offset. -/
def Token.StandsIn (token : Token) (text : Text) : Prop :=
  ∃ before after, text = before ++ token.text ++ after ∧ before.length = token.offset

/-- A token that stands in a text ends inside the text. -/
theorem Token.StandsIn.offset_add_length_le {token : Token} {text : Text}
    (h : token.StandsIn text) : token.offset + token.text.length ≤ text.length := by
  obtain ⟨before, after, rfl, hlen⟩ := h
  simp only [List.length_append]
  omega

/-- The start of the end of a text stands where that end begins. -/
theorem Token.standsIn_of_isPrefix {name rest text : Text}
    (hname : name <+: rest) (hrest : rest <:+ text) :
    (⟨name, text.length - rest.length⟩ : Token).StandsIn text := by
  obtain ⟨after, rfl⟩ := hname
  obtain ⟨before, rfl⟩ := hrest
  refine ⟨before, after, by simp, ?_⟩
  simp only [List.length_append]
  omega

/-- Dropping at the end leaves a start. -/
theorem Text.dropEndWhile_isPrefix (p : Char → Bool) (t : Text) : Text.dropEndWhile p t <+: t := by
  have h := List.dropWhile_suffix p (l := t.reverse)
  rwa [← List.reverse_prefix, List.reverse_reverse] at h

namespace Statement

/-! ### Readers leave an end of their text -/

/-- Skipping white space leaves an end of the text. -/
theorem skipBlanks?_suffix {t rest : Text} (h : skipBlanks? t = some rest) : rest <:+ t := by
  cases t with
  | nil => simp [skipBlanks?] at h
  | cons c cs =>
      simp only [skipBlanks?] at h
      split at h
      · cases h
        exact (List.dropWhile_suffix _).trans (List.suffix_cons c cs)
      · simp at h

/-- Skipping a phrase leaves an end of the text. -/
theorem skipPhrase?_suffix {words : List Text} {t rest : Text}
    (h : skipPhrase? words t = some rest) : rest <:+ t := by
  induction words generalizing t with
  | nil =>
      cases h
      exact List.suffix_refl _
  | cons word words ih =>
      simp only [skipPhrase?, Option.bind_eq_some_iff] at h
      obtain ⟨u, ⟨s, hs, hu⟩, hrest⟩ := h
      have hst : s <:+ t := ⟨word, (Text.dropStart?_eq_some_iff.1 hs).symm⟩
      exact (ih hrest).trans ((skipBlanks?_suffix hu).trans hst)

/-- What follows a phrase is an end of the text. -/
theorem afterPhrase?_suffix {words : List Text} {inWord : Bool} {t rest : Text}
    (h : afterPhrase? words inWord t = some rest) : rest <:+ t := by
  induction t generalizing inWord with
  | nil => simp [afterPhrase?] at h
  | cons c cs ih =>
      simp only [afterPhrase?] at h
      split at h
      next found =>
        cases h
        split at found
        · simp at found
        · exact skipPhrase?_suffix found
      next => exact (ih h).trans (List.suffix_cons c cs)

/-- What follows ` AS ` is an end of the text. -/
theorem alias?_suffix {rest t : Text} (h : alias? rest = some t) :
    t <:+ rest ∧ t.takeWhile Text.isWord ≠ [] := by
  simp only [alias?, Option.bind_eq_some_iff] at h
  obtain ⟨u, ⟨s, hs, hu⟩, ht⟩ := h
  split at ht
  · simp at ht
  next hword =>
    cases ht
    exact ⟨(skipPhrase?_suffix hu).trans (skipBlanks?_suffix hs), by simpa using hword⟩

/-! ### Names of declarations -/

/-- A declared name is the start of what follows its phrase. -/
theorem nameOf_isPrefix (rest : Text) : nameOf rest <+: rest :=
  (Text.dropEndWhile_isPrefix _ _).trans (List.takeWhile_prefix _)

/-- What `read` promises about the names it finds: they are not empty and
stand in the statement, and a form with a keyword may own a block. -/
def NamesStandIn (text : Text) : Statement → Prop
  | imports _ => True
  | inherits none => True
  | inherits (some (name, _)) => name.text ≠ [] ∧ name.StandsIn text
  | declares kind name => kind.opensScope = true ∧ name.text ≠ [] ∧ name.StandsIn text
  | other => True

/-- The name of a declaration by keyword. -/
theorem namesStandIn_readDeclaration (text : Text) {kinds : List Kind}
    (hkinds : ∀ k ∈ kinds, k.opensScope = true) :
    NamesStandIn text (readDeclaration text kinds) := by
  induction kinds with
  | nil => trivial
  | cons k kinds ih =>
      simp only [readDeclaration]
      split
      next rest found =>
        split
        · trivial
        next hne =>
          refine ⟨hkinds k List.mem_cons_self, by simpa using hne, ?_⟩
          exact Token.standsIn_of_isPrefix (nameOf_isPrefix rest) (afterPhrase?_suffix found)
      next => exact ih fun k' hk' => hkinds k' (List.mem_cons_of_mem _ hk')

/-- The name that an inherit statement declares, when the text after the
`?` is `body`. -/
theorem namesStandIn_readInherit {text body : Text} (hbody : body <:+ text) :
    NamesStandIn text (inherits (readInherit (text.length - body.length) body)) := by
  simp only [readInherit]
  split
  · trivial
  next hne =>
    split
    next t halias =>
      -- The alias follows the target in `body`, so its offset is a sum.
      obtain ⟨hsuffix, hword⟩ := alias?_suffix halias
      have hend : t <:+ body := hsuffix.trans (List.dropWhile_suffix _)
      have hoffset : text.length - body.length + (body.length - t.length)
          = text.length - t.length := by
        have h1 := hbody.length_le
        have h2 := hend.length_le
        omega
      rw [hoffset]
      exact ⟨hword, Token.standsIn_of_isPrefix (List.takeWhile_prefix _) (hend.trans hbody)⟩
    next =>
      have htarget : Text.dropEndWhile (· == '.') (body.takeWhile isDotted) <+: body :=
        (Text.dropEndWhile_isPrefix _ _).trans (List.takeWhile_prefix _)
      exact ⟨by simpa using hne, Token.standsIn_of_isPrefix htarget hbody⟩

/-- The names of a statement stand in it. -/
theorem namesStandIn_read (text : Text) : NamesStandIn text (read text) := by
  simp only [read]
  split
  · simp only [readImport]
    split <;> trivial
  · split
    -- What starts with a question mark inherits, all else may declare.
    next body htrim =>
      have hquery : '?' :: body <:+ text := by
        rw [← htrim]
        exact List.dropWhile_suffix _
      exact namesStandIn_readInherit ((List.suffix_cons _ _).trans hquery)
    · exact namesStandIn_readDeclaration text fun k hk => (Kind.mem_byKeyword_iff k).1 hk

end Statement

end DefIndex
