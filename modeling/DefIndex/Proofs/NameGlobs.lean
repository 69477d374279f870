import Mathlib.Data.List.Basic
import DefIndex.Proofs.Walkers

/-!
# `DefIndex.Proofs.NameGlobs`: a glob that is a name

Globs are matched on the bytes of a path, and the override of a folder is a line
of text like that of any ignore file. For a name without characters that a glob
gives a meaning to, both come down to comparing names.

* `Text.separator_notMem_utf8`: only a separator has the byte of a separator. So
  the bytes of a path end with those of its last name
  (`IgnoreWalk.bytesOf_concat`).
* `Glob.fits_anywhere_iff` is the match of a name at any depth.
* `Ignore.exists_rule?_exclusion` is the rule `!name/`: it applies to the folders
  of that name and to nothing else. Where all rules are of this kind,
  `Ignore.judge_of_takesBack` is what they say together.
-/

set_option autoImplicit false

namespace DefIndex

namespace Text

/-! ### Bytes of names -/

/-- A text that is not empty has bytes. -/
theorem utf8_ne_nil {t : Text} (h : t ≠ []) : utf8 t ≠ [] := fun hnil => h (utf8_inj.1 hnil)

/-- Only one character has the byte of a separator. -/
theorem eq_of_separator_mem {c : Char} (h : Glob.separator ∈ String.utf8EncodeChar c) :
    c = '/' := by
  have hnumber {n : Nat} (hn : Glob.separator = UInt8.ofNat n) : n % 256 = 47 := by
    have hbyte := congrArg UInt8.toNat hn
    rw [UInt8.toNat_ofNat'] at hbyte
    exact hbyte.symm
  rw [String.utf8EncodeChar] at h
  split at h
  next hascii =>
    -- A single byte is the number of the character.
    have hmod := hnumber (List.mem_singleton.1 h)
    rw [Nat.mod_eq_of_lt (by omega)] at hmod
    exact Char.toNat_inj.1 hmod
  next =>
    -- Every one of several bytes is at least 128.
    exfalso
    split at h
    · simp only [List.mem_cons, List.not_mem_nil, or_false] at h
      rcases h with h | h <;> have hmod := hnumber h <;> omega
    split at h
    · simp only [List.mem_cons, List.not_mem_nil, or_false] at h
      rcases h with h | h | h <;> have hmod := hnumber h <;> omega
    · simp only [List.mem_cons, List.not_mem_nil, or_false] at h
      rcases h with h | h | h | h <;> have hmod := hnumber h <;> omega

/-- A text without separators has no byte of one. -/
theorem separator_notMem_utf8 {t : Text} (h : '/' ∉ t) : Glob.separator ∉ utf8 t := by
  rw [utf8, List.mem_flatMap]
  rintro ⟨c, hc, hbyte⟩
  exact h (eq_of_separator_mem hbyte ▸ hc)

end Text

/-- No name has the byte of a separator. -/
theorem Segment.ProperName.separator_notMem {s : Segment} (h : s.ProperName) :
    Glob.separator ∉ s.bytes := by
  cases s with
  | here => cases h
  | up => cases h
  | name t => exact Text.separator_notMem_utf8 h.2.1
  | raw bytes => exact h.2.1

/-- Every name has bytes. -/
theorem Segment.ProperName.bytes_ne_nil {s : Segment} (h : s.ProperName) : s.bytes ≠ [] := by
  cases s with
  | here => cases h
  | up => cases h
  | name t => exact Text.utf8_ne_nil h.1
  | raw bytes => exact h.1

/-- The bytes of a path are those of its last name, and in front of them nothing
or what ends in a separator. -/
theorem IgnoreWalk.bytesOf_concat (front : List Segment) (last : Segment) :
    bytesOf (front ++ [last]) = last.bytes ∨
      ∃ lead, bytesOf (front ++ [last]) = lead ++ Glob.separator :: last.bytes := by
  induction front with
  | nil => exact .inl (by simp [bytesOf])
  | cons name front ih =>
      have hcons : bytesOf (name :: front ++ [last])
          = name.bytes ++ Glob.separator :: bytesOf (front ++ [last]) := by
        cases front <;> simp [bytesOf, List.intercalate]
      right
      rcases ih with h | ⟨lead, h⟩
      · exact ⟨name.bytes, by rw [hcons, h]⟩
      · exact ⟨name.bytes ++ Glob.separator :: lead, by rw [hcons, h, List.append_assoc]; rfl⟩

namespace Glob

/-! ### Matching -/

/-- Bytes fit nothing but themselves. -/
theorem fitsParts_bytes {bytes path : List UInt8} :
    fitsParts (bytes.map .byte) path = true ↔ path = bytes := by
  induction bytes generalizing path with
  | nil => simp [fitsParts]
  | cons b bs ih => cases path <;> simp [fitsParts, ih]

/-- What may remain behind folders stands behind a separator. -/
theorem mem_slashRests_iff {rest path : List UInt8} :
    rest ∈ slashRests path ↔ ∃ front, path = front ++ separator :: rest := by
  induction path with
  | nil => simp [slashRests]
  | cons b bs ih =>
      have hsplit : (∃ front, b :: bs = front ++ separator :: rest) ↔
          (b = separator ∧ bs = rest) ∨ ∃ front, bs = front ++ separator :: rest := by
        constructor
        · rintro ⟨_ | ⟨c, front⟩, h⟩
          · exact .inl (List.cons.inj h)
          · exact .inr ⟨front, (List.cons.inj h).2⟩
        · rintro (⟨rfl, rfl⟩ | ⟨front, rfl⟩)
          · exact ⟨[], rfl⟩
          · exact ⟨b :: front, rfl⟩
      rw [hsplit, slashRests]
      split
      next hb => simp [hb, ih, eq_comm]
      next hb => simp [hb, ih]

/-- There is one last separator. -/
theorem eq_of_last_separator {lead lead' rest rest' : List UInt8} (hrest : separator ∉ rest)
    (hrest' : separator ∉ rest') (h : lead ++ separator :: rest = lead' ++ separator :: rest') :
    rest = rest' := by
  rcases List.append_eq_append_iff.1 h with ⟨more, -, h⟩ | ⟨more, -, h⟩
  · cases more with
    | nil => exact (List.cons.inj h).2
    | cons b more =>
        rw [(List.cons.inj h).2] at hrest
        exact absurd (List.mem_append_right _ List.mem_cons_self) hrest
  · cases more with
    | nil => exact (List.cons.inj h).2.symm
    | cons b more =>
        rw [(List.cons.inj h).2] at hrest'
        exact absurd (List.mem_append_right _ List.mem_cons_self) hrest'

/-- The glob of a name at any depth. -/
def anywhere (name : Text) : Glob := ⟨[.folders :: (Text.utf8 name).map .byte]⟩

/-- It fits the paths that end with this name. -/
theorem fits_anywhere_iff {name : Text} (hname : '/' ∉ name) (front : List Segment)
    {last : Segment} (hlast : last.ProperName) :
    (anywhere name).fits (IgnoreWalk.bytesOf (front ++ [last])) = true ↔ last = .name name := by
  have hname' := Text.separator_notMem_utf8 hname
  have hlast' := hlast.separator_notMem
  simp only [anywhere, fits, List.any_cons, List.any_nil, Bool.or_false, fitsParts,
    Bool.or_eq_true, List.any_eq_true, fitsParts_bytes, mem_slashRests_iff,
    ← hlast.bytes_eq_utf8_iff]
  rcases IgnoreWalk.bytesOf_concat front last with hbytes | ⟨lead, hbytes⟩
  · rw [hbytes]
    constructor
    · rintro (h | ⟨_, ⟨start, h⟩, rfl⟩)
      · exact h
      · exact absurd (h ▸ List.mem_append_right _ List.mem_cons_self) hlast'
    · exact .inl
  · rw [hbytes]
    constructor
    · rintro (h | ⟨_, ⟨start, h⟩, rfl⟩)
      · exact absurd (h ▸ List.mem_append_right _ List.mem_cons_self) hname'
      · exact eq_of_last_separator hlast' hname' h
    · intro h
      exact .inr ⟨_, ⟨lead, rfl⟩, h⟩

/-! ### Reading -/

/-- The parts that are read for bytes. -/
theorem spellings_foldl_push (bytes : List UInt8) (b : Branch) :
    (bytes.foldl (fun b byte => b.push (.byte byte)) b).spellings
      = b.spellings.map fun lead => (bytes.map GlobPart.byte).reverse ++ lead := by
  induction bytes generalizing b with
  | nil => simp
  | cons byte bytes ih =>
      rw [List.foldl_cons, ih]
      simp [Branch.push]

/-- A name stands for its bytes. -/
theorem read?_plain {name : Text} (hplain : PlainName name) (lenient : Bool) {budget : Nat}
    (hbudget : name.length < budget) {d : Draft} (houter : d.outer = []) :
    read? lenient budget d name
      = some (d.branch.spellings.map fun lead =>
          lead.reverse ++ (Text.utf8 name).map GlobPart.byte) := by
  induction name generalizing budget d with
  | nil =>
      obtain ⟨budget, rfl⟩ := Nat.exists_eq_succ_of_ne_zero (Nat.ne_of_gt hbudget)
      simp [read?, houter, Text.utf8]
  | cons c cs ih =>
      obtain ⟨budget, rfl⟩ := Nat.exists_eq_succ_of_ne_zero (Nat.ne_zero_of_lt hbudget)
      obtain ⟨hc, hcs⟩ := List.forall_mem_cons.1 hplain
      simp only [List.mem_cons, List.not_mem_nil, or_false, not_or] at hc
      have hstep : read? lenient (budget + 1) d (c :: cs)
          = read? lenient budget (d.after c (d.branch.pushChar c)) cs := by
        rw [read?.eq_def]
        simp only
        split <;> simp_all
      have hrest : (d.after c (d.branch.pushChar c)).outer = [] := houter
      rw [Nat.succ_eq_add_one, hstep, ih hcs (by simpa using hbudget) hrest, Draft.after,
        Branch.pushChar, spellings_foldl_push]
      simp [Text.utf8]

/-- A name with folders in front is the glob of the name at any depth. -/
theorem parse?_anywhere {name : Text} (hplain : PlainName name) (hne : name ≠ [])
    (lenient : Bool) :
    parse? lenient ("**/".toList ++ name) = some (anywhere name) := by
  have hread : read? lenient (("**/".toList ++ name).length + 1) .start ("**/".toList ++ name)
      = some [.folders :: (Text.utf8 name).map .byte] :=
    -- The two stars with the separator are read in one step.
    read?_plain hplain lenient (by omega : name.length < name.length + 3)
      (d := Draft.start.after '/' (Branch.fresh.push .folders)) rfl
  rw [parse?, hread, Option.map_some, if_neg, anywhere]
  rintro ⟨hfolders, -⟩
  simp [Text.utf8_ne_nil hne] at hfolders

end Glob

namespace Ignore

/-- A text that ends with another character does not end so. -/
theorem dropEnd?_eq_none {needle t : Text} (hne : needle ≠ [])
    (h : t.getLast? ≠ needle.getLast?) : Text.dropEnd? needle t = none := by
  rw [Option.eq_none_iff_forall_ne_some]
  intro lead hlead
  rw [Text.dropEnd?_eq_some_iff.1 hlead, List.getLast?_append_of_ne_nil _ hne] at h
  exact h rfl

/-- What the rule is read as. -/
theorem rule?_exclusion {name : Text} (hplain : Glob.PlainName name) (hne : name ≠ []) :
    rule? false (Discovery.exclusion name) = some ⟨true, true, Glob.anywhere name⟩ := by
  have hlast {c : Char} (hc : c ∈ ['/', '*', '?', '[', '{', '}', '\\']) :
      name.getLast? ≠ some c := fun heq => hplain c (List.mem_of_getLast? heq) hc
  have hslash : '/' ∉ name := fun hmem => hplain '/' hmem (by decide)
  have hstar : '*' ∉ name := fun hmem => hplain '*' hmem (by decide)
  -- White space at the end of the line would not count, but there is none.
  have hescaped : Text.dropEnd? "\\ ".toList (Discovery.exclusion name) = none := by
    have hend : (Discovery.exclusion name).getLast? = some '/' := List.getLast?_concat
    exact dropEnd?_eq_none (by decide) (by rw [hend]; decide)
  have htrim : Text.trimEnd (Discovery.exclusion name) = Discovery.exclusion name := by
    have hblank : Text.isBlank '/' = false := by decide
    simp [Text.trimEnd, Text.dropEndWhile, Discovery.exclusion, hblank]
  -- The separator at its end makes it a rule for folders.
  have hfolder : Text.dropEnd? ['/'] (name ++ ['/']) = some name := Text.dropEnd?_eq_some_iff.2 rfl
  have hback : Text.dropEnd? ['\\'] name = none :=
    dropEnd?_eq_none (List.cons_ne_nil _ _) (hlast (by decide))
  -- The name gets folders in front, and nothing behind.
  have hdeep : Text.dropStart? ['*', '*', '/'] name = none := by
    rw [Option.eq_none_iff_forall_ne_some]
    intro rest hrest
    rw [Text.dropStart?_eq_some_iff.1 hrest] at hstar
    exact hstar List.mem_cons_self
  have hbelow : Text.dropEnd? ['/', '*', '*'] ('*' :: '*' :: '/' :: name) = none := by
    refine dropEnd?_eq_none (by decide) ?_
    rw [← List.nil_append ('*' :: '*' :: '/' :: name), List.append_cons, List.append_cons,
      List.append_cons, List.getLast?_append_of_ne_nil _ hne]
    exact hlast (by decide)
  have hparse : Glob.parse? false ('*' :: '*' :: '/' :: name) = some (Glob.anywhere name) :=
    Glob.parse?_anywhere hplain hne false
  rw [rule?]
  simp only [hescaped, htrim, Option.isSome_none, Bool.false_eq_true, if_false]
  cases name with
  | nil => exact absurd rfl hne
  | cons c cs =>
      rw [List.cons_append] at hfolder
      rw [List.mem_cons, not_or] at hslash hstar
      simp [Discovery.exclusion, Ne.symm hslash.1, Ne.symm hstar.1, hfolder, hback, hslash, hdeep,
        hbelow, hparse]

/-- Whether a rule applies to the entry of a path relative to its folder. -/
def applies (r : IgnoreRule) (isFolder : Bool) (relative : List UInt8) : Bool :=
  (isFolder || !r.foldersOnly) && r.glob.fits relative

/-- A rule that takes back the folders of a name, at any depth, and nothing
else. -/
structure TakesBackFolders (r : IgnoreRule) (name : Text) : Prop where
  takesBack : r.takesBack = true
  applies_iff : ∀ (isFolder : Bool) (front : List Segment) (last : Segment), last.ProperName →
    (applies r isFolder (IgnoreWalk.bytesOf (front ++ [last])) = true ↔
      isFolder = true ∧ last = .name name)

/-- The rule that is read takes back the folders of the name. -/
theorem exists_rule?_exclusion {name : Text} (hplain : Glob.PlainName name) :
    ∃ r, rule? false (Discovery.exclusion name) = some r ∧ TakesBackFolders r name := by
  by_cases hne : name = []
  · subst hne
    refine ⟨⟨true, false, ⟨[[]]⟩⟩, by decide +kernel, rfl, ?_⟩
    intro isFolder front last hlast
    -- The rule fits nothing but the empty path, and no entry has the empty name.
    have hbytes : IgnoreWalk.bytesOf (front ++ [last]) ≠ [] := by
      rcases IgnoreWalk.bytesOf_concat front last with hbytes | ⟨lead, hbytes⟩
      · rw [hbytes]
        exact hlast.bytes_ne_nil
      · simp [hbytes]
    have hname : last ≠ .name [] := by
      rintro rfl
      exact hlast.1 rfl
    simp [applies, Glob.fits, Glob.fitsParts, hbytes, hname]
  · refine ⟨_, rule?_exclusion hplain hne, rfl, ?_⟩
    intro isFolder front last hlast
    have hname : '/' ∉ name := fun hmem => hplain '/' hmem (by decide)
    simp [applies, Glob.fits_anywhere_iff hname front hlast]

/-- Rules that take entries back in keep what one of them applies to, and say
nothing about the rest. -/
theorem judge_of_takesBack {rules : List IgnoreRule} (hback : ∀ r ∈ rules, r.takesBack = true)
    (isFolder : Bool) (relative : List UInt8) :
    judge rules isFolder relative
      = if ∃ r ∈ rules, applies r isFolder relative = true then .kept else .silent := by
  have happly : (fun r : IgnoreRule => (isFolder || !r.foldersOnly) && r.glob.fits relative)
      = fun r => applies r isFolder relative := rfl
  rw [judge, happly]
  cases hfind : rules.reverse.find? fun r => applies r isFolder relative with
  | none =>
      rw [List.find?_eq_none] at hfind
      rw [if_neg (by simpa using hfind)]
  | some r =>
      have hmem : r ∈ rules := List.mem_reverse.1 (List.mem_of_find?_eq_some hfind)
      have happlies : applies r isFolder relative = true := by simpa using List.find?_some hfind
      rw [if_pos ⟨r, hmem, happlies⟩]
      simp only [hback r hmem, if_true]

end Ignore

end DefIndex
