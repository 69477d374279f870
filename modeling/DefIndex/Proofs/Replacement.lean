import DefIndex.Proofs.Positions
import DefIndex.Proofs.References
import DefIndex.Session

/-!
# `DefIndex.Proofs.Replacement`: a term is replaced and nothing else changes

An editor replaces the characters of a term by another name. This file
proves what the index finds in the text afterwards: the new term in the
place of the old one, and all other terms as they were, those behind it on
its line moved along.

Three things could go wrong. The name could run into its neighbours, or end
too early: `Term.scan_around` looks at the characters around it. It could
open or close a comment: `Comment.blankOut_cut` shows that a line which is
cut around a term is cleaned piece by piece. And the editor could hit other
characters than the index means: that is `Document.change_open`.

* `Term.Site` is a source text that is cut around one of its terms, and
  `Term.exists_site` cuts it for any term.
* `Term.Replaced` says what a replacement leaves. `Term.Site.replaced`
  proves it for every name that fits, and `Term.Site.change_fill` that an
  editor carries the replacement out.
-/

set_option autoImplicit false

namespace DefIndex

/-! ### Characters of names -/

namespace Text

/-- Whether two tables have no code point in common. -/
def apart (rs ss : List CodeRange) : Bool :=
  rs.all fun r => ss.all fun s => Nat.blt s.2 r.1 || Nat.blt r.2 s.1

/-- A character of one table is not in another one that is apart from it. -/
theorem inRanges_of_apart {rs ss : List CodeRange} (h : apart rs ss = true) {c : Char}
    (hc : inRanges rs c = true) : inRanges ss c = false := by
  obtain ⟨r, hr, hlow, hhigh⟩ := inRanges_eq_true_iff.1 hc
  rw [Bool.eq_false_iff, Ne, inRanges_eq_true_iff]
  rintro ⟨s, hs, hlow', hhigh'⟩
  have hsides := List.all_eq_true.1 (List.all_eq_true.1 h r hr) s hs
  simp only [Bool.or_eq_true, Nat.blt_eq] at hsides
  omega

/-- The tables of what stands in names beyond ASCII. -/
def nameRanges : List CodeRange :=
  alphabeticRanges ++ decimalRanges ++ numberRanges ++ markRanges ++ connectorRanges
    ++ joinControlRanges

/-- ASCII, and the white space beyond. -/
def stopRanges : List CodeRange :=
  [(0x0, 0x7F), (0x85, 0x85), (0xA0, 0xA0), (0x1680, 0x1680), (0x2000, 0x200A), (0x2028, 0x2029),
   (0x202F, 0x202F), (0x205F, 0x205F), (0x3000, 0x3000)]

end Text

namespace Term

/-- What ends a term is in ASCII or white space. -/
theorem inRanges_of_ends {c : Char} (h : ends c = true) :
    Text.inRanges Text.stopRanges c = true := by
  rw [ends, Bool.or_eq_true, List.contains_iff_mem] at h
  rcases h with hblank | hmark
  · have hcovered : Text.blankRanges.all (fun r =>
        Text.stopRanges.any fun s => decide (s.1 ≤ r.1) && decide (r.2 ≤ s.2)) = true := by decide
    obtain ⟨r, hr, hlow, hhigh⟩ := Text.inRanges_eq_true_iff.1 hblank
    obtain ⟨s, hs, hinside⟩ := List.any_eq_true.1 (List.all_eq_true.1 hcovered r hr)
    simp only [Bool.and_eq_true, decide_eq_true_eq] at hinside
    exact Text.inRanges_eq_true_iff.2 ⟨s, hs, by omega, by omega⟩
  · have hmarks : ['(', ')', '{', '}', ',', ';', sigil].all (Text.inRanges Text.stopRanges)
        = true := by decide
    exact List.all_eq_true.1 hmarks c hmark

/-- What stands in names ends no term. -/
theorem ends_of_name {c : Char}
    (h : (c.isAlphanum = true ∨ c = '_') ∨ c = '.' ∨ Text.inRanges Text.nameRanges c = true) :
    ends c = false := by
  rcases h with hplain | rfl | htable
  · have hmarks : ['(', ')', '{', '}', ',', ';', sigil].all
        (fun c => !(c.isAlphanum || c == '_')) = true := by decide
    rw [ends, Text.isBlank_of_plain hplain, Bool.false_or, ← Bool.not_eq_true,
      List.contains_iff_mem]
    intro hmem
    have hmark := List.all_eq_true.1 hmarks c hmem
    rcases hplain with hplain | rfl
    · simp [hplain] at hmark
    · simp at hmark
  · decide
  · have hapart : Text.apart Text.nameRanges Text.stopRanges = true := by decide +kernel
    have hstop := Text.inRanges_of_apart hapart htable
    by_contra hends
    rw [Bool.not_eq_false] at hends
    rw [inRanges_of_ends hends] at hstop
    cases hstop

/-- White space ends a term. -/
theorem isBlank_of_ends {c : Char} (h : ends c = false) : Text.isBlank c = false := by
  rw [ends, Bool.or_eq_false_iff] at h
  exact h.1

end Term

namespace Word

/-- No character that belongs to a word ends a term. -/
theorem ends_of_isPart {c : Char} (h : isPart c = true) : Term.ends c = false := by
  refine Term.ends_of_name ?_
  simp only [isPart, Text.isAlphanumeric, Bool.or_eq_true, beq_iff_eq] at h
  simp only [Text.nameRanges, Text.inRanges, List.any_append, Bool.or_eq_true] at h ⊢
  tauto

/-- No white space belongs to a word. -/
theorem isBlank_of_isPart {c : Char} (h : isPart c = true) : Text.isBlank c = false :=
  Term.isBlank_of_ends (ends_of_isPart h)

/-- A slash belongs to no word. -/
theorem isPart_slash : isPart '/' = false := by decide +kernel

/-- No slash belongs to a word. -/
theorem slash_notMem {t : Text} (h : ∀ c ∈ t, isPart c = true) : '/' ∉ t := by
  intro hmem
  have hpart := h '/' hmem
  rw [isPart_slash] at hpart
  cases hpart

end Word

/-! ### The terms around a term -/

namespace Term

/-- A character that does not end a term is no line end and no blank. -/
theorem solid_of_ends {c : Char} (h : ends c = false) : c ≠ '\n' ∧ c ≠ '\r' ∧ c ≠ ' ' := by
  refine ⟨?_, ?_, ?_⟩ <;> rintro rfl <;> exact absurd h (by decide)

/-- A scan that starts later finds the same terms in later columns. -/
theorem scan_add (n d : Nat) (t : Text) :
    scan (n + d) t = (scan n t).map fun found => (found.1 + d, found.2) := by
  induction t generalizing n with
  | nil => rfl
  | cons c cs ih =>
      have hnext := ih (n + 1)
      rw [show n + 1 + d = n + d + 1 by omega] at hnext
      rw [scan, scan, hnext]
      split
      · rw [List.map_cons]
        congr 2
        omega
      · rfl

/-- A run stops in front of a mark. -/
theorem run_append_sigil (front rest : Text) : run (front ++ sigil :: rest) = run front := by
  induction front with
  | nil => rfl
  | cons c front ih =>
      simp only [run] at ih
      rw [run, List.cons_append, List.takeWhile_cons, ih, run, List.takeWhile_cons]

/-- A scan goes on at a mark as it would start there. -/
theorem scan_append_sigil (n : Nat) (front rest : Text) :
    scan n (front ++ sigil :: rest) = scan n front ++ scan (n + front.length) (sigil :: rest) := by
  induction front generalizing n with
  | nil => rfl
  | cons c front ih =>
      have hcolumn : n + (c :: front).length = n + 1 + front.length := by
        rw [List.length_cons]
        omega
      have hstep (rest : Text) : scan n (c :: rest)
          = if c = sigil ∧ run rest ≠ [] then (n + 1, run rest) :: scan (n + 1) rest
            else scan (n + 1) rest := rfl
      -- A term that starts here is the same one: it ends at the mark at the latest.
      rw [List.cons_append, hcolumn, hstep, hstep, run_append_sigil, ih]
      split <;> rfl

/-- A scan passes over characters that end no term. -/
theorem scan_append (n : Nat) {t : Text} (ht : ∀ c ∈ t, ends c = false) (rest : Text) :
    scan n (t ++ rest) = scan (n + t.length) rest := by
  induction t generalizing n with
  | nil => rfl
  | cons c cs ih =>
      obtain ⟨hc, hcs⟩ := List.forall_mem_cons.1 ht
      have hne : c ≠ sigil := by
        rintro rfl
        exact absurd hc (by decide)
      rw [List.cons_append, scan, if_neg (by simp [hne]), ih (n + 1) hcs, List.length_cons,
        show n + 1 + cs.length = n + (cs.length + 1) by omega]

/-- A mark, the term behind it, and the terms behind that. -/
theorem scan_sigil (n : Nat) {t : Text} (hne : t ≠ []) (ht : ∀ c ∈ t, ends c = false)
    {rest : Text} (hrest : ∀ c ∈ rest.head?, ends c = true) :
    scan n (sigil :: (t ++ rest)) = (n + 1, t) :: scan (n + 1 + t.length) rest := by
  have hrun : run (t ++ rest) = t := run_eq_iff.2 ⟨ht, rest, rfl, hrest⟩
  rw [scan, hrun, if_pos ⟨rfl, hne⟩, scan_append (n + 1) ht]

/-- The terms of a line that is cut around one of them. -/
theorem scan_around {front rest t : Text} (hne : t ≠ []) (ht : ∀ c ∈ t, ends c = false)
    (hrest : ∀ c ∈ rest.head?, ends c = true) :
    scan 1 (front ++ sigil :: (t ++ rest))
      = scan 1 front ++ (front.length + 2, t) :: scan (front.length + 2 + t.length) rest := by
  rw [scan_append_sigil, scan_sigil _ hne ht hrest, show 1 + front.length + 1 = front.length + 2 by
    omega]

end Term

/-! ### The comments around a term -/

namespace Comment

/-- What comes in front of something is put in front of it in two steps. -/
theorem lead_append (cs ds : Text) (rest : Text × CommentState) :
    lead (cs ++ ds) rest = lead cs (lead ds rest) := by
  simp [lead]

/-- A character that opens no comment is shown. -/
theorem blankOut_code_cons {c : Char} {cs : Text} (noLine : ¬ ['/', '/'] <+: c :: cs)
    (noBlock : ¬ ['/', '*'] <+: c :: cs) :
    blankOut .code (c :: cs) = lead [c] (blankOut .code cs) := by
  rw [blankOut]
  · rintro rest rfl rfl
    exact noLine ⟨rest, rfl⟩
  · rintro rest rfl rfl
    exact noBlock ⟨rest, rfl⟩

/-- A text can be cut in front of a mark of a reference: no comment begins
or ends with one. -/
theorem blankOut_append (state : CommentState) (front rest : Text) :
    blankOut state (front ++ sigil :: rest)
      = lead (blankOut state front).1 (blankOut (blankOut state front).2 (sigil :: rest)) := by
  -- The next character after `cs` is the mark, if there is none in `cs`.
  have hnext {c : Char} (hc : c ≠ sigil) {cs tail : Text}
      (h : cs ++ sigil :: rest = c :: tail) : ∃ more, cs = c :: more := by
    cases cs with
    | nil => exact absurd (List.cons.inj h).1.symm hc
    | cons d more => exact ⟨more, by rw [(List.cons.inj h).1]⟩
  fun_induction blankOut state front with
  | case1 state => simp [lead]
  | case2 cs ih => simp_all [blankOut, lead]
  | case3 cs ih => simp_all [blankOut, lead]
  | case4 c cs hline hblock ih =>
      rw [List.cons_append, blankOut, ih]
      · rfl
      · intro tail hc htail
        obtain ⟨more, hmore⟩ := hnext (by decide) htail
        exact hline more hc hmore
      · intro tail hc htail
        obtain ⟨more, hmore⟩ := hnext (by decide) htail
        exact hblock more hc hmore
  | case5 cs ih => simp_all [blankOut, lead]
  | case6 c cs hends ih =>
      rw [List.cons_append, blankOut, ih]
      · rfl
      · intro tail hc htail
        obtain ⟨more, hmore⟩ := hnext (by decide) htail
        exact hends more hc hmore
  | case7 c cs ih => simp_all [blankOut, lead]

/-- A clean line shows each character of its line, or a blank for it. -/
theorem forall₂_blankOut (state : CommentState) (t : Text) :
    List.Forall₂ (fun c shown => shown = c ∨ shown = ' ') t (blankOut state t).1 := by
  fun_induction blankOut state t <;> simp_all [lead]

/-- Where it shows no blanks it shows the line. -/
theorem eq_of_forall₂_shown {t shown : Text} (hblank : ' ' ∉ shown)
    (h : List.Forall₂ (fun c shown => shown = c ∨ shown = ' ') t shown) : t = shown := by
  induction h with
  | nil => rfl
  | cons hc _ ih =>
      obtain ⟨hne, hrest⟩ := not_or.1 (List.mem_cons.not.1 hblank)
      rw [ih hrest, hc.resolve_right (Ne.symm hne)]

/-- What is shown as a whole and has no blank holds no comment. -/
theorem blankOut_code_of_isPrefix {t rest : Text} (hblank : ' ' ∉ t)
    (h : t <+: (blankOut .code (t ++ rest)).1) :
    blankOut .code (t ++ rest) = lead t (blankOut .code rest) := by
  induction t with
  | nil => rfl
  | cons c cs ih =>
      obtain ⟨hc, hcs⟩ := not_or.1 (List.mem_cons.not.1 hblank)
      rw [List.cons_append] at h ⊢
      -- A comment would show a blank for the first character.
      have noComment {second : Char} {state : CommentState}
          (hopens : ∀ tail, blankOut .code ('/' :: second :: tail)
            = lead [' ', ' '] (blankOut state tail)) :
          ¬ ['/', second] <+: c :: (cs ++ rest) := by
        rintro ⟨tail, htail⟩
        rw [← htail] at h
        rw [List.cons_append, List.singleton_append, hopens, lead] at h
        exact hc (List.cons_prefix_cons.1 h).1.symm
      have hstep := blankOut_code_cons (noComment fun tail => by rw [blankOut])
        (noComment fun tail => by rw [blankOut])
      rw [hstep] at h ⊢
      rw [ih hcs (List.cons_prefix_cons.1 h).2, ← lead_append, List.singleton_append]

/-- A mark is shown outside of comments only. -/
theorem eq_code_of_head? {state : CommentState} {rest : Text}
    (h : (blankOut state (sigil :: rest)).1.head? = some sigil) : state = .code := by
  cases state with
  | code => rfl
  | line =>
      rw [blankOut] at h
      exact absurd (Option.some.inj h) (by decide)
  | block =>
      rw [blankOut] at h
      · exact absurd (Option.some.inj h) (by decide)
      · intro tail hstar
        exact absurd hstar (by decide)

/-- A line is cut where its clean line is cut around a name behind a mark. -/
theorem exists_cut {state : CommentState} {l before t after : Text} (hblank : ' ' ∉ t)
    (h : (blankOut state l).1 = before ++ sigil :: (t ++ after)) :
    ∃ front back, l = front ++ sigil :: (t ++ back) ∧ front.length = before.length := by
  -- The characters of the line are those shown, where these are no blanks.
  have hshown := forall₂_blankOut state l
  rw [h] at hshown
  have hrest := List.forall₂_drop_append _ _ _ hshown
  obtain ⟨c, more, hc, hmore, hcut⟩ := List.forall₂_cons_right_iff.1 hrest
  obtain rfl : c = sigil := (hc.resolve_right (by decide)).symm
  have ht := eq_of_forall₂_shown hblank (List.forall₂_take_append _ _ _ hmore)
  refine ⟨l.take before.length, more.drop t.length, ?_, ?_⟩
  · calc l = l.take before.length ++ l.drop before.length := (List.take_append_drop _ _).symm
      _ = l.take before.length ++ sigil :: (more.take t.length ++ more.drop t.length) := by
        rw [hcut, List.take_append_drop]
      _ = l.take before.length ++ sigil :: (t ++ more.drop t.length) := by rw [ht]
  · rw [List.length_take, hshown.length_eq]
    simp

/-- Such a line is cleaned piece by piece, also with another name in the
place of the first. -/
theorem blankOut_cut {state : CommentState} {front back before t after : Text}
    (hblank : ' ' ∉ t) (hlength : front.length = before.length)
    (h : (blankOut state (front ++ sigil :: (t ++ back))).1 = before ++ sigil :: (t ++ after)) :
    after = (blankOut .code back).1 ∧ ∀ name, name = t ∨ '/' ∉ name →
      blankOut state (front ++ sigil :: (name ++ back))
        = lead (before ++ sigil :: name) (blankOut .code back) := by
  rw [blankOut_append, lead] at h
  obtain ⟨hbefore, hmark⟩ := List.append_inj h (by rw [length_blankOut, hlength])
  -- The mark is shown, so no comment is open in front of it.
  have hstate := eq_code_of_head? (by rw [hmark, List.head?_cons])
  have hsigil (name : Text) :
      blankOut .code (sigil :: (name ++ back)) = lead [sigil] (blankOut .code (name ++ back)) :=
    blankOut_code_append (t := [sigil]) (by decide) _
  rw [hstate, hsigil, lead, List.singleton_append, List.cons.injEq] at hmark
  have hname (name : Text) (hsound : name = t ∨ '/' ∉ name) :
      blankOut .code (name ++ back) = lead name (blankOut .code back) := by
    rcases hsound with rfl | hslash
    · exact blankOut_code_of_isPrefix hblank (hmark.2 ▸ List.prefix_append _ _)
    · exact blankOut_code_append hslash _
  refine ⟨?_, fun name hsound => ?_⟩
  · have hrest := hmark.2
    rw [hname t (Or.inl rfl), lead] at hrest
    exact (List.append_cancel_left hrest).symm
  · rw [blankOut_append, hstate, hsigil, hname name hsound, hbefore, ← lead_append, ← lead_append,
      List.append_assoc, List.singleton_append]

/-- A numbered clean line is cleaned from the state that the lines above it
end in, whatever comes below them. -/
theorem exists_of_mem_numberFrom {n : Nat} {state : CommentState} {ls : List Text}
    {line : CleanLine} (h : line ∈ numberFrom n (cleanTexts state ls)) :
    ∃ above l below shown state', ls = above ++ l :: below ∧ line.number = n + above.length ∧
      shown.length = above.length ∧
      (∀ rest, cleanTexts state (above ++ rest) = shown ++ cleanTexts state' rest) ∧
      line.text = (blankOut state' l).1 := by
  induction ls generalizing n state with
  | nil => cases h
  | cons l ls ih =>
      rcases List.mem_cons.1 h with rfl | h
      · exact ⟨[], l, ls, [], state, rfl, rfl, rfl, fun rest => rfl, rfl⟩
      · obtain ⟨above, l', below, shown, state', rfl, hnumber, hlength, hshown, htext⟩ := ih h
        refine ⟨l :: above, l', below, (cleanLine state l).1 :: shown, state', rfl, ?_, ?_,
          fun rest => ?_, htext⟩
        · rw [hnumber, List.length_cons]
          omega
        · rw [List.length_cons, List.length_cons, hlength]
        · rw [List.cons_append, List.cons_append, ← hshown]
          rfl

/-- The first clean line is the first line cleaned. -/
theorem headD_cleanTexts (state : CommentState) (ls : List Text) :
    (cleanTexts state ls).headD [] = (blankOut state (ls.headD [])).1 := by
  cases ls with
  | nil => rw [List.headD_nil, blankOut]; rfl
  | cons l ls => rfl

/-- What is put in front comes in front of the first line. -/
theorem prepend_eq {α : Type} (front : List α) (ls : List (List α)) :
    prepend front ls = (front ++ ls.headD []) :: ls.tail := by
  cases ls <;> simp [prepend]

end Comment

/-! ### Texts that are cut around a term -/

/-- Lines, the front of one more line, a name behind a mark, and the rest of
a text. -/
def around (above : List Text) (front name back : Text) : Text :=
  broken above ++ (front ++ sigil :: (name ++ back))

/-- The lines of such a text. -/
theorem exists_lines_around {above : List Text} {front : Text} (habove : Unbroken above)
    (hfront : '\n' ∉ front) :
    ∃ read : List Text, read.length = above.length ∧
      ∀ name back : Text, (∀ c ∈ name, Term.ends c = false) →
        Text.lines (around above front name back)
          = read ++ Comment.prepend (front ++ sigil :: name) (Text.lines back) := by
  obtain ⟨read, hlength, hread⟩ := Text.exists_lines_broken habove
  refine ⟨read, hlength, fun name back hname => ?_⟩
  have hopen : Open (front ++ sigil :: name) := by
    refine Open.append hfront (by simp) (List.forall_mem_cons.2 ⟨by decide, fun c hc => ?_⟩)
    obtain ⟨hfeed, hreturn, -⟩ := Term.solid_of_ends (hname c hc)
    exact ⟨hfeed, hreturn⟩
  rw [around, hread, ← Text.lines_open hopen]
  simp

/-- A text can be cut in one of its lines, and the lines around the cut stay
as they are, whatever name is put there. -/
theorem exists_around {source front t back : Text} {above below : List Text}
    (hlines : Text.lines source = above ++ (front ++ sigil :: (t ++ back)) :: below)
    (ht : ∀ c ∈ t, Term.ends c = false) :
    ∃ whole rest, Unbroken whole ∧ '\n' ∉ front ∧ whole.length = above.length ∧
      around whole front t rest = source ∧ (Text.lines rest).headD [] = back ∧
      ∀ name : Text, (∀ c ∈ name, Term.ends c = false) →
        Text.lines (around whole front name rest)
          = above ++ Comment.prepend (front ++ sigil :: name) (Text.lines rest) := by
  obtain ⟨whole, tail, hwhole, hlength, rfl, htail⟩ := Text.exists_broken hlines
  have hfront : '\n' ∉ front := fun hmem =>
    Text.unbroken_lines tail _ (htail ▸ List.mem_cons_self) (by simp [hmem])
  obtain ⟨more, hmore⟩ := Comment.headD_lines_isPrefix tail
  rw [htail, List.headD_cons] at hmore
  have haround : around whole front t (back ++ more) = broken whole ++ tail := by
    rw [around, ← hmore]
    simp
  obtain ⟨read, hread, hreadLines⟩ := exists_lines_around hwhole hfront
  -- Read with `t` in the cut, the lines are those of the text.
  have hsame := hreadLines t (back ++ more) ht
  rw [haround, hlines, Comment.prepend_eq] at hsame
  obtain ⟨rfl, hfirst⟩ := List.append_inj hsame (by rw [hread, hlength])
  have hback : (Text.lines (back ++ more)).headD [] = back := by
    have hhead := (List.cons.inj hfirst).1
    rw [List.append_assoc, List.cons_append] at hhead
    exact (List.append_cancel_left (List.cons.inj (List.append_cancel_left hhead)).2).symm
  exact ⟨whole, back ++ more, hwhole, hfront, hlength, haround, hback,
    fun name hname => hreadLines name _ hname⟩

namespace Term

/-- A name that can stand in the place of a term: it does not end too early,
and it is the one that is there or cannot open a comment. -/
structure Fits (old name : Text) : Prop where
  nonempty : name ≠ []
  solid : ∀ c ∈ name, ends c = false
  sound : name = old ∨ '/' ∉ name

/-- A source text that is cut around a term, and what its clean lines show
there. -/
structure Site where
  above : List Text
  front : Text
  old : Text
  back : Text
  /-- The clean lines above. -/
  shownAbove : List Text
  /-- The start of the clean line. -/
  shownFront : Text
  unbroken : Unbroken above ∧ '\n' ∉ front
  height : shownAbove.length = above.length
  width : shownFront.length = front.length
  term : Fits old old
  /-- The clean lines with a name in the place of the term. -/
  clean : ∀ name, Fits old name →
    Comment.cleanTexts .code (Text.lines (around above front name back))
      = shownAbove ++ Comment.prepend (shownFront ++ sigil :: name)
        (Comment.cleanTexts .code (Text.lines back))
  /-- The term ends where the rest begins. -/
  closed : ∀ c ∈ ((Comment.cleanTexts .code (Text.lines back)).headD []).head?, ends c = true

namespace Site

/-- The text of a site with a name in the place of the term. -/
def fill (s : Site) (name : Text) : Text := around s.above s.front name s.back

/-- The place of the term, for a name of some length. -/
def place (s : Site) (file : Path) (length : Nat) : Location :=
  .span file (s.above.length + 1) (s.front.length + 2) length

end Site

/-- Every text can be cut around any of its terms. -/
theorem exists_site {file : Path} {source : Text} {t : Term}
    (ht : t ∈ ofLines file (Comment.cleanLines source)) :
    ∃ s : Site, s.fill s.old = source ∧ t = ⟨s.old, s.place file s.old.length⟩ := by
  obtain ⟨line, hline, ht⟩ := List.mem_flatMap.1 ht
  obtain ⟨column, ⟨hne, hsolid, before, after, hcut, rfl, hclosed⟩, hlocation⟩ :=
    mem_ofLine_iff.1 ht
  have hblank : ' ' ∉ t.text := fun hmem => (solid_of_ends (hsolid _ hmem)).2.2 rfl
  -- The clean line is that of a line of the text, which is cut around the
  -- term as the clean line is.
  obtain ⟨above, l, below, shown, state, hlines, hnumber, hheight, hshown, hclean⟩ :=
    Comment.exists_of_mem_numberFrom hline
  rw [hclean] at hcut
  obtain ⟨front, back, rfl, hwidth⟩ := Comment.exists_cut hblank hcut
  obtain ⟨rfl, hname⟩ := Comment.blankOut_cut hblank hwidth hcut
  obtain ⟨whole, rest, hwhole, hfront, hlength, rfl, rfl, hread⟩ := exists_around hlines hsolid
  have hplace : t.location = .span file (whole.length + 1) (front.length + 2) t.text.length := by
    rw [hlocation, hnumber, hlength, hwidth, Nat.add_comm 1]
  refine ⟨⟨whole, front, t.text, rest, shown, before, ⟨hwhole, hfront⟩,
    by rw [hheight, hlength], hwidth.symm, ⟨hne, hsolid, Or.inl rfl⟩, fun name hfits => ?_, ?_⟩,
    rfl, congrArg (Term.mk t.text) hplace⟩
  · rw [hread name hfits.solid, hshown]
    refine congrArg _ (Comment.cleanTexts_prepend ?_)
    rw [List.append_assoc, List.cons_append]
    exact hname name hfits.sound
  · rwa [Comment.headD_cleanTexts]

/-! ### What a replacement leaves -/

/-- A term whose line holds `new` characters in front of it where it held
`old` ones. -/
def shift (old new : Nat) (t : Term) : Term :=
  { t with location := { t.location with
      column := t.location.column + new - old
      endColumn := t.location.endColumn + new - old } }

/-- A name takes the place of a term, and nothing else happens to the terms
of a text. -/
structure Replaced (file : Path) (source edited : Text) (t : Term) (name : Text) : Prop where
  /-- No line is added and none is lost. -/
  height : (Text.lines edited).length = (Text.lines source).length
  /-- The new term starts where the old one did. The terms in front of it
  and on the lines below stay, those behind it on its line are moved. -/
  terms : ∃ before behind below : List Term,
    ofLines file (Comment.cleanLines source) = before ++ t :: (behind ++ below) ∧
    ofLines file (Comment.cleanLines edited)
      = before ++ ⟨name, .span file t.location.line t.location.column name.length⟩
        :: (behind.map (shift t.text.length name.length) ++ below) ∧
    (∀ u ∈ behind, u.location.line = t.location.line ∧
      t.location.endColumn < u.location.column) ∧
    ∀ u ∈ below, t.location.line < u.location.line

/-- A line that was scanned gives terms of its number. -/
def onLine (file : Path) (n : Nat) (found : Nat × Text) : Term :=
  ⟨found.2, .span file n found.1 found.2.length⟩

/-- Terms that are found later in a line are moved. -/
theorem map_onLine_scan (file : Path) (n column old new : Nat) (rest : Text) :
    (scan (column + new) rest).map (onLine file n)
      = ((scan (column + old) rest).map (onLine file n)).map (shift old new) := by
  -- Both ends of a term are moved by the same number of columns.
  rw [scan_add, scan_add, List.map_map, List.map_map, List.map_map]
  refine List.map_congr_left fun found _ => ?_
  have hmoved (n : Nat) : n + new = n + old + new - old := by omega
  simp only [Function.comp_apply, onLine, shift, Location.span,
    Nat.add_right_comm _ _ found.2.length]
  rw [← hmoved, ← hmoved]

namespace Site

variable (s : Site) (file : Path)

/-- The rest of the clean line. -/
def shownBack : Text := (Comment.cleanTexts .code (Text.lines s.back)).headD []

/-- The clean lines below. -/
def shownBelow : List Text := (Comment.cleanTexts .code (Text.lines s.back)).tail

/-- The terms in front of a site. -/
def before : List Term := ofLines file (Comment.numberFrom 1 (s.shownAbove ++ [s.shownFront]))

/-- The terms behind a site on its line, with a name of some length in it. -/
def behind (length : Nat) : List Term :=
  (scan (s.front.length + 2 + length) s.shownBack).map (onLine file (s.above.length + 1))

/-- The terms below a site. -/
def below : List Term := ofLines file (Comment.numberFrom (s.above.length + 2) s.shownBelow)

/-- The clean lines of a site that is filled. -/
theorem cleanTexts_fill {name : Text} (h : Fits s.old name) :
    Comment.cleanTexts .code (Text.lines (s.fill name))
      = s.shownAbove ++ (s.shownFront ++ sigil :: (name ++ s.shownBack)) :: s.shownBelow := by
  rw [fill, s.clean name h, Comment.prepend_eq, List.append_assoc, List.cons_append]
  rfl

/-- The terms of a site that is filled. -/
theorem ofLines_fill {name : Text} (h : Fits s.old name) :
    ofLines file (Comment.cleanLines (s.fill name))
      = s.before file ++ ⟨name, s.place file name.length⟩
        :: (s.behind file name.length ++ s.below file) := by
  -- The line of the term is scanned in three parts, all others as they are.
  have hline : ofLine file ⟨s.above.length + 1, s.shownFront ++ sigil :: (name ++ s.shownBack)⟩
      = ofLine file ⟨s.above.length + 1, s.shownFront⟩
        ++ ⟨name, s.place file name.length⟩ :: s.behind file name.length := by
    have hscan : scan 1 (s.shownFront ++ sigil :: (name ++ s.shownBack))
        = scan 1 s.shownFront ++ (s.front.length + 2, name)
          :: scan (s.front.length + 2 + name.length) s.shownBack := by
      rw [← s.width]
      exact scan_around h.nonempty h.solid s.closed
    show (scan 1 _).map (onLine file _) = _
    rw [hscan, List.map_append, List.map_cons]
    rfl
  have hnumber : 1 + s.shownAbove.length = s.above.length + 1 := by
    rw [s.height, Nat.add_comm]
  have hclean : Comment.cleanLines (s.fill name) = Comment.numberFrom 1 (s.shownAbove
      ++ (s.shownFront ++ sigil :: (name ++ s.shownBack)) :: s.shownBelow) :=
    congrArg (Comment.numberFrom 1) (s.cleanTexts_fill h)
  rw [hclean, before, below, Comment.numberFrom_append, Comment.numberFrom_append,
    Comment.numberFrom, Comment.numberFrom, Comment.numberFrom, hnumber]
  simp [ofLines, hline]

/-- A name takes the place of the term of a site. -/
theorem replaced {name : Text} (h : Fits s.old name) :
    Replaced file (s.fill s.old) (s.fill name) ⟨s.old, s.place file s.old.length⟩ name := by
  refine ⟨?_, s.before file, s.behind file s.old.length, s.below file, s.ofLines_fill file s.term,
    ?_, fun u hu => ?_, fun u hu => ?_⟩
  · rw [← Comment.length_cleanTexts .code, ← Comment.length_cleanTexts .code (Text.lines _),
      s.cleanTexts_fill h, s.cleanTexts_fill s.term, List.length_append, List.length_append]
    rfl
  · rw [s.ofLines_fill file h, behind, map_onLine_scan]
    rfl
  · obtain ⟨⟨column, text⟩, hfound, rfl⟩ := List.mem_map.1 hu
    obtain ⟨-, -, before, after, -, rfl, -⟩ := mem_scan_from_iff.1 hfound
    refine ⟨rfl, ?_⟩
    show s.front.length + 2 + s.old.length < s.front.length + 2 + s.old.length + before.length + 1
    omega
  · obtain ⟨line, hline, hu⟩ := List.mem_flatMap.1 hu
    obtain ⟨column, -, hlocation⟩ := mem_ofLine_iff.1 hu
    have hle := Comment.le_number_of_mem_numberFrom hline
    rw [hlocation]
    show s.above.length + 1 < line.number
    omega

/-- An editor that is told the place of the term replaces the term. -/
theorem change_fill (name : Text) (hline : (s.place file s.old.length).line ≤ 2 ^ 32)
    (hcolumn : (s.place file s.old.length).endColumn ≤ 2 ^ 32) (version : Int) :
    (Document.mk (s.fill s.old) version).change ⟨some (s.place file s.old.length).range, name⟩
      = ⟨s.fill name, version⟩ := by
  have hopen : Open (s.front ++ [sigil] ++ s.old) := by
    refine Open.append ?_ s.term.nonempty fun c hc => ?_
    · simpa [sigil] using s.unbroken.2
    · obtain ⟨hfeed, hreturn, -⟩ := solid_of_ends (s.term.solid c hc)
      exact ⟨hfeed, hreturn⟩
  -- Lines and columns are counted from one here and from zero in an editor.
  have hsmall {n m : Nat} (hn : n = m) (hm : m < 2 ^ 32) : (UInt32.ofNat n).toNat = m :=
    hn ▸ Nat.mod_eq_of_lt (hn ▸ hm)
  have hend : s.front.length + 2 + s.old.length ≤ 2 ^ 32 := hcolumn
  have hlineNumber : (UInt32.ofNat (s.above.length + 1 - 1)).toNat = s.above.length :=
    hsmall (by omega) hline
  have hstart : (UInt32.ofNat (s.front.length + 2 - 1)).toNat = (s.front ++ [sigil]).length := by
    rw [List.length_append, List.length_singleton]
    exact hsmall (by omega) (by omega)
  have hstop : (UInt32.ofNat (s.front.length + 2 + s.old.length - 1)).toNat
      = (s.front ++ [sigil]).length + s.old.length := by
    rw [List.length_append, List.length_singleton]
    exact hsmall (by omega) (by omega)
  have hfill (name : Text) : s.fill name
      = broken s.above ++ (s.front ++ [sigil] ++ name ++ s.back) := by
    simp [fill, around]
  rw [hfill, hfill]
  exact Document.change_open s.unbroken.1 hopen s.back name version ⟨hlineNumber, hstart⟩
    ⟨hlineNumber, hstop⟩

end Site

end Term

end DefIndex
