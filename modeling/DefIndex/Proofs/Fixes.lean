import DefIndex.Proofs.Arena
import DefIndex.Proofs.Problems
import DefIndex.Proofs.Replacement

/-!
# `DefIndex.Proofs.Fixes`: a fix of an invalid term resolves the term

An editor shows the errors of a snapshot, asks for fixes, and carries one
out in the text of the file. Then the error is gone, and nothing else has
changed.

* `Snapshot.exists_term_of_error`: an error of a file is about one of its
  terms, which is no full name.
* `Session.mem_termFixes`: a fix for a reported problem is a full name for
  the range of the problem. `Table.ne_nil_of_mem_fullNames` says that it is
  not empty.
* `Session.mended_of_offers` puts a name that is offered in the place of
  the term. A name of word characters is needed: a full name that holds
  another character might not be read as one term.
-/

set_option autoImplicit false

namespace DefIndex

/-! ### Errors -/

/-- Reading a file finds nothing that is an error. -/
theorem Outline.severity_of_mem_warnings {file : Path} {source : Text} {w : Diagnostic}
    (hw : w ∈ (Outline.read file source).warnings) : w.severity = .warning := by
  rw [(Outline.warnings_read file source).mem_iff, List.mem_append, List.mem_append] at hw
  rcases hw with (hw | hw) | hw
  · obtain ⟨earlier, d, -, hfound⟩ := exists_of_mem_inTurn hw
    obtain ⟨first, -, rfl⟩ := Option.map_eq_some_iff.1 hfound
    rfl
  · obtain ⟨mark, -, rfl⟩ := List.mem_map.1 hw
    rfl
  · obtain ⟨past, event, -, hfound⟩ := exists_of_mem_inTurn hw
    rw [strayImport?] at hfound
    split at hfound
    · cases hfound
    · obtain ⟨place, -, rfl⟩ := Option.map_eq_some_iff.1 hfound
      rfl

namespace Snapshot

section Errors

variable {table : Table} {sources : List (Path × Text)} {outlines : List Outline}
  (hread : ∀ o ∈ outlines, o ∈ outlinesOf sources) {file : Path} {d : Diagnostic}

include hread

/-- Whatever is found in a file before its terms are looked up is a warning. -/
theorem severity_of_mem_found
    (hd : d ∈ (outlineAt? outlines file).toList.flatMap fun o =>
      o.warnings ++ missingImports table o) : d.severity = .warning := by
  obtain ⟨o, ho, hd⟩ := List.mem_flatMap.1 hd
  rcases List.mem_append.1 hd with hd | hd
  · obtain ⟨source, -, rfl⟩ :=
      List.mem_map.1 (hread o (file_of_outlineAt? (Option.mem_toList.1 ho)).1)
    exact Outline.severity_of_mem_warnings hd
  · obtain ⟨i, -, rfl⟩ := List.mem_map.1 hd
    rfl

/-- An error among the problems of a file is the report on a term of one of
its texts that is no full name. -/
theorem exists_term_of_mem_problemsOf (hd : d ∈ problemsOf table outlines file)
    (herror : d.severity = .error) :
    ∃ source ∈ sources, source.1.normalize = file ∧
      ∃ t ∈ Term.ofLines file (Comment.cleanLines source.2),
        table.contains t.text = false ∧ d = (Problem.unresolved t.text).reportAt t.location := by
  rw [problemsOf, List.mem_append] at hd
  rcases hd with hd | hd
  · rw [severity_of_mem_found hread hd] at herror
    cases herror
  · obtain ⟨o, ho, hd⟩ := List.mem_flatMap.1 hd
    obtain ⟨ho, hsame⟩ := List.mem_filter.1 ho
    obtain ⟨source, hsource, rfl⟩ := List.mem_map.1 (hread o ho)
    obtain ⟨t, ht, rfl⟩ := List.mem_map.1 hd
    obtain ⟨ht, hundefined⟩ := List.mem_filter.1 ht
    refine ⟨source, hsource, ?_, t, ht, by simpa using hundefined, rfl⟩
    rw [← Outline.file_read source.1 source.2]
    exact of_decide_eq_true hsame

end Errors

/-- An error of a file is the report on a term of one of its texts that is
no full name. -/
theorem exists_term_of_error {version limit : Nat} {sources : List (Path × Text)}
    {failures : List ReadFailure} {s : Snapshot}
    (hbuild : Snapshot.build version (outlinesOf sources) failures limit = .ok s) {file : Path}
    {d : Diagnostic} (hd : d ∈ s.diagnosticsFor file) (herror : d.severity = .error) :
    ∃ source ∈ sources, source.1.normalize = file ∧
      ∃ t ∈ Term.ofLines file (Comment.cleanLines source.2),
        s.table.contains t.text = false ∧ d = (Problem.unresolved t.text).reportAt t.location := by
  obtain ⟨htable, hkeys, hlists⟩ := diagnostics_of_build hbuild
  have hfile : file ∈ s.table.files := by
    by_contra hnone
    have hempty : s.diagnosticsFor file = [] :=
      (diagnosticsFor_of_forall_ne fun entry hentry hsame => hnone (by
        rw [← hkeys, ← hsame]
        exact List.mem_map_of_mem hentry)).2
    rw [hempty] at hd
    cases hd
  rw [hlists file hfile, Diagnostic.sortAndCap] at hd
  have hd := mem_sortBy.1 (List.mem_of_mem_take hd)
  exact exists_term_of_mem_problemsOf (fun _ ho => ho) hd herror

end Snapshot

/-! ### Fixes -/

/-- None of the full names that are listed is empty. -/
theorem Table.ne_nil_of_mem_fullNames {sources : List (Path × Text)} {table : Table}
    (hbuild : Table.build (outlinesOf sources) = .ok table) {n : Text} (hn : n ∈ table.fullNames) :
    n ≠ [] := by
  have hdefined := (indexed_build hbuild).mem_fullNames.1 hn
  obtain ⟨e, he, hanswers⟩ := List.any_eq_true.1 hdefined
  obtain ⟨-, rfl⟩ := Definition.answers_iff.1 hanswers
  exact fullName_ne_nil_build hbuild he

/-- What is suggested for a term is a full name. -/
theorem Table.mem_fullNames_of_mem_similarNames {table : Table} {term : Text}
    {suggestion : Suggestion} (h : suggestion ∈ table.similarNames term) :
    suggestion.value ∈ table.fullNames := by
  have hfound := mem_sortBy.1 (mem_of_mem_dropRepeats (List.mem_of_mem_take h))
  obtain ⟨candidate, hcandidate, hnear⟩ := List.mem_filterMap.1 hfound
  rw [Suggestion.near?] at hnear
  split at hnear
  · obtain rfl := Option.some.inj hnear
    exact hcandidate
  · cases hnear

namespace Session

/-- A fix for a reported problem puts a full name for the range of the
problem. -/
theorem mem_termFixes {table : Table} {reported : List Reported} {f : Fix}
    (hf : f ∈ termFixes table reported) :
    ∃ ix r, f.reported = some ix ∧ reported[ix]? = some r ∧ f.range = r.range ∧
      f.text ∈ table.fullNames := by
  obtain ⟨⟨r, ix⟩, hr, hf⟩ := List.mem_flatMap.1 hf
  simp only at hf
  split at hf
  next term _ =>
    obtain ⟨suggestion, hsuggestion, rfl⟩ := List.mem_map.1 hf
    exact ⟨ix, r, rfl, List.mem_zipIdx_iff_getElem?.1 hr, rfl,
      Table.mem_fullNames_of_mem_similarNames hsuggestion⟩
  next => cases hf

/-- A fix of a word is for no reported problem. -/
theorem reported_of_mem_wordFixes {line : Text} {p : Position} {f : Fix}
    (hf : f ∈ wordFixes line p) : f.reported = none := by
  rw [wordFixes] at hf
  split at hf
  · obtain ⟨keyword, -, rfl⟩ := List.mem_map.1 hf
    rfl
  · cases hf

/-- An answer is made of the fixes for the reported problems and of those for
the word under the cursor, which are for no reported problem. -/
theorem fixes_eq {s : Session} {snapshot : Snapshot} (hcurrent : s.snapshot? = some snapshot)
    (h : Host) (cursor : Cursor) (reported : List Reported) :
    ∃ onWord : List Fix, (∀ g ∈ onWord, g.reported = none) ∧
      s.fixes h cursor reported = cursor.uri.locator?.bind fun _ =>
        unlessEmpty (termFixes snapshot.table reported ++ onWord) := by
  cases hfile : cursor.uri.locator? with
  | none => exact ⟨[], by simp, by rw [fixes, hfile]; rfl⟩
  | some file =>
      cases hline : s.line? h file cursor.position with
      | none => exact ⟨[], by simp, by simp [fixes, hfile, hcurrent, hline]⟩
      | some line =>
          refine ⟨wordFixes line cursor.position, fun g hg => reported_of_mem_wordFixes hg, ?_⟩
          simp [fixes, hfile, hcurrent, hline]

/-- A session offers a fix for a diagnostic: an editor that reports the
diagnostic, among others and with a cursor anywhere, finds it in the
answer. -/
def Offers (s : Session) (h : Host) (d : Diagnostic) (f : Fix) : Prop :=
  ∃ cursor reported fixes ix, s.fixes h cursor reported = some fixes ∧ f ∈ fixes ∧
    f.reported = some ix ∧ reported[ix]? = some ⟨d.message, d.location.range⟩

/-- The fix that puts a suggested name in the place of an invalid term. -/
def fixOf (d : Diagnostic) (name : Text) : Fix :=
  ⟨"Replace with " ++ name, d.location.range, name, some 0⟩

/-- Every name that is suggested for an invalid term is offered, with a cursor
in some file. -/
theorem offers_of_mem_similarNames {s : Session} {snapshot : Snapshot}
    (hcurrent : s.snapshot? = some snapshot) (h : Host) (cursor : Cursor)
    (hcursor : cursor.uri.locator?.isSome = true) {d : Diagnostic} {term : Text}
    (hterm : Diagnostic.termOf? d.message = some term) {suggestion : Suggestion}
    (hsuggestion : suggestion ∈ snapshot.table.similarNames term) :
    s.Offers h d (fixOf d suggestion.value) := by
  let reported : List Reported := [⟨d.message, d.location.range⟩]
  have hmem : fixOf d suggestion.value ∈ termFixes snapshot.table reported := by
    simp only [reported, termFixes, List.zipIdx_singleton, List.flatMap_singleton, hterm]
    exact List.mem_map.2 ⟨suggestion, hsuggestion, rfl⟩
  obtain ⟨file, hfile⟩ := Option.isSome_iff_exists.1 hcursor
  obtain ⟨onWord, -, hanswer⟩ := fixes_eq hcurrent h cursor reported
  have hne : termFixes snapshot.table reported ++ onWord ≠ [] :=
    List.append_ne_nil_of_left_ne_nil (List.ne_nil_of_mem hmem) _
  rw [hfile, Option.bind_some, unlessEmpty, if_neg (by rwa [List.isEmpty_iff])] at hanswer
  exact ⟨cursor, reported, _, 0, hanswer, List.mem_append_left _ hmem, rfl, rfl⟩

/-- A fix that is offered for a diagnostic puts a full name for its range. -/
theorem Offers.range_eq {s : Session} {h : Host} {d : Diagnostic} {f : Fix}
    (hoffers : s.Offers h d f) {snapshot : Snapshot} (hcurrent : s.snapshot? = some snapshot) :
    f.range = d.location.range ∧ f.text ∈ snapshot.table.fullNames := by
  obtain ⟨cursor, reported, fixes, ix, hfixes, hf, hix, hreported⟩ := hoffers
  obtain ⟨onWord, hword, hanswer⟩ := fixes_eq hcurrent h cursor reported
  rw [hanswer, Option.bind_eq_some_iff] at hfixes
  obtain ⟨file, -, hfixes⟩ := hfixes
  rw [unlessEmpty] at hfixes
  split at hfixes
  · cases hfixes
  obtain rfl := Option.some.inj hfixes
  rcases List.mem_append.1 hf with hf | hf
  · obtain ⟨ix', r, hix', hr, hrange, htext⟩ := mem_termFixes hf
    obtain rfl : ix' = ix := Option.some.inj (hix'.symm.trans hix)
    obtain rfl := Option.some.inj (hr.symm.trans hreported)
    exact ⟨hrange, htext⟩
  · rw [hword f hf] at hix
    cases hix

/-! ### Texts -/

/-- In a text one invalid term of a file is mended: a full name stands in
its place, and one term less is invalid. -/
structure Mended (table : Table) (file : Path) (source edited : Text) (d : Diagnostic)
    (name : Text) : Prop where
  /-- The name that is offered is a full name. -/
  named : name ∈ table.fullNames
  /-- It takes the place of the term that the diagnostic is about, and nothing
  else happens to the terms of the file. -/
  replaced : ∃ t : Term, t.location = d.location ∧ d.invalidTerm? = some t.text ∧
    table.defines t.text = false ∧ Term.Replaced file source edited t name
  /-- One report less is made on the text. -/
  fewer : (ReferenceIndex.unresolved table file (Comment.cleanLines source)).length
    = (ReferenceIndex.unresolved table file (Comment.cleanLines edited)).length + 1

/-- Where a full name takes the place of a term that is none, one report less
is made. -/
theorem length_unresolved_of_replaced {table : Table} {file : Path} {source edited : Text}
    {t : Term} {name : Text} (h : Term.Replaced file source edited t name)
    (ht : table.contains t.text = false) (hname : table.contains name = true) :
    (ReferenceIndex.unresolved table file (Comment.cleanLines source)).length
      = (ReferenceIndex.unresolved table file (Comment.cleanLines edited)).length + 1 := by
  obtain ⟨before, behind, below, hsource, hedited, -, -⟩ := h.terms
  -- A term that is moved is defined if it was before.
  have hmoved (old new : Nat) :
      ((behind.map (Term.shift old new)).filter fun t => !table.contains t.text).length
        = (behind.filter fun t => !table.contains t.text).length := by
    rw [List.filter_map, List.length_map]
    rfl
  rw [ReferenceIndex.unresolved, ReferenceIndex.unresolved, hsource, hedited]
  simp [List.filter_append, ht, hname, hmoved]
  omega

/-- A fix that an editor is offered for an error of a snapshot, with a name
of word characters, mends the text of the file: carried out where the text
is open, it puts a full name in the place of the invalid term and leaves all
other terms as they are. The line and the columns of the error have to fit
into the 32 bits in which an editor counts them. -/
theorem mended_of_offers (version : Nat) (sources : List (Path × Text))
    (failures : List ReadFailure) (limit : Nat) (snapshot : Snapshot)
    (hbuild : Snapshot.build version (outlinesOf sources) failures limit = .ok snapshot)
    (file : Path) (text : Text)
    (htext : ∀ source ∈ sources, source.1.normalize = file → source.2 = text)
    (d : Diagnostic) (hd : d ∈ snapshot.diagnosticsFor file) (herror : d.severity = .error)
    (hfits : d.location.line ≤ 2 ^ 32 ∧ d.location.endColumn ≤ 2 ^ 32)
    (h : Host) (s : Session) (hcurrent : s.snapshot? = some snapshot)
    (f : Fix) (hoffers : s.Offers h d f) (hword : ∀ c ∈ f.text, Word.isPart c = true)
    (opened edited : Int) :
    Mended snapshot.table file text
      ((Document.mk text opened).apply [⟨some f.range, f.text⟩] edited).content d f.text := by
  have htable := (Snapshot.diagnostics_of_build hbuild).1
  have hindexed := Table.indexed_build htable
  -- The error is about a term of the text, around which the text is cut.
  obtain ⟨source, hsource, hpath, t, ht, hundefined, rfl⟩ :=
    Snapshot.exists_term_of_error hbuild hd herror
  rw [htext source hsource hpath] at ht
  obtain ⟨site, hfill, rfl⟩ := Term.exists_site ht
  -- The name can stand in the place of the term.
  obtain ⟨hrange, hname⟩ := hoffers.range_eq hcurrent
  have hterm : Term.Fits site.old f.text :=
    { nonempty := Table.ne_nil_of_mem_fullNames htable hname
      solid := fun c hc => Word.ends_of_isPart (hword c hc)
      sound := Or.inr (Word.slash_notMem hword) }
  have hedited : ((Document.mk text opened).apply [⟨some f.range, f.text⟩] edited).content
      = site.fill f.text := by
    rw [hrange, ← hfill, Document.apply, List.foldl_cons, List.foldl_nil]
    exact congrArg Document.content
      (site.change_fill file f.text hfits.1 hfits.2 opened)
  have hreplaced := site.replaced file hterm
  rw [hfill, ← hedited] at hreplaced
  refine ⟨hname, ⟨_, rfl, Diagnostic.termOf?_unresolved _, ?_, hreplaced⟩, ?_⟩
  · rw [← hindexed.contains_eq_defines]
    exact hundefined
  · refine length_unresolved_of_replaced hreplaced hundefined ?_
    rw [hindexed.contains_eq_defines]
    exact hindexed.mem_fullNames.1 hname

/-- A text with a term that is nearly a full name, behind a comment and in
front of one. -/
def typoText : Text :=
  "// ?Shop.Cost\r\n/* é */ CREATE TAG T(?Shop.Pric/**/, ?Shop);\r\n"

/-- The file that holds the text. -/
def typoFile : Path := .parse "/ws/b.mql"

/-- This file, and one that declares the name that was meant. -/
def typoSources : List (Path × Text) :=
  [(.parse "/ws/a.mql", "CREATE BASE Shop \x7b CREATE TAG Price; \x7d"), (typoFile, typoText)]

/-- The report on the term. -/
def typo : Diagnostic :=
  (Problem.unresolved "Shop.Pric").reportAt (.span typoFile 2 23 9)

/-- The identifier of the file. -/
def typoUri : Uri := ⟨"file", some ⟨[], [], none⟩, "/ws/b.mql", true, none, none⟩

/-- A session that shows a snapshot. -/
def showing (snapshot : Snapshot) : Session :=
  { fresh with phase := .running, workspace := some ⟨.parse "/ws", .default, snapshot, 1⟩ }

/-- The name that was meant is offered for the term and mends the text. -/
theorem mended_of_offers_typoSources :
    ∃ snapshot, Snapshot.build 1 (outlinesOf typoSources) [] 10 = .ok snapshot ∧
      typo ∈ snapshot.diagnosticsFor typoFile ∧
        (showing snapshot).Offers .empty typo (fixOf typo "Shop.Price") ∧
          Mended snapshot.table typoFile typoText
            "// ?Shop.Cost\r\n/* é */ CREATE TAG T(?Shop.Price/**/, ?Shop);\r\n" typo
            "Shop.Price" := by
  have hdistinct : ((outlinesOf typoSources).map Outline.file).Nodup := by
    rw [map_file_outlinesOf]
    decide +kernel
  -- What is reported and what is suggested can be computed, up to the passes
  -- that drop repeats.
  have hfacts : (Table.build (outlinesOf typoSources)).toOption.map (fun table =>
      (Diagnostic.sortAndCap 10 (Snapshot.problemsOf table (outlinesOf typoSources) typoFile),
        sortBy Suggestion.le (table.fullNames.filterMap (Suggestion.near? "Shop.Pric" 2))))
      = some ([typo], [⟨"Shop.Price", 1⟩]) := by
    decide +kernel
  obtain ⟨table, htable, hfacts⟩ := exists_ok_of_toOption hfacts
  obtain ⟨hproblems, hnear⟩ := Prod.mk.inj hfacts
  obtain ⟨snapshot, hsnapshot, rfl⟩ := Snapshot.exists_build htable 1 [] 10
  obtain ⟨-, -, hlists⟩ := Snapshot.diagnostics_of_build hsnapshot
  have hfile : typoFile ∈ snapshot.table.files :=
    (Snapshot.perm_files hdistinct htable).mem_iff.2 (by decide +kernel)
  have hreported : typo ∈ snapshot.diagnosticsFor typoFile := by
    rw [hlists _ hfile, hproblems]
    exact List.mem_singleton_self _
  have hsuggested : ⟨"Shop.Price", 1⟩ ∈ snapshot.table.similarNames "Shop.Pric" := by
    rw [Table.similarNames, Suggestion.findSimilar, Suggestion.defaultDistance, hnear,
      dropRepeats]
    exact List.mem_singleton_self _
  have hoffers : (showing snapshot).Offers .empty typo (fixOf typo "Shop.Price") :=
    offers_of_mem_similarNames rfl .empty ⟨typoUri, ⟨0, 0⟩⟩ (by decide +kernel)
      (Diagnostic.termOf?_unresolved _) hsuggested
  have hcontent : ((Document.mk typoText 1).apply
      [⟨some (fixOf typo "Shop.Price").range, "Shop.Price"⟩] 2).content
        = "// ?Shop.Cost\r\n/* é */ CREATE TAG T(?Shop.Price/**/, ?Shop);\r\n" := by
    decide +kernel
  refine ⟨snapshot, hsnapshot, hreported, hoffers, hcontent ▸ ?_⟩
  exact mended_of_offers 1 typoSources [] 10 snapshot hsnapshot _ typoText (by decide +kernel)
    typo hreported rfl (by decide) .empty (showing snapshot) rfl _ hoffers
    (List.all_eq_true.1 (by decide +kernel)) 1 2

end Session

end DefIndex
