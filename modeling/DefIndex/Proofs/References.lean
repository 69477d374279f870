import Mathlib.Data.List.Dedup
import Mathlib.Data.List.TakeWhile
import DefIndex.Proofs.EventOrder
import DefIndex.Proofs.Indexes
import DefIndex.Reference

/-!
# `DefIndex.Proofs.References`: every term is recorded once or reported once

The terms of a workspace are found by a scan of its clean lines, recorded
in an index under their names and sorted, or reported if nothing answers
to them. This file proves that none is lost on the way and none is
counted twice.

* `Term.OccursAt` says what a term of a line is, without a scan, and
  `Term.mem_scan_iff` that the scan finds exactly these.
* `Location.Before` is the order of places. Terms of files that are
  numbered line by line stand one before the other, so no two of them
  share a place.
* `ReferenceIndex.find_build` tells what is recorded under a name.
* `resolved_build` is the statement about all terms of a workspace.
-/

set_option autoImplicit false

namespace DefIndex

/-! ### The terms of a line -/

namespace Term

/-- A term occurs at a column of a line: a run of characters of which none
ends a term, directly behind the mark of a reference, that does not go on. -/
def OccursAt (line : Text) (column : Nat) (t : Text) : Prop :=
  t ≠ [] ∧ (∀ c ∈ t, ends c = false) ∧
    ∃ before after, line = before ++ sigil :: (t ++ after) ∧ column = before.length + 2 ∧
      ∀ c ∈ after.head?, ends c = true

/-- The run at the start of a text is the one that does not go on. -/
theorem run_eq_iff {cs t : Text} :
    run cs = t ↔ (∀ c ∈ t, ends c = false) ∧
      ∃ after, cs = t ++ after ∧ ∀ c ∈ after.head?, ends c = true := by
  constructor
  · rintro rfl
    refine ⟨fun c hc => by simpa using List.mem_takeWhile_imp hc,
      cs.dropWhile fun c => !ends c, List.takeWhile_append_dropWhile.symm, fun c hc => ?_⟩
    have hstop := List.head?_dropWhile_not (fun c => !ends c) cs
    rw [Option.mem_def.1 hc] at hstop
    simpa using hstop
  · rintro ⟨hinside, after, rfl, hafter⟩
    have hnone : after.takeWhile (fun c => !ends c) = [] := by
      cases after with
      | nil => rfl
      | cons c cs => rw [List.takeWhile_cons_of_neg (by simpa using hafter c rfl)]
    rw [run, List.takeWhile_append_of_pos (by simpa using hinside), hnone, List.append_nil]

/-- The scan of a line from a column on finds the terms that occur there. -/
theorem mem_scan_from_iff {n column : Nat} {rest t : Text} :
    (column, t) ∈ scan n rest ↔ t ≠ [] ∧ (∀ c ∈ t, ends c = false) ∧
      ∃ before after, rest = before ++ sigil :: (t ++ after) ∧ column = n + before.length + 1 ∧
        ∀ c ∈ after.head?, ends c = true := by
  induction rest generalizing n with
  | nil => simp [scan]
  | cons c cs ih =>
      have hscan : (column, t) ∈ scan n (c :: cs) ↔
          (c = sigil ∧ t ≠ [] ∧ run cs = t ∧ column = n + 1) ∨ (column, t) ∈ scan (n + 1) cs := by
        rw [scan]
        split
        next hmark =>
          rw [List.mem_cons, Prod.mk.injEq]
          exact or_congr_left ⟨fun ⟨hcolumn, ht⟩ => ⟨hmark.1, ht ▸ hmark.2, ht.symm, hcolumn⟩,
            fun ⟨_, _, ht, hcolumn⟩ => ⟨hcolumn, ht.symm⟩⟩
        next hmark =>
          refine (or_iff_right ?_).symm
          rintro ⟨hc, hne, rfl, -⟩
          exact hmark ⟨hc, hne⟩
      -- A term is found at the first character or in the rest, and the front
      -- of its occurrence is empty or not.
      rw [hscan, ih, run_eq_iff]
      constructor
      · rintro (⟨rfl, hne, ⟨hinside, after, rfl, hafter⟩, rfl⟩ |
          ⟨hne, hinside, before, after, rfl, rfl, hafter⟩)
        · exact ⟨hne, hinside, [], after, rfl, rfl, hafter⟩
        · exact ⟨hne, hinside, c :: before, after, rfl, by rw [List.length_cons]; omega, hafter⟩
      · rintro ⟨hne, hinside, before, after, hrest, rfl, hafter⟩
        cases before with
        | nil =>
            obtain ⟨rfl, rfl⟩ := List.cons.inj hrest
            exact Or.inl ⟨rfl, hne, ⟨hinside, after, rfl, hafter⟩, rfl⟩
        | cons b before =>
            obtain ⟨rfl, rfl⟩ := List.cons.inj hrest
            refine Or.inr ⟨hne, hinside, before, after, rfl, ?_, hafter⟩
            rw [List.length_cons]
            omega

/-- The terms of a line are those that occur in it. -/
theorem mem_scan_iff {line t : Text} {column : Nat} :
    (column, t) ∈ scan 1 line ↔ OccursAt line column t := by
  rw [mem_scan_from_iff, OccursAt]
  have hshift (before : Text) : 1 + before.length + 1 = before.length + 2 := by omega
  simp only [hshift]

/-- The scan of a line goes from left to right. -/
theorem pairwise_scan (n : Nat) (rest : Text) :
    (scan n rest).Pairwise (fun a b => a.1 < b.1) ∧ ∀ a ∈ scan n rest, n < a.1 := by
  induction rest generalizing n with
  | nil => exact ⟨List.Pairwise.nil, by simp [scan]⟩
  | cons c cs ih =>
      obtain ⟨hcs, hafter⟩ := ih (n + 1)
      rw [scan]
      split
      · refine ⟨List.pairwise_cons.2 ⟨hafter, hcs⟩, fun a ha => ?_⟩
        rcases List.mem_cons.1 ha with rfl | ha
        · exact Nat.lt_succ_self n
        · exact Nat.lt_of_succ_lt (hafter a ha)
      · exact ⟨hcs, fun a ha => Nat.lt_of_succ_lt (hafter a ha)⟩

/-- The terms of a clean line, with their places. -/
theorem mem_ofLine_iff {file : Path} {line : CleanLine} {t : Term} :
    t ∈ ofLine file line ↔ ∃ column, OccursAt line.text column t.text ∧
      t.location = .span file line.number column t.text.length := by
  rw [ofLine, List.mem_map]
  constructor
  · rintro ⟨⟨column, text⟩, hscan, rfl⟩
    exact ⟨column, mem_scan_iff.1 hscan, rfl⟩
  · rintro ⟨column, hoccurs, hlocation⟩
    obtain ⟨text, location⟩ := t
    exact ⟨(column, text), mem_scan_iff.2 hoccurs, congrArg (Term.mk text) hlocation.symm⟩

/-- The terms of a clean line stand from left to right. -/
theorem pairwise_ofLine (file : Path) (line : CleanLine) :
    (ofLine file line).Pairwise fun a b => a.location.column < b.location.column :=
  List.pairwise_map.2 (pairwise_scan 1 line.text).1

end Term

/-! ### Places in order -/

namespace Location

/-- A location comes before another one: by file, then line, then column. -/
def Before (a b : Location) : Prop :=
  compare a.file b.file = .lt ∨
    a.file = b.file ∧ (a.line < b.line ∨ a.line = b.line ∧ a.column < b.column)

/-- No location comes before itself. -/
theorem Before.ne {a b : Location} (h : Before a b) : a ≠ b := by
  rintro rfl
  rcases h with hfile | ⟨-, hplace⟩
  · rw [Std.compare_eq_iff_eq.2 rfl] at hfile
    cases hfile
  · omega

/-- The order that locations are sorted by. -/
theorem le_iff {a b : Location} :
    a.le b = true ↔ compare a.file b.file = .lt ∨
      a.file = b.file ∧ (a.line < b.line ∨ a.line = b.line ∧ a.column ≤ b.column) := by
  rw [le, ← Std.compare_eq_iff_eq (a := a.file)]
  cases compare a.file b.file <;> simp

/-- Of two locations one comes first. -/
theorem le_total (a b : Location) : a.le b = true ∨ b.le a = true := by
  simp only [le_iff]
  rcases hfile : compare a.file b.file with _ | _ | _
  · exact Or.inl (Or.inl rfl)
  · have hsame : a.file = b.file := Std.compare_eq_iff_eq.1 hfile
    simp only [hsame, true_and]
    omega
  · exact Or.inr (Or.inl (Std.OrientedCmp.gt_iff_lt.1 hfile))

/-- The order of locations is transitive. -/
theorem le_trans {a b c : Location} (hab : a.le b = true) (hbc : b.le c = true) :
    a.le c = true := by
  rw [le_iff] at hab hbc ⊢
  rcases hab with hab | ⟨hab, hplace⟩
  · rcases hbc with hbc | ⟨hbc, -⟩
    · exact Or.inl (Std.TransCmp.lt_trans hab hbc)
    · exact Or.inl (hbc ▸ hab)
  · rcases hbc with hbc | ⟨hbc, hplace'⟩
    · exact Or.inl (hab ▸ hbc)
    · exact Or.inr ⟨hab.trans hbc, by omega⟩

/-- Two locations start at different places. -/
def Apart (a b : Location) : Prop :=
  ¬ (a.file = b.file ∧ a.line = b.line ∧ a.column = b.column)

/-- Which location comes first does not matter for being apart. -/
theorem Apart.symm {a b : Location} (h : Apart a b) : Apart b a :=
  fun ⟨hfile, hline, hcolumn⟩ => h ⟨hfile.symm, hline.symm, hcolumn.symm⟩

/-- Locations that start at different places differ. -/
theorem Apart.ne {a b : Location} (h : Apart a b) : a ≠ b := by
  rintro rfl
  exact h ⟨rfl, rfl, rfl⟩

/-- Locations in order that start at different places stand one before the
other. -/
theorem before_of_le {a b : Location} (hle : a.le b = true) (hapart : Apart a b) : Before a b := by
  rcases le_iff.1 hle with hfile | ⟨hfile, hplace⟩
  · exact Or.inl hfile
  · refine Or.inr ⟨hfile, ?_⟩
    rcases hplace with hline | ⟨hline, hcolumn⟩
    · exact Or.inl hline
    · exact Or.inr ⟨hline, Nat.lt_of_le_of_ne hcolumn fun heq => hapart ⟨hfile, hline, heq⟩⟩

/-- Different places stay different when they are sorted, and then stand one
before the other. -/
theorem pairwise_before_sortBy {ls : List Location} (h : ls.Pairwise Apart) :
    (sortBy le ls).Pairwise Before := by
  have hordered := pairwise_sortBy le_total (fun _ _ _ => le_trans) ls
  have hapart : (sortBy le ls).Pairwise Apart :=
    ((sortBy_perm le ls).pairwise_iff fun h => h.symm).2 h
  exact (hordered.and hapart).imp fun ⟨hle, hne⟩ => before_of_le hle hne

end Location

/-- A list of files with their clean lines: no file twice, and the lines
numbered from one. -/
structure Paginated (files : List (Path × List CleanLine)) : Prop where
  distinct : (files.map Prod.fst).Nodup
  numbered : ∀ file ∈ files, ∃ texts, file.2 = Comment.numberFrom 1 texts

/-- The terms of numbered lines stand from top to bottom and from left to
right. -/
theorem Term.pairwise_ofLines (file : Path) (n : Nat) (texts : List Text) :
    (ofLines file (Comment.numberFrom n texts)).Pairwise fun a b =>
      a.location.line < b.location.line ∨
        a.location.line = b.location.line ∧ a.location.column < b.location.column := by
  have hline {line : CleanLine} {t : Term} (ht : t ∈ ofLine file line) :
      t.location.line = line.number := by
    obtain ⟨column, -, hlocation⟩ := mem_ofLine_iff.1 ht
    rw [hlocation]
    rfl
  refine List.pairwise_flatMap.2 ⟨fun line _ => ?_, ?_⟩
  · refine (pairwise_ofLine file line).imp_of_mem fun ha hb hcolumn => ?_
    exact Or.inr ⟨(hline ha).trans (hline hb).symm, hcolumn⟩
  · refine (Comment.pairwise_numberFrom n texts).imp fun hnumber a ha b hb => Or.inl ?_
    rwa [hline ha, hline hb]

/-- A term of clean lines is in their file. -/
theorem Term.file_of_mem_ofLines {file : Path} {lines : List CleanLine} {t : Term}
    (ht : t ∈ ofLines file lines) : t.location.file = file := by
  obtain ⟨line, -, ht⟩ := List.mem_flatMap.1 ht
  obtain ⟨column, -, hlocation⟩ := mem_ofLine_iff.1 ht
  rw [hlocation]
  rfl

namespace ReferenceIndex

/-- The terms of different files, and those of one file, are at different
places. -/
theorem pairwise_apart_termsOf {files : List (Path × List CleanLine)} (h : Paginated files) :
    (termsOf files).Pairwise fun a b => a.location.Apart b.location := by
  refine List.pairwise_flatMap.2 ⟨fun file hfile => ?_, ?_⟩
  · obtain ⟨texts, htexts⟩ := h.numbered file hfile
    show (Term.ofLines file.1 file.2).Pairwise _
    rw [htexts]
    refine (Term.pairwise_ofLines file.1 1 texts).imp fun hplace hsame => ?_
    obtain ⟨-, hline, hcolumn⟩ := hsame
    omega
  · refine (List.pairwise_map.1 h.distinct).imp fun hne a ha b hb hsame => hne ?_
    rw [← Term.file_of_mem_ofLines ha, ← Term.file_of_mem_ofLines hb, hsame.1]

/-! ### Recording -/

/-- What recording terms leaves under a name: what was there, and the places
of the terms of that name behind it. -/
theorem find_foldl_add (index : ReferenceIndex) (ts : List Term) (n : Text) :
    (ts.foldl add index).find n
      = index.find n ++ (ts.filter fun t => t.text = n).map Term.location := by
  induction ts generalizing index with
  | nil => simp
  | cons t ts ih =>
      have hadd : (index.add t).find n
          = index.find n ++ if t.text = n then [t.location] else [] := by
        simp only [find, add, Std.TreeMap.getD_insert, Std.compare_eq_iff_eq]
        by_cases hname : t.text = n <;> simp [hname]
      rw [List.foldl_cons, ih, hadd]
      by_cases hname : t.text = n <;> simp [hname]

/-- The names of an index after terms are recorded. -/
theorem mem_foldl_add (index : ReferenceIndex) (ts : List Term) (n : Text) :
    n ∈ (ts.foldl add index).byName ↔ n ∈ index.byName ∨ n ∈ ts.map Term.text := by
  induction ts generalizing index with
  | nil => simp
  | cons t ts ih =>
      have hadd : n ∈ (index.add t).byName ↔ t.text = n ∨ n ∈ index.byName := by
        simp [add]
      rw [List.foldl_cons, ih, hadd, List.map_cons, List.mem_cons, or_assoc, or_left_comm,
        eq_comm]

/-- Sorting sorts what is found. -/
theorem find_sort (index : ReferenceIndex) (n : Text) :
    index.sort.find n = sortBy Location.le (index.find n) := by
  simp only [find, sort, Std.TreeMap.getD_eq_getD_getElem?, Std.TreeMap.getElem?_map]
  cases index.byName[n]? <;> rfl

/-- The terms of a workspace that a table defines. -/
def defined (table : Table) (files : List (Path × List CleanLine)) : List Term :=
  (termsOf files).filter fun t => table.contains t.text

/-- What is found under a name are the places of its terms, sorted. -/
theorem find_build (table : Table) (files : List (Path × List CleanLine)) (n : Text) :
    (build table files).find n
      = sortBy Location.le (((defined table files).filter fun t => t.text = n).map
          Term.location) := by
  rw [build, find_sort, find_foldl_add, ← defined]
  simp [find, empty]

/-- The size of an index is that of all its lists. -/
theorem size_eq_sum (index : ReferenceIndex) :
    index.size = (index.byName.keys.map fun n => (index.find n).length).sum := by
  rw [size, List.length_flatMap, toList, ← Std.TreeMap.map_fst_toList_eq_keys, List.map_map]
  refine congrArg List.sum (List.map_congr_left fun entry hentry => ?_)
  have hfound := Std.TreeMap.mem_toList_iff_getElem?_eq_some.1 hentry
  simp [find, Std.TreeMap.getD_eq_getD_getElem?, hfound]

/-- A list is as long as its parts together when it is parted by a key. -/
theorem length_eq_sum_parts {α κ : Type} [DecidableEq κ] (key : α → κ) (xs : List α) :
    xs.length = ((xs.map key).dedup.map fun k => (xs.filter fun x => key x = k).length).sum := by
  have hcount (k : κ) : (xs.filter fun x => key x = k).length = (xs.map key).count k := by
    rw [← List.countP_eq_length_filter, List.count, List.countP_map]
    exact List.countP_congr fun x _ => by simp
  simp only [hcount]
  rw [List.sum_map_count_dedup_eq_length, List.length_map]

/-- As many references are recorded as there are terms that are defined. -/
theorem size_build (table : Table) (files : List (Path × List CleanLine)) :
    (build table files).size = (defined table files).length := by
  have hkeys : (build table files).byName.keys.Perm
      ((defined table files).map Term.text).dedup := by
    refine (List.perm_ext_iff_of_nodup Std.TreeMap.nodup_keys (List.nodup_dedup _)).2 fun n => ?_
    rw [List.mem_dedup, build, sort, Std.TreeMap.keys_map, Std.TreeMap.mem_keys, mem_foldl_add]
    simp [empty, defined]
  rw [size_eq_sum, (hkeys.map _).sum_nat, length_eq_sum_parts Term.text (defined table files)]
  simp only [find_build, length_sortBy, List.length_map]

/-! ### Reports -/

/-- The reports on the terms of a workspace, each with its file, in the order
in which they are made. -/
def reports (table : Table) (files : List (Path × List CleanLine)) : List (Path × Diagnostic) :=
  files.flatMap fun file => (unresolved table file.1 file.2).map fun d => (file.1, d)

/-- The report on a term that nothing answers to. -/
def reportOn (t : Term) : Path × Diagnostic :=
  (t.location.file, ⟨("Term: " : Text) ++ t.text ++ " is invalid!", .error, t.location⟩)

/-- The report on a term tells which term it is. -/
theorem invalidTerm?_reportOn (t : Term) : (reportOn t).2.invalidTerm? = some t.text :=
  Diagnostic.termOf?_unresolved t.text

/-- The terms that are reported are those that are not recorded. -/
theorem reports_eq_map (table : Table) (files : List (Path × List CleanLine)) :
    reports table files
      = ((termsOf files).filter fun t => !table.contains t.text).map reportOn := by
  rw [termsOf, List.filter_flatMap, List.map_flatMap]
  refine List.flatMap_congr fun file _ => ?_
  rw [unresolved, List.map_map]
  refine List.map_congr_left fun t ht => ?_
  rw [reportOn, Term.file_of_mem_ofLines (List.mem_filter.1 ht).1]
  rfl

/-- Of elements with different keys, one is met once. -/
theorem filter_eq_of_nodup {α κ : Type} [DecidableEq κ] {key : α → κ} {xs : List α}
    (h : (xs.map key).Nodup) {x : α} (hx : x ∈ xs) :
    xs.filter (fun y => key y = key x) = [x] := by
  induction xs with
  | nil => cases hx
  | cons y ys ih =>
      rw [List.map_cons, List.nodup_cons] at h
      obtain ⟨hy, hys⟩ := h
      rcases List.mem_cons.1 hx with rfl | hx
      · have hnone : ys.filter (fun z => key z = key x) = [] := by
          refine List.filter_eq_nil_iff.2 fun z hz hsame => hy ?_
          exact List.mem_map.2 ⟨z, hz, of_decide_eq_true hsame⟩
        rw [List.filter_cons_of_pos (by simp), hnone]
      · have hne : key y ≠ key x := fun hsame => hy (hsame ▸ List.mem_map_of_mem hx)
        rw [List.filter_cons_of_neg (by simpa using hne), ih hys hx]

/-- No two terms of files are at one place. -/
theorem nodup_location_termsOf {files : List (Path × List CleanLine)} (h : Paginated files) :
    ((termsOf files).map Term.location).Nodup :=
  List.pairwise_map.2 ((pairwise_apart_termsOf h).imp Location.Apart.ne)

/-- Each term of a workspace is recorded once or reported once. -/
structure Resolved (table : Table) (files : List (Path × List CleanLine)) : Prop where
  /-- The terms of a line are those that occur in it, from left to right. -/
  terms : ∀ file ∈ files, ∀ line ∈ file.2,
    (∀ t, t ∈ Term.ofLine file.1 line ↔ ∃ column, Term.OccursAt line.text column t.text ∧
      t.location = .span file.1 line.number column t.text.length) ∧
    (Term.ofLine file.1 line).Pairwise fun a b => a.location.column < b.location.column
  /-- A term that is a full name is found once under it and is not reported. -/
  recorded : ∀ t ∈ termsOf files, table.defines t.text = true →
    ((build table files).find t.text).count t.location = 1 ∧
      (reports table files).filter (fun r => r.2.location = t.location) = []
  /-- Any other term has one report at its place, and is found nowhere. -/
  reported : ∀ t ∈ termsOf files, table.defines t.text = false →
    (reports table files).filter (fun r => r.2.location = t.location) = [reportOn t] ∧
      ∀ n, t.location ∉ (build table files).find n
  /-- The report gives the term back. -/
  recovered : ∀ t ∈ termsOf files, (reportOn t).2.invalidTerm? = some t.text
  /-- There are no other reports, and they are made file by file. -/
  inOrder : reports table files = files.flatMap fun file =>
    ((Term.ofLines file.1 file.2).filter fun t => !table.defines t.text).map reportOn
  /-- The terms of a file stand from top to bottom and from left to right. -/
  downwards : ∀ file ∈ files, (Term.ofLines file.1 file.2).Pairwise fun a b =>
    a.location.line < b.location.line ∨
      a.location.line = b.location.line ∧ a.location.column < b.location.column
  /-- Nothing else is recorded. -/
  found : ∀ n l, l ∈ (build table files).find n ↔
    table.defines n = true ∧ ∃ t ∈ termsOf files, t.text = n ∧ t.location = l
  /-- Every term is counted, once. -/
  total : (build table files).size + (reports table files).length = (termsOf files).length
  /-- Nothing is found under what is no full name. -/
  undefined : ∀ n, table.defines n = false → (build table files).find n = []
  /-- What is found stands in order of files, lines and columns. -/
  increasing : ∀ n, ((build table files).find n).Pairwise Location.Before

section Resolving

variable {table : Table} {files : List (Path × List CleanLine)}

/-- What is found under a name. -/
theorem mem_find_build {n : Text} {l : Location} :
    l ∈ (build table files).find n ↔
      table.contains n = true ∧ ∃ t ∈ termsOf files, t.text = n ∧ t.location = l := by
  rw [find_build, mem_sortBy, List.mem_map]
  simp only [defined, List.mem_filter, decide_eq_true_eq]
  constructor
  · rintro ⟨t, ⟨⟨ht, hcontains⟩, rfl⟩, hl⟩
    exact ⟨hcontains, t, ht, rfl, hl⟩
  · rintro ⟨hcontains, t, ht, rfl, hl⟩
    exact ⟨t, ⟨⟨ht, hcontains⟩, rfl⟩, hl⟩

/-- What is found under a name stands in order. -/
theorem pairwise_before_find (hfiles : Paginated files) (n : Text) :
    ((build table files).find n).Pairwise Location.Before := by
  rw [find_build]
  refine Location.pairwise_before_sortBy (List.pairwise_map.2 ?_)
  exact ((pairwise_apart_termsOf hfiles).filter _).filter _

/-- The reports at the place of a term. -/
theorem filter_reports (hfiles : Paginated files) {t : Term} (ht : t ∈ termsOf files) :
    (reports table files).filter (fun r => r.2.location = t.location)
      = if table.contains t.text then [] else [reportOn t] := by
  -- Of all terms one has the place, and it is reported or not.
  have hone := filter_eq_of_nodup (nodup_location_termsOf hfiles) ht
  rw [reports_eq_map, List.filter_map, List.filter_filter]
  have hswap : (termsOf files).filter (fun u =>
      ((fun r : Path × Diagnostic => decide (r.2.location = t.location)) ∘ reportOn) u
        && !table.contains u.text)
      = ((termsOf files).filter fun u => u.location = t.location).filter
          fun u => !table.contains u.text := by
    rw [List.filter_filter]
    exact List.filter_congr fun u _ => Bool.and_comm _ _
  rw [hswap, hone]
  cases hcontains : table.contains t.text <;> simp [hcontains]

/-- The terms of a workspace are parted into those that are recorded under
their names and those that are reported. -/
theorem resolved_build (outlines : List Outline) (table : Table)
    (hbuild : Table.build outlines = .ok table) (files : List (Path × List CleanLine))
    (hfiles : Paginated files) : Resolved table files := by
  have hdefines := (Table.indexed_build hbuild).contains_eq_defines
  refine ⟨fun file _ line _ => ⟨fun t => Term.mem_ofLine_iff, Term.pairwise_ofLine _ _⟩,
    fun t ht hdefined => ⟨?_, ?_⟩, fun t ht hundefined => ⟨?_, fun n hn => ?_⟩,
    fun t _ => invalidTerm?_reportOn t, ?_, fun file hfile => ?_, fun n l => ?_, ?_,
    fun n hundefined => ?_, pairwise_before_find hfiles⟩
  · have hmem := mem_find_build.2 ⟨(hdefines t.text).trans hdefined, t, ht, rfl, rfl⟩
    have hnodup : ((build table files).find t.text).Nodup :=
      (pairwise_before_find hfiles t.text).imp Location.Before.ne
    exact List.count_eq_one_of_mem hnodup hmem
  · rw [filter_reports hfiles ht, hdefines, if_pos hdefined]
  · rw [filter_reports hfiles ht, hdefines, if_neg (by simp [hundefined])]
  · obtain ⟨hcontains, u, hu, rfl, hsame⟩ := mem_find_build.1 hn
    obtain rfl : u = t := by
      have hone := filter_eq_of_nodup (nodup_location_termsOf hfiles) ht
      exact List.mem_singleton.1 (hone ▸ List.mem_filter.2 ⟨hu, by simpa using hsame⟩)
    rw [hdefines, hundefined] at hcontains
    cases hcontains
  · rw [reports_eq_map, termsOf, List.filter_flatMap, List.map_flatMap]
    simp only [hdefines]
  · obtain ⟨texts, htexts⟩ := hfiles.numbered file hfile
    rw [htexts]
    exact Term.pairwise_ofLines file.1 1 texts
  · rw [mem_find_build, hdefines]
  · rw [size_build, reports_eq_map, List.length_map, defined, ← List.countP_eq_length_filter,
      ← List.countP_eq_length_filter]
    simpa using (List.length_eq_countP_add_countP (l := termsOf files)
      fun t => table.contains t.text).symm
  · refine List.eq_nil_iff_forall_not_mem.2 fun l hl => ?_
    rw [mem_find_build, hdefines, hundefined] at hl
    exact Bool.noConfusion hl.1

/-- Two files with references, of which some resolve. -/
def usingPages : List (Path × List CleanLine) :=
  [(.parse "/ws/z.mql", Comment.cleanLines "CREATE TAG T(?Shop.Price, ??Shop.Cost);"),
    (.parse "/ws/y.mql", Comment.cleanLines "// ?Shop\n? ;?Shop?Shop.Price")]

/-- Of the four terms of two files three are recorded and one is reported. -/
theorem resolved_build_usingPages :
    Paginated usingPages ∧ ∃ table, Table.build (outlinesOf Table.aliasSources) = .ok table ∧
      ((build table usingPages).size, (reports table usingPages).length) = (3, 1) ∧
        Resolved table usingPages := by
  have hfiles : Paginated usingPages := by
    refine ⟨by decide +kernel, fun file hfile => ?_⟩
    rcases List.mem_cons.1 hfile with rfl | hfile
    · exact ⟨_, rfl⟩
    · exact List.mem_singleton.1 hfile ▸ ⟨_, rfl⟩
  have hfacts : (Table.build (outlinesOf Table.aliasSources)).toOption.map (fun table =>
      ((build table usingPages).size, (reports table usingPages).length)) = some (3, 1) := by
    decide +kernel
  obtain ⟨table, hbuild, hsizes⟩ := exists_ok_of_toOption hfacts
  exact ⟨hfiles, table, hbuild, hsizes, resolved_build _ table hbuild usingPages hfiles⟩

end Resolving

end ReferenceIndex

end DefIndex
