import DefIndex.Proofs.Arena
import DefIndex.Proofs.Problems
import DefIndex.Proofs.Provenance

/-!
# `DefIndex.Proofs.Loading`: the order of reading does not matter

The files of a workspace are read at the same time, and the reads end in any
order. This file proves that nobody can tell in which: what is loaded is put
in order of the paths, and every stage behind it makes an order of its own.

* `sortBy_eq_of_perm` is what all of them rest on: sorting forgets the order
  of a list if no two of its members share a place.
* `Table.build_perm` and `ReferenceIndex.build_perm` are the stages, and
  `Snapshot.Agrees` says that two snapshots hold the same. References are
  kept in a search tree whose shape remembers how it grew, so they are
  compared by what can be found and listed.
* `Loaded.ofReads_perm` is loading. `Snapshot.Covers` says that each file of
  the reads is in its place in the snapshot, and that a file that could not
  be read leaves nothing behind but the failure.
* `Snapshot.build_anyOrder` puts these together.

What a file holds is the same whenever it is read: the reads come with their
results, and only their order is free.
-/

set_option autoImplicit false

namespace DefIndex

/-! ### Sorting forgets the order -/

/-- Lists with the same members are sorted to the same list, unless two of
the members come before each other. -/
theorem sortBy_eq_of_perm {α : Type} {le : α → α → Bool}
    (total : ∀ a b, le a b = true ∨ le b a = true)
    (trans : ∀ a b c, le a b = true → le b c = true → le a c = true) {xs ys : List α}
    (antisymm : ∀ a ∈ xs, ∀ b ∈ xs, le a b = true → le b a = true → a = b) (h : xs.Perm ys) :
    sortBy le xs = sortBy le ys := by
  have hperm := (sortBy_perm le xs).trans (h.trans (sortBy_perm le ys).symm)
  refine hperm.eq_of_pairwise ?_ (pairwise_sortBy total trans xs) (pairwise_sortBy total trans ys)
  intro a b ha hb hab hba
  exact antisymm a (mem_sortBy.1 ha) b (h.mem_iff.2 (mem_sortBy.1 hb)) hab hba

/-- What has its own path is put in order of the paths in one way only. -/
theorem sortBy_path_eq_of_perm {α : Type} {path : α → Path} {xs ys : List α}
    (hdistinct : (xs.map path).Nodup) (h : xs.Perm ys) :
    sortBy (fun a b => (path a).le (path b)) xs
      = sortBy (fun a b => (path a).le (path b)) ys := by
  refine sortBy_eq_of_perm (fun a b => Path.le_total (path a) (path b))
    (fun _ _ _ hab hbc => Path.le_trans hab hbc) ?_ h
  intro a ha b hb hab hba
  exact List.inj_on_of_nodup_map hdistinct ha hb (Path.le_antisymm hab hba)

/-! ### The stages -/

/-- A table does not depend on the order of the outlines. -/
theorem Table.build_perm {outlines others : List Outline}
    (hdistinct : (outlines.map Outline.file).Nodup) (h : outlines.Perm others) :
    Table.build outlines = Table.build others := by
  have hordered : inOrder outlines = inOrder others := sortBy_path_eq_of_perm hdistinct h
  rw [Table.build, Table.build, hordered]

/-- Of two locations in order the files are in order. -/
theorem Location.file_le_of_le {a b : Location} (h : a.le b = true) : a.file.le b.file = true := by
  rw [Location.le] at h
  rw [Path.le]
  cases hfile : compare a.file b.file with
  | lt => rfl
  | eq => rfl
  | gt =>
      rw [hfile] at h
      cases h

/-- Locations that come before each other start at one place. -/
theorem Location.place_eq_of_le {a b : Location} (hab : a.le b = true) (hba : b.le a = true) :
    a.file = b.file ∧ a.line = b.line ∧ a.column = b.column := by
  have hfile : a.file = b.file := Path.le_antisymm (file_le_of_le hab) (file_le_of_le hba)
  have hsame : compare b.file b.file = .eq := Std.compare_eq_iff_eq.2 rfl
  rw [le_iff] at hab hba
  rw [hfile, hsame] at hab hba
  simp only [reduceCtorEq, true_and, false_or] at hab hba
  exact ⟨hfile, by omega, by omega⟩

namespace ReferenceIndex

variable {files others : List (Path × List CleanLine)}

/-- The location of a term spans its text. -/
theorem location_of_mem_termsOf {t : Term} (ht : t ∈ termsOf files) :
    t.location
      = .span t.location.file t.location.line t.location.column t.text.length := by
  obtain ⟨file, -, ht⟩ := List.mem_flatMap.1 ht
  obtain ⟨line, -, ht⟩ := List.mem_flatMap.1 ht
  obtain ⟨column, -, hlocation⟩ := Term.mem_ofLine_iff.1 ht
  rw [hlocation]
  rfl

/-- What is found under a name does not depend on the order of the files. -/
theorem find_build_perm (table : Table) (h : files.Perm others) (n : Text) :
    (build table files).find n = (build table others).find n := by
  have hterms : ((defined table files).filter fun t => t.text = n).Perm
      ((defined table others).filter fun t => t.text = n) :=
    ((h.flatMap_right _).filter _).filter _
  rw [find_build, find_build]
  refine sortBy_eq_of_perm Location.le_total (fun _ _ _ => Location.le_trans) ?_
    (hterms.map Term.location)
  intro a ha b hb hab hba
  obtain ⟨t, ht, rfl⟩ := List.mem_map.1 ha
  obtain ⟨u, hu, rfl⟩ := List.mem_map.1 hb
  obtain ⟨ht, htext⟩ := List.mem_filter.1 ht
  obtain ⟨hu, hutext⟩ := List.mem_filter.1 hu
  -- Both span the name, so they are one if they start at one place.
  obtain ⟨hfile, hline, hcolumn⟩ := Location.place_eq_of_le hab hba
  have htname : t.text = n := of_decide_eq_true htext
  have huname : u.text = n := of_decide_eq_true hutext
  rw [location_of_mem_termsOf (List.mem_filter.1 ht).1,
    location_of_mem_termsOf (List.mem_filter.1 hu).1, hfile, hline, hcolumn, htname, huname]

/-- What an index lists does not depend on the order of the files. -/
theorem toList_build_perm (table : Table) (h : files.Perm others) :
    (build table files).toList = (build table others).toList := by
  refine Std.TreeMap.Equiv.toList_eq (Std.TreeMap.Equiv.of_forall_constGet?_eq fun n => ?_)
  have hnames : n ∈ (build table files).byName ↔ n ∈ (build table others).byName := by
    have hmem {files : List (Path × List CleanLine)} :
        n ∈ (build table files).byName ↔ n ∈ (defined table files).map Term.text := by
      rw [build, sort, Std.TreeMap.mem_map, mem_foldl_add]
      simp [empty, defined]
    rw [hmem, hmem]
    exact (((h.flatMap_right _).filter _).map _).mem_iff
  have hfound {index : ReferenceIndex} (hname : n ∈ index.byName) :
      index.byName[n]? = some (index.find n) := Std.TreeMap.getElem?_eq_some_getD hname
  by_cases hname : n ∈ (build table files).byName
  · rw [hfound hname, hfound (hnames.1 hname), find_build_perm table h n]
  · rw [Std.TreeMap.getElem?_eq_none hname, Std.TreeMap.getElem?_eq_none (hnames.not.1 hname)]

end ReferenceIndex

/-- Of elements with different keys the same one has a key, however they are
arranged. -/
theorem filter_key_eq_of_perm {α κ : Type} [DecidableEq κ] {key : α → κ} {xs ys : List α}
    (hdistinct : (xs.map key).Nodup) (h : xs.Perm ys) (k : κ) :
    xs.filter (fun x => key x = k) = ys.filter fun x => key x = k := by
  by_cases hx : ∃ x ∈ xs, key x = k
  · obtain ⟨x, hx, rfl⟩ := hx
    rw [ReferenceIndex.filter_eq_of_nodup hdistinct hx,
      ReferenceIndex.filter_eq_of_nodup ((h.map key).nodup_iff.1 hdistinct) (h.mem_iff.1 hx)]
  · have hnone {zs : List α} (hz : ∀ z ∈ zs, z ∈ xs) : zs.filter (fun x => key x = k) = [] := by
      refine List.filter_eq_nil_iff.2 ?_
      intro z hmem hkey
      exact hx ⟨z, hz z hmem, of_decide_eq_true hkey⟩
    rw [hnone fun z hz => hz, hnone fun z hz => h.mem_iff.2 hz]

namespace Snapshot

/-- Two snapshots that hold the same. -/
structure Agrees (s s' : Snapshot) : Prop where
  version : s.version = s'.version
  table : s.table = s'.table
  /-- The same references are found under every name. -/
  references : ∀ name, s.references.find name = s'.references.find name
  /-- The same names are listed with their references. -/
  listed : s.references.toList = s'.references.toList
  diagnostics : s.diagnostics = s'.diagnostics
  failures : s.readFailures = s'.readFailures

/-- Building fails with the same cycle, or gives snapshots that hold the
same. -/
def SameOutcome : Except ImportCycle Snapshot → Except ImportCycle Snapshot → Prop
  | .error c, .error c' => c = c'
  | .ok s, .ok s' => s.Agrees s'
  | _, _ => False

/-- The problems of a file do not depend on the order of the outlines. -/
theorem problemsOf_eq_of_perm {outlines others : List Outline}
    (hdistinct : (outlines.map Outline.file).Nodup) (h : outlines.Perm others) (table : Table)
    (file : Path) : problemsOf table outlines file = problemsOf table others file := by
  rw [problemsOf, problemsOf, outlineAt?_perm hdistinct h, filter_key_eq_of_perm hdistinct h]

/-- A snapshot does not depend on the order of the outlines. -/
theorem sameOutcome_of_perm (version limit : Nat) (failures : List ReadFailure)
    {outlines others : List Outline} (hdistinct : (outlines.map Outline.file).Nodup)
    (h : outlines.Perm others) :
    SameOutcome (Snapshot.build version outlines failures limit)
      (Snapshot.build version others failures limit) := by
  have hfiles := h.map fun o => (o.file, o.lines)
  simp only [Snapshot.build, Table.build_perm hdistinct h]
  cases Table.build others with
  | error c => exact rfl
  | ok table =>
      refine ⟨rfl, rfl, ReferenceIndex.find_build_perm table hfiles,
        ReferenceIndex.toList_build_perm table hfiles, ?_, rfl⟩
      show table.files.map _ = table.files.map _
      simp only [problemsOf_eq_of_perm hdistinct h]

end Snapshot

/-! ### Loading -/

namespace Loaded

/-- The files that could be read, with their texts. -/
def texts (reads : List (Path × Except Text Text)) : List (Path × Text) :=
  reads.filterMap fun
    | (p, .ok text) => some (p, text)
    | (_, .error _) => none

/-- The files that could not be read, with the reasons. -/
def failed (reads : List (Path × Except Text Text)) : List ReadFailure :=
  reads.filterMap fun
    | (_, .ok _) => none
    | (p, .error message) => some ⟨p, message⟩

variable {reads reads' : List (Path × Except Text Text)}

/-- Loading reads the texts and puts everything in order. -/
theorem ofReads_eq (reads : List (Path × Except Text Text)) :
    ofReads reads = ⟨Table.inOrder (outlinesOf (texts reads)),
      sortBy (fun a b => Path.le a.file b.file) (failed reads)⟩ := by
  rw [ofReads, outlinesOf, texts, List.map_filterMap]
  congr 3
  funext read
  obtain ⟨p, text | message⟩ := read <;> rfl

/-- What is loaded is the outlines of the texts, in another order. -/
theorem outlines_perm (reads : List (Path × Except Text Text)) :
    (ofReads reads).outlines.Perm (outlinesOf (texts reads)) := by
  rw [ofReads_eq]
  exact Table.inOrder_perm _

/-- Every file that is tried is read, or it fails. -/
theorem paths_perm (reads : List (Path × Except Text Text)) :
    ((texts reads).map Prod.fst ++ (failed reads).map ReadFailure.file).Perm
      (reads.map Prod.fst) := by
  induction reads with
  | nil => exact List.Perm.refl _
  | cons read reads ih =>
      obtain ⟨p, message | text⟩ := read
      · exact List.perm_middle.trans (ih.cons p)
      · exact ih.cons p

/-- A text that is read belongs to a read. -/
theorem mem_texts_iff {p : Path} {text : Text} :
    (p, text) ∈ texts reads ↔ (p, .ok text) ∈ reads := by
  rw [texts, List.mem_filterMap]
  constructor
  · rintro ⟨⟨q, message | text'⟩, hmem, hread⟩
    · cases hread
    · cases hread
      exact hmem
  · intro hmem
    exact ⟨_, hmem, rfl⟩

/-- A failure belongs to a read. -/
theorem mem_failed_iff {failure : ReadFailure} :
    failure ∈ failed reads ↔ (failure.file, .error failure.message) ∈ reads := by
  rw [failed, List.mem_filterMap]
  constructor
  · rintro ⟨⟨q, message | text⟩, hmem, hread⟩
    · cases hread
      exact hmem
    · cases hread
  · intro hmem
    exact ⟨_, hmem, rfl⟩

/-- Reads of distinct paths in shortest form. -/
structure Distinct (reads : List (Path × Except Text Text)) : Prop where
  normal : ∀ read ∈ reads, read.1.normalize = read.1
  distinct : (reads.map Prod.fst).Nodup

/-- The outlines of what is read have the paths of the texts. -/
theorem Distinct.map_file (h : Distinct reads) :
    (outlinesOf (texts reads)).map Outline.file = (texts reads).map Prod.fst := by
  rw [map_file_outlinesOf]
  refine List.map_congr_left ?_
  rintro ⟨p, text⟩ hmem
  exact h.normal _ (mem_texts_iff.1 hmem)

/-- No path is read twice, none fails twice, and none does both. -/
theorem Distinct.nodup (h : Distinct reads) :
    ((texts reads).map Prod.fst ++ (failed reads).map ReadFailure.file).Nodup :=
  (paths_perm reads).nodup_iff.2 h.distinct

/-- What is loaded does not depend on the order of the reads. -/
theorem ofReads_perm (h : Distinct reads) (hperm : reads'.Perm reads) :
    ofReads reads' = ofReads reads := by
  obtain ⟨htexts, hfailed, -⟩ := List.nodup_append.1 h.nodup
  rw [← h.map_file] at htexts
  have houtlines : (outlinesOf (texts reads)).Perm (outlinesOf (texts reads')) :=
    ((hperm.symm.filterMap _).map _)
  rw [ofReads_eq, ofReads_eq, Table.inOrder, Table.inOrder,
    sortBy_path_eq_of_perm htexts houtlines,
    sortBy_path_eq_of_perm hfailed (hperm.symm.filterMap _)]
  rfl

end Loaded

/-- The path token of an import is located in its file. -/
theorem Outline.file_of_importAt? {file : Path} {event : Nat × Event} {place : Location}
    (h : importAt? file event = some place) : place.file = file := by
  revert h
  fun_cases importAt? file event with
  | case1 line text column terminated token hread => rintro ⟨⟩; rfl
  | case2 => rintro ⟨⟩
  | case3 => rintro ⟨⟩

namespace Snapshot

/-- The snapshot of what is read. -/
def ofReads (version : Nat) (reads : List (Path × Except Text Text)) (limit : Nat) :
    Except ImportCycle Snapshot :=
  Snapshot.build version (Loaded.ofReads reads).outlines (Loaded.ofReads reads).failures limit

/-- Nothing of a file is in a snapshot. -/
structure Lacks (s : Snapshot) (file : Path) : Prop where
  indexed : file ∉ s.table.files
  definitions : ∀ d ∈ s.table.definitions, d.location.file ≠ file
  references : ∀ name, ∀ l ∈ s.references.find name, l.file ≠ file
  covered : s.covers file = false
  diagnostics : ∀ d ∈ s.allDiagnostics, d.location.file ≠ file

/-- Every file of some reads is in its place in a snapshot, and nowhere
else. -/
structure Covers (s : Snapshot) (reads : List (Path × Except Text Text)) : Prop where
  /-- The files that are indexed and those that failed are the files of the
  reads, each of them once. -/
  files : (s.table.files ++ s.readFailures.map ReadFailure.file).Perm (reads.map Prod.fst)
  /-- No file is met twice among them. -/
  once : (s.table.files ++ s.readFailures.map ReadFailure.file).Nodup
  /-- A file whose text was read is indexed. -/
  read : ∀ p text, (p, .ok text) ∈ reads → p ∈ s.table.files
  /-- A file that could not be read is listed with the reason, and nothing
  else of it is there. -/
  failed : ∀ p message, (p, .error message) ∈ reads →
    ⟨p, message⟩ ∈ s.readFailures ∧ s.Lacks p

/-- Every problem of a file is located in the file. -/
theorem file_of_mem_problemsIn {table : Table} {indexed : List Path} {file : Path} {source : Text}
    {d : Diagnostic} (hd : d ∈ problemsIn table indexed file source) :
    d.location.file = file.normalize := by
  simp only [problemsIn, List.mem_append] at hd
  rcases hd with (((hd | hd) | hd) | hd) | hd
  · obtain ⟨t, ht, rfl⟩ := List.mem_map.1 hd
    exact Term.file_of_mem_ofLines (List.mem_filter.1 ht).1
  · obtain ⟨earlier, e, -, hfound⟩ := exists_of_mem_inTurn hd
    obtain ⟨first, -, rfl⟩ := Option.map_eq_some_iff.1 hfound
    rfl
  · obtain ⟨mark, -, rfl⟩ := List.mem_map.1 hd
    rfl
  · obtain ⟨past, event, -, hfound⟩ := exists_of_mem_inTurn hd
    rw [Outline.strayImport?] at hfound
    split at hfound
    · cases hfound
    · obtain ⟨place, hplace, rfl⟩ := Option.map_eq_some_iff.1 hfound
      exact Outline.file_of_importAt? hplace
  · obtain ⟨i, hi, rfl⟩ := List.mem_map.1 hd
    have hread := (Outline.readFrom_read file source).imports i
      (List.mem_append_left _ (List.mem_filter.1 hi).1)
    obtain ⟨line, text, column, terminated, token, -, -, rfl⟩ := hread
    exact Outline.file_read file source

/-- A snapshot holds nothing of a file that is not indexed. -/
theorem lacks_of_notMem {version limit : Nat} {sources : List (Path × Text)}
    {failures : List ReadFailure} {s : Snapshot}
    (hdistinct : ((outlinesOf sources).map Outline.file).Nodup)
    (h : Snapshot.build version (outlinesOf sources) failures limit = .ok s) {file : Path}
    (hfile : file ∉ s.table.files) : s.Lacks file := by
  obtain ⟨table, htable, rfl⟩ := exists_of_build_ok h
  have hfiles := perm_files hdistinct htable
  have houtline {o : Outline} (ho : o ∈ outlinesOf sources) : o.file ≠ file := by
    intro hsame
    refine hfile (hfiles.mem_iff.2 ?_)
    rw [← map_file_outlinesOf, ← hsame]
    exact List.mem_map_of_mem ho
  refine ⟨hfile, ?_, ?_, ?_, ?_⟩
  · intro d hd
    obtain ⟨o, ho, e, -, hinstance, -⟩ := Table.placed_of_mem_definitions hdistinct htable hd
    rw [hinstance.file_eq]
    exact houtline ho
  · intro name l hl
    obtain ⟨-, t, ht, -, rfl⟩ := ReferenceIndex.mem_find_build.1 hl
    obtain ⟨lines, hlines, ht⟩ := List.mem_flatMap.1 ht
    obtain ⟨o, ho, rfl⟩ := List.mem_map.1 hlines
    rw [Term.file_of_mem_ofLines ht]
    exact houtline ho
  · refine (diagnosticsFor_of_forall_ne ?_).1
    intro entry hentry hsame
    obtain ⟨indexed, hindexed, rfl⟩ := List.mem_map.1 hentry
    exact hfile (hsame ▸ hindexed)
  · intro d hd hsame
    obtain ⟨entry, hentry, hd⟩ := List.mem_flatMap.1 hd
    obtain ⟨indexed, hindexed, rfl⟩ := List.mem_map.1 hentry
    obtain ⟨source, hsource, rfl⟩ := List.mem_map.1 (hfiles.mem_iff.1 hindexed)
    have hproblem := mem_sortBy.1 (List.mem_of_mem_take hd)
    rw [(problemsOf_perm hdistinct htable hsource).mem_iff] at hproblem
    rw [← hsame, file_of_mem_problemsIn hproblem] at hfile
    exact hfile hindexed

/-- Of two snapshots that hold the same, both hold nothing of a file or
none. -/
theorem Agrees.lacks {s s' : Snapshot} (h : s.Agrees s') {file : Path} (hlacks : s'.Lacks file) :
    s.Lacks file := by
  obtain ⟨hindexed, hdefinitions, hreferences, hcovered, hdiagnostics⟩ := hlacks
  rw [covers, ← h.diagnostics] at hcovered
  rw [allDiagnostics, ← h.diagnostics] at hdiagnostics
  rw [← h.table] at hindexed hdefinitions
  refine ⟨hindexed, hdefinitions, ?_, hcovered, hdiagnostics⟩
  intro name
  rw [h.references]
  exact hreferences name

/-- A snapshot of reads agrees with the one of their texts in the order in
which they were read. -/
theorem exists_agrees {version limit : Nat} {reads : List (Path × Except Text Text)}
    (hreads : Loaded.Distinct reads) {s : Snapshot}
    (h : Snapshot.ofReads version reads limit = .ok s) :
    ∃ s', Snapshot.build version (outlinesOf (Loaded.texts reads)) (Loaded.ofReads reads).failures
        limit = .ok s' ∧ s.Agrees s' := by
  have htexts := (List.nodup_append.1 hreads.nodup).1
  rw [← hreads.map_file] at htexts
  have hperm := Table.inOrder_perm (outlinesOf (Loaded.texts reads))
  have hsame := sameOutcome_of_perm version limit (Loaded.ofReads reads).failures
    ((hperm.map Outline.file).nodup_iff.2 htexts) hperm
  have hbuilt : Snapshot.build version (Table.inOrder (outlinesOf (Loaded.texts reads)))
      (Loaded.ofReads reads).failures limit = .ok s := by
    rw [← h, ofReads, Loaded.ofReads_eq]
  rw [hbuilt] at hsame
  cases hs' : Snapshot.build version (outlinesOf (Loaded.texts reads))
      (Loaded.ofReads reads).failures limit with
  | error c =>
      rw [hs'] at hsame
      exact hsame.elim
  | ok s' =>
      rw [hs'] at hsame
      exact ⟨s', rfl, hsame⟩

/-- Every file of the reads is in its place. -/
theorem covers_ofReads {version limit : Nat} {reads : List (Path × Except Text Text)}
    (hreads : Loaded.Distinct reads) {s : Snapshot}
    (h : Snapshot.ofReads version reads limit = .ok s) : s.Covers reads := by
  obtain ⟨s', hs', hagrees⟩ := exists_agrees hreads h
  have htexts := (List.nodup_append.1 hreads.nodup).1
  rw [← hreads.map_file] at htexts
  have hfiles : s.table.files.Perm ((Loaded.texts reads).map Prod.fst) := by
    rw [hagrees.table, ← hreads.map_file, map_file_outlinesOf]
    exact perm_files htexts (diagnostics_of_build hs').1
  have hfailures : s.readFailures.Perm (Loaded.failed reads) := by
    obtain ⟨table, -, rfl⟩ := exists_of_build_ok h
    show (Loaded.ofReads reads).failures.Perm _
    rw [Loaded.ofReads_eq]
    exact sortBy_perm _ _
  have hparts := hfiles.append (hfailures.map ReadFailure.file)
  have honce := hparts.nodup_iff.2 hreads.nodup
  refine ⟨hparts.trans (Loaded.paths_perm reads), honce, ?_, ?_⟩
  · intro p text hread
    exact hfiles.mem_iff.2 (List.mem_map_of_mem (f := Prod.fst) (Loaded.mem_texts_iff.2 hread))
  · intro p message hread
    have hlisted : ⟨p, message⟩ ∈ s.readFailures :=
      hfailures.mem_iff.2 (Loaded.mem_failed_iff.2 hread)
    refine ⟨hlisted, hagrees.lacks (lacks_of_notMem htexts hs' ?_)⟩
    rw [← hagrees.table]
    intro hindexed
    exact (List.nodup_append.1 honce).2.2 p hindexed p (List.mem_map_of_mem hlisted) rfl

/-- A file that could not be read has no text. -/
theorem texts_filter_of_failed {reads : List (Path × Except Text Text)}
    (hreads : Loaded.Distinct reads) {p : Path} {message : Text}
    (hread : (p, .error message) ∈ reads) :
    Loaded.texts (reads.filter fun read => read.1 ≠ p) = Loaded.texts reads := by
  rw [Loaded.texts, Loaded.texts, List.filterMap_filter]
  refine List.filterMap_congr ?_
  intro read hmem
  by_cases hp : read.1 = p
  · -- There is no other read of the path.
    obtain rfl : read = (p, .error message) :=
      List.inj_on_of_nodup_map hreads.distinct hmem hread hp
    simp
  · simp [hp]

/-- Other failures do not change the rest of a snapshot. -/
theorem build_withFailures {version limit : Nat} {outlines : List Outline}
    {failures : List ReadFailure} {s : Snapshot}
    (h : Snapshot.build version outlines failures limit = .ok s) (others : List ReadFailure) :
    Snapshot.build version outlines others limit = .ok { s with readFailures := others } := by
  obtain ⟨table, htable, rfl⟩ := exists_of_build_ok h
  simp only [Snapshot.build, htable]
  rfl

/-- What loading and building make of some reads, whichever of them ends
first. -/
structure AnyOrder (version : Nat) (reads : List (Path × Except Text Text)) (limit : Nat) :
    Prop where
  /-- In every order building fails with the same cycle or gives the same
  snapshot. -/
  same : ∀ reads' : List (Path × Except Text Text), reads'.Perm reads →
    ofReads version reads' limit = ofReads version reads limit
  /-- No file is lost, and none is met twice. -/
  covers : ∀ s, ofReads version reads limit = .ok s → s.Covers reads
  /-- Without a file that could not be read everything else is as it is. -/
  without : ∀ s, ofReads version reads limit = .ok s → ∀ p message, (p, .error message) ∈ reads →
    ∃ s', ofReads version (reads.filter fun read => read.1 ≠ p) limit = .ok s' ∧
      s'.table = s.table ∧ s'.references = s.references ∧ s'.diagnostics = s.diagnostics

/-- Neither the order in which the files are read nor the order in which
their outlines are handed over matters for a snapshot. -/
theorem build_anyOrder (version limit : Nat) (reads : List (Path × Except Text Text))
    (hreads : Loaded.Distinct reads) (failures : List ReadFailure) (outlines others : List Outline)
    (hdistinct : (outlines.map Outline.file).Nodup) (hperm : outlines.Perm others) :
    AnyOrder version reads limit ∧
      SameOutcome (Snapshot.build version outlines failures limit)
        (Snapshot.build version others failures limit) := by
  refine ⟨⟨?_, ?_, ?_⟩, sameOutcome_of_perm version limit failures hdistinct hperm⟩
  · intro reads' hreads'
    rw [ofReads, ofReads, Loaded.ofReads_perm hreads hreads']
  · intro s hs
    exact covers_ofReads hreads hs
  · intro s hs p message hread
    have houtlines : (Loaded.ofReads (reads.filter fun read => read.1 ≠ p)).outlines
        = (Loaded.ofReads reads).outlines := by
      rw [Loaded.ofReads_eq, Loaded.ofReads_eq, texts_filter_of_failed hreads hread]
    let failures' := (Loaded.ofReads (reads.filter fun read => read.1 ≠ p)).failures
    refine ⟨{ s with readFailures := failures' }, ?_, rfl, rfl, rfl⟩
    rw [ofReads, houtlines]
    exact build_withFailures hs failures'

/-- Three files of which one could not be read, and one imports it. -/
def brokenReads : List (Path × Except Text Text) :=
  [(.parse "/ws/c.mql", .ok "CREATE TAG C; ?A.C"),
    (.parse "/ws/b.mql", .error "denied"),
    (.parse "/ws/a.mql", .ok "CREATE BASE A \x7b IMPORT c; IMPORT b \x7d\n?A.B")]

/-- The two files that could be read give four definitions, and the third one
is listed. The order of the two files of `brokenSources` does not matter. -/
theorem build_anyOrder_brokenReads :
    (ofReads 1 brokenReads 10).toOption.map (fun s =>
        (s.table.definitions.length, s.readFailures.length)) = some (4, 1) ∧
      AnyOrder 1 brokenReads 10 ∧
      SameOutcome (Snapshot.build 1 (outlinesOf brokenSources) [] 10)
        (Snapshot.build 1 (outlinesOf brokenSources).reverse [] 10) := by
  have hreads : Loaded.Distinct brokenReads := ⟨by decide +kernel, by decide +kernel⟩
  have hdistinct : ((outlinesOf brokenSources).map Outline.file).Nodup := by
    rw [map_file_outlinesOf]
    decide +kernel
  refine ⟨by decide +kernel, ?_⟩
  exact build_anyOrder 1 10 brokenReads hreads [] _ _ hdistinct (List.reverse_perm _).symm

end Snapshot

end DefIndex
