import DefIndex.CommandLine
import DefIndex.Proofs.Fixes
import DefIndex.Proofs.Loading

/-!
# `DefIndex.Proofs.Verdict`: what a check ends with

The command `check` ends with 1 if the snapshot lists an error, and with 0
otherwise. Errors are the reports on invalid terms. A snapshot keeps the
first problems of a file in order of position, warnings among them, so the
verdict rests on what stands in front of the errors: a term that is invalid
goes unnoticed if the problems in front of it take every place.

* `pairwise_sortBy_tied` says that sorting leaves ties as they stood. The
  warnings of a file are found before its errors, so a warning stays in
  front of an error at the same place.
* `Diagnostic.Ahead` spells this order out, and
  `Diagnostic.exists_error_take_iff` counts: the front of a list has an
  error exactly if some error has few enough reports ahead of it.
* `Snapshot.count_error_pos_iff` carries this over to a snapshot.
* `CommandLine.verdict_run` is the statement about the command. The cut
  does not matter where no file has more problems than are kept.
-/

set_option autoImplicit false

namespace DefIndex

/-! ### Ties -/

section Ties

variable {α : Type} {le : α → α → Bool} {tie : α → α → Prop}
  (total : ∀ a b, le a b = true ∨ le b a = true)
  (trans : ∀ a b c, le a b = true → le b c = true → le a c = true)

include total trans

/-- An element that was in front of a sorted list is in front of its ties
after it is inserted. -/
theorem pairwise_insertBy_tied {x : α} {xs : List α}
    (hx : ∀ y ∈ xs, le y x = true → tie x y)
    (h : xs.Pairwise fun a b => le a b = true ∧ (le b a = true → tie a b)) :
    (insertBy le x xs).Pairwise fun a b => le a b = true ∧ (le b a = true → tie a b) := by
  induction xs with
  | nil => simp [insertBy]
  | cons y ys ih =>
      rw [List.pairwise_cons] at h
      by_cases hxy : le x y = true
      · rw [insertBy, if_pos hxy]
        refine List.pairwise_cons.2 ⟨?_, List.pairwise_cons.2 h⟩
        intro b hb
        have hle : le x b = true := by
          rcases List.mem_cons.1 hb with rfl | hys
          · exact hxy
          · exact trans _ _ _ hxy (h.1 b hys).1
        exact ⟨hle, hx b hb⟩
      · rw [insertBy, if_neg hxy]
        refine List.pairwise_cons.2 ⟨?_, ih (fun b hb => hx b (List.mem_cons_of_mem _ hb)) h.2⟩
        intro b hb
        rcases List.mem_cons.1 ((insertBy_perm le x ys).mem_iff.1 hb) with rfl | hb
        · -- No tie: the new element is behind this one.
          exact ⟨(total b y).resolve_left hxy, fun hby => absurd hby hxy⟩
        · exact h.1 b hb

/-- Sorting is stable: what held between two elements where they stood holds
between them afterwards if they share a place. -/
theorem pairwise_sortBy_tied {xs : List α}
    (h : xs.Pairwise fun a b => le b a = true → tie a b) :
    (sortBy le xs).Pairwise fun a b => le a b = true ∧ (le b a = true → tie a b) := by
  induction xs with
  | nil => exact List.Pairwise.nil
  | cons x xs ih =>
      rw [List.pairwise_cons] at h
      refine pairwise_insertBy_tied total trans ?_ (ih h.2)
      intro y hy
      exact h.1 y (mem_sortBy.1 hy)

end Ties

/-! ### The front of a list of problems -/

namespace Diagnostic

/-- One report is listed ahead of another one that is an error: it is further
up or to the left, or it is a warning at the same place. -/
def Ahead (e d : Diagnostic) : Prop :=
  e.location.line < d.location.line ∨ e.location.line = d.location.line ∧
    (e.location.column < d.location.column ∨
      e.location.column = d.location.column ∧ e.severity = .warning)

instance (e d : Diagnostic) : Decidable (e.Ahead d) := inferInstanceAs (Decidable (_ ∨ _))

/-- How many problems of a list are listed ahead of an error. -/
def countAhead (ds : List Diagnostic) (d : Diagnostic) : Nat := ds.countP fun e => e.Ahead d

/-- Problems as they are listed: in order, and at one place the warnings
first. -/
def Listed (ds : List Diagnostic) : Prop :=
  ds.Pairwise fun a b => a.le b = true ∧
    (b.le a = true → a.severity = .error → b.severity = .error)

/-- Warnings and the errors found after them are listed as they should be. -/
theorem listed_sortBy {warnings errors : List Diagnostic}
    (hwarnings : ∀ w ∈ warnings, w.severity = .warning)
    (herrors : ∀ e ∈ errors, e.severity = .error) : Listed (sortBy le (warnings ++ errors)) := by
  refine pairwise_sortBy_tied le_total le_trans (List.pairwise_append.2 ⟨?_, ?_, ?_⟩)
  · refine List.pairwise_of_forall_mem_list ?_
    intro a ha b _ _ herror
    rw [hwarnings a ha] at herror
    cases herror
  · refine List.pairwise_of_forall_mem_list ?_
    intro a _ b hb _ _
    exact herrors b hb
  · intro a _ b hb _ _
    exact herrors b hb

/-- What is listed in front of an error, and is no error itself, is ahead of
it. -/
theorem ahead_of_le {e d : Diagnostic} (hle : e.le d = true) (hwarning : e.severity ≠ .error) :
    e.Ahead d := by
  have hseverity : e.severity = .warning := by
    cases hkind : e.severity with
    | error => exact absurd hkind hwarning
    | warning => rfl
  rw [le_iff] at hle
  simp only [Ahead, hseverity, and_true]
  omega

/-- Nothing that is listed behind an error is ahead of it. -/
theorem not_ahead_of_le {e d : Diagnostic} (hle : d.le e = true)
    (htie : e.le d = true → e.severity = .error) : ¬ e.Ahead d := by
  intro hahead
  rw [le_iff] at hle htie
  rcases hahead with hline | ⟨hline, hcolumn | ⟨hcolumn, hwarning⟩⟩
  · omega
  · omega
  · have herror := htie (Or.inr ⟨hline, Nat.le_of_eq hcolumn⟩)
    rw [hwarning] at herror
    cases herror

/-- An error is not ahead of itself. -/
theorem not_ahead_self {d : Diagnostic} (herror : d.severity = .error) : ¬ d.Ahead d :=
  not_ahead_of_le (by simp [le_iff]) fun _ => herror

/-- The order in which problems stand does not matter for how many of them are
ahead of an error. -/
theorem countAhead_perm {ds es : List Diagnostic} (h : ds.Perm es) (d : Diagnostic) :
    countAhead ds d = countAhead es d :=
  h.countP_eq _

/-- Not all problems of a list are ahead of one of its errors. -/
theorem countAhead_lt_length {ds : List Diagnostic} {d : Diagnostic} (hd : d ∈ ds)
    (herror : d.severity = .error) : countAhead ds d < ds.length := by
  rw [countAhead, List.countP_lt_length_iff]
  exact ⟨d, hd, decide_eq_false (not_ahead_self herror)⟩

section Front

variable {ds : List Diagnostic} (hlisted : Listed ds)

include hlisted

/-- At most the problems in front of an error are ahead of it. -/
theorem countAhead_getElem_le {i : Nat} (hi : i < ds.length) (herror : ds[i].severity = .error) :
    countAhead ds ds[i] ≤ i := by
  let isAhead (e : Diagnostic) : Bool := decide (e.Ahead ds[i])
  -- From the error on nothing is ahead of it.
  have hnone : (ds.drop i).countP isAhead = 0 := by
    rw [List.countP_eq_zero]
    intro e he
    rw [decide_eq_true_eq]
    have hpairs := hlisted.drop (i := i)
    rw [List.drop_eq_getElem_cons hi] at he hpairs
    rcases List.mem_cons.1 he with rfl | he
    · exact not_ahead_self herror
    · obtain ⟨hle, htie⟩ := (List.pairwise_cons.1 hpairs).1 e he
      exact not_ahead_of_le hle fun hback => htie hback herror
  calc countAhead ds ds[i]
      = (ds.take i).countP isAhead + (ds.drop i).countP isAhead := by
        rw [← List.countP_append, List.take_append_drop]
        rfl
    _ = (ds.take i).countP isAhead := by rw [hnone, Nat.add_zero]
    _ ≤ (ds.take i).length := List.countP_le_length
    _ ≤ i := List.length_take_le i ds

/-- If the front of a list has no error, all of it is ahead of every error. -/
theorem le_countAhead_of_take {limit : Nat} (hnone : ∀ e ∈ ds.take limit, e.severity ≠ .error)
    {d : Diagnostic} (hd : d ∈ ds) (herror : d.severity = .error) : limit ≤ countAhead ds d := by
  have hdrop : d ∈ ds.drop limit := by
    rw [← List.take_append_drop limit ds, List.mem_append] at hd
    exact hd.resolve_left fun hfront => hnone d hfront herror
  have hahead : ∀ e ∈ ds.take limit, decide (e.Ahead d) = true := by
    intro e he
    have hpairs := hlisted
    rw [← List.take_append_drop limit ds] at hpairs
    have hle := ((List.pairwise_append.1 hpairs).2.2 e he d hdrop).1
    exact decide_eq_true (ahead_of_le hle (hnone e he))
  have hlong : limit ≤ ds.length := by
    have hpositive := List.length_pos_of_mem hdrop
    rw [List.length_drop] at hpositive
    omega
  calc limit = (ds.take limit).length := (List.length_take_of_le hlong).symm
    _ = (ds.take limit).countP fun e => decide (e.Ahead d) := (List.countP_eq_length.2 hahead).symm
    _ ≤ countAhead ds d := (List.take_sublist limit ds).countP_le

/-- The front of a list of problems has an error exactly if some error of the
list has few enough problems ahead of it. -/
theorem exists_error_take_iff (limit : Nat) :
    (∃ d ∈ ds.take limit, d.severity = .error)
      ↔ ∃ d ∈ ds, d.severity = .error ∧ countAhead ds d < limit := by
  constructor
  · rintro ⟨d, hd, herror⟩
    obtain ⟨i, hi, rfl⟩ := List.mem_take_iff_getElem.1 hd
    have hcount := countAhead_getElem_le hlisted (by omega) herror
    exact ⟨_, List.mem_of_mem_take hd, herror, by omega⟩
  · rintro ⟨d, hd, herror, hcount⟩
    by_contra hnone
    have hfull := le_countAhead_of_take hlisted
      (fun e he hfound => hnone ⟨e, he, hfound⟩) hd herror
    omega

end Front

end Diagnostic

/-! ### Invalid terms -/

/-- The report on a term that is no full name. -/
def Term.report (t : Term) : Diagnostic := (Problem.unresolved t.text).reportAt t.location

/-- A term that stands in one of the texts of a workspace, comments left out,
and is no full name. -/
structure Table.Invalid (table : Table) (texts : List (Path × Text)) (t : Term) : Prop where
  found : ∃ source ∈ texts, t ∈ Term.ofLines source.1.normalize (Comment.cleanLines source.2)
  undefined : table.defines t.text = false

namespace Snapshot

section Errors

variable {table : Table} {texts : List (Path × Text)} {outlines : List Outline}
  (houtlines : outlines.Perm (outlinesOf texts))

include houtlines

/-- The problems of a file are listed as they should be. -/
theorem listed_problemsOf (file : Path) :
    Diagnostic.Listed (sortBy Diagnostic.le (problemsOf table outlines file)) := by
  refine Diagnostic.listed_sortBy ?_ ?_
  · intro w hw
    exact severity_of_mem_found (fun o => houtlines.mem_iff.1) hw
  · intro e he
    obtain ⟨o, -, he⟩ := List.mem_flatMap.1 he
    obtain ⟨t, -, rfl⟩ := List.mem_map.1 he
    rfl

/-- The errors among the problems of the files are the reports on invalid
terms. -/
theorem error_mem_problemsOf_iff (htable : Table.build outlines = .ok table) {file : Path}
    {d : Diagnostic} :
    d ∈ problemsOf table outlines file ∧ d.severity = .error
      ↔ ∃ t, table.Invalid texts t ∧ t.location.file = file ∧ d = t.report := by
  have hcontains := (Table.indexed_build htable).contains_eq_defines
  constructor
  · rintro ⟨hd, herror⟩
    obtain ⟨source, hsource, hpath, t, ht, hundefined, hreport⟩ :=
      exists_term_of_mem_problemsOf (fun o => houtlines.mem_iff.1) hd herror
    refine ⟨t, ⟨⟨source, hsource, hpath ▸ ht⟩, ?_⟩, Term.file_of_mem_ofLines ht, hreport⟩
    rw [← hcontains]
    exact hundefined
  · rintro ⟨t, ⟨⟨source, hsource, ht⟩, hundefined⟩, hfile, hreport⟩
    rw [Term.file_of_mem_ofLines ht] at hfile
    rw [← hcontains] at hundefined
    subst hfile hreport
    have hmem := houtlines.mem_iff.2 (List.mem_map_of_mem hsource)
    refine ⟨List.mem_append_right _ ?_, rfl⟩
    refine List.mem_flatMap.2 ⟨Outline.read source.1 source.2, List.mem_filter.2 ⟨hmem, ?_⟩, ?_⟩
    · exact decide_eq_true (Outline.file_read source.1 source.2)
    · refine List.mem_map.2 ⟨t, List.mem_filter.2 ⟨ht, ?_⟩, rfl⟩
      rw [hundefined]
      rfl

/-- An invalid term belongs to an indexed file. -/
theorem mem_files_of_invalid (htable : Table.build outlines = .ok table) {t : Term}
    (ht : table.Invalid texts t) : t.location.file ∈ table.files := by
  obtain ⟨⟨source, hsource, ht⟩, -⟩ := ht
  rw [Term.file_of_mem_ofLines ht, ← Outline.file_read source.1 source.2]
  exact Table.mem_files_of_mem htable (houtlines.mem_iff.2 (List.mem_map_of_mem hsource))

/-- A file lists an error exactly if the problems ahead of one of its invalid
terms leave a place for the report on it. -/
theorem exists_error_sortAndCap_iff (htable : Table.build outlines = .ok table) (limit : Nat)
    (file : Path) :
    (∃ d ∈ Diagnostic.sortAndCap limit (problemsOf table outlines file), d.severity = .error)
      ↔ ∃ t, table.Invalid texts t ∧ t.location.file = file ∧
        Diagnostic.countAhead (problemsOf table outlines file) t.report < limit := by
  have hperm := sortBy_perm Diagnostic.le (problemsOf table outlines file)
  rw [Diagnostic.sortAndCap, Diagnostic.exists_error_take_iff (listed_problemsOf houtlines file)]
  constructor
  · rintro ⟨d, hd, herror, hcount⟩
    rw [Diagnostic.countAhead_perm hperm] at hcount
    obtain ⟨t, ht, hpath, rfl⟩ :=
      (error_mem_problemsOf_iff houtlines htable).1 ⟨mem_sortBy.1 hd, herror⟩
    exact ⟨t, ht, hpath, hcount⟩
  · rintro ⟨t, ht, hpath, hcount⟩
    obtain ⟨hd, herror⟩ := (error_mem_problemsOf_iff houtlines htable).2 ⟨t, ht, hpath, rfl⟩
    rw [← Diagnostic.countAhead_perm hperm] at hcount
    exact ⟨t.report, mem_sortBy.2 hd, herror, hcount⟩

/-- A snapshot counts an error exactly if one of its files lists one. -/
theorem count_error_pos_iff {version limit : Nat} {failures : List ReadFailure} {s : Snapshot}
    (hbuild : Snapshot.build version outlines failures limit = .ok s) :
    0 < s.count .error ↔ ∃ t, s.table.Invalid texts t ∧
      Diagnostic.countAhead (problemsOf s.table outlines t.location.file) t.report < limit := by
  obtain ⟨table, htable, rfl⟩ := exists_of_build_ok hbuild
  rw [count, List.countP_pos_iff]
  simp only [allDiagnostics, beq_iff_eq]
  constructor
  · rintro ⟨d, hd, herror⟩
    obtain ⟨entry, hentry, hd⟩ := List.mem_flatMap.1 hd
    obtain ⟨file, -, rfl⟩ := List.mem_map.1 hentry
    obtain ⟨t, ht, rfl, hcount⟩ :=
      (exists_error_sortAndCap_iff houtlines htable limit file).1 ⟨d, hd, herror⟩
    exact ⟨t, ht, hcount⟩
  · rintro ⟨t, ht, hcount⟩
    let file := t.location.file
    obtain ⟨d, hd, herror⟩ :=
      (exists_error_sortAndCap_iff houtlines htable limit file).2 ⟨t, ht, rfl, hcount⟩
    refine ⟨d, List.mem_flatMap.2 ⟨_, List.mem_map_of_mem ?_, hd⟩, herror⟩
    exact mem_files_of_invalid houtlines htable ht

end Errors

end Snapshot

/-! ### The command -/

/-- What a source reads for some files. -/
def Source.reads (source : Source) (files : List Path) : List (Path × Except Text Text) :=
  files.map fun p => (p, source.read p)

/-- The first rebuild of a workspace indexes it as version 1, which is above
that of the empty snapshot. -/
theorem Host.rebuild_openWorkspace (h : Host) (path : Path) :
    (h.rebuild (h.openWorkspace path)).1 = (h.openWorkspace path).index (.disk h.disk) 1 := by
  let next := (h.openWorkspace path).nextVersion.2
  have hnext : next.index (.disk h.disk) 1 = (h.openWorkspace path).index (.disk h.disk) 1 := rfl
  have hnumber : (h.openWorkspace path).nextVersion = (1, next) := rfl
  simp only [rebuild, Workspace.rebuild, hnumber, hnext]
  cases hindex : (h.openWorkspace path).index (.disk h.disk) 1 with
  | error e => rfl
  | ok built =>
      have hnewer : built.version > next.current.version := by
        rw [Workspace.version_of_index hindex]
        exact Nat.one_pos
      simp only [Workspace.publish, if_pos hnewer]

/-- A workspace whose outlines make a table can be indexed. -/
theorem Host.exists_rebuild {h : Host} {path : Path} {files : List Path}
    (found : (Source.disk h.disk).discover (h.openWorkspace path).root
      (h.openWorkspace path).settings = .ok files) {table : Table}
    (htable : Table.build (Loaded.ofReads ((Source.disk h.disk).reads files)).outlines
      = .ok table) :
    ∃ s, (h.rebuild (h.openWorkspace path)).1 = .ok s ∧ s.table = table := by
  obtain ⟨s, hs, hsame⟩ := Snapshot.exists_build htable 1
    (Loaded.ofReads ((Source.disk h.disk).reads files)).failures
    (h.openWorkspace path).settings.maxDiagnostics
  refine ⟨s, ?_, hsame⟩
  rw [rebuild_openWorkspace, Workspace.index, found]
  show (Snapshot.ofReads 1 ((Source.disk h.disk).reads files) _).mapError _ = _
  rw [Snapshot.ofReads, hs]
  rfl

namespace CommandLine

/-- A command line asks for a check of the workspace at a path. Some files
are found there, and the workspace is indexed without an error. -/
structure Checks (h : Host) (words : List Text) (path : Path) (files : List Path)
    (s : Snapshot) : Prop where
  asked : ∃ warnings root out,
    Invocation.parse? words = some (.run (.check warnings) root out) ∧
      h.disk.canonical (h.locator root) = .ok path
  found : (Source.disk h.disk).discover (h.openWorkspace path).root
    (h.openWorkspace path).settings = .ok files
  indexed : (h.rebuild (h.openWorkspace path)).1 = .ok s

/-- How a check ends that keeps `limit` problems of each file. The workspace
holds some texts, and `problems` gives everything that is wrong with a file. -/
structure Verdict (code limit : Nat) (table : Table) (texts : List (Path × Text))
    (problems : Path → List Diagnostic) : Prop where
  /-- A check succeeds or finds errors. -/
  settled : code = 0 ∨ code = 1
  /-- It finds errors exactly if the problems ahead of an invalid term leave a
  place for the report on it. -/
  failing : code = 1 ↔ ∃ t, table.Invalid texts t ∧
    Diagnostic.countAhead (problems t.location.file) t.report < limit
  /-- Where no file has more problems than are kept, it finds errors exactly
  if a term is invalid. -/
  uncut : (∀ file ∈ table.files, (problems file).length ≤ limit) →
    (code = 1 ↔ ∃ t, table.Invalid texts t)

section Check

variable {h : Host} {words : List Text} {path : Path} {files : List Path} {s : Snapshot}

/-- A check ends with 1 if errors are counted and with 0 otherwise, whatever
it prints. -/
theorem Checks.code_run (hchecks : Checks h words path files s) :
    (run h words).code = if s.count .error > 0 then 1 else 0 := by
  obtain ⟨warnings, root, out, hwords, hroot⟩ := hchecks.asked
  have hexecute : execute h (.check warnings) root out = .ok (runCheck s warnings out) := by
    have hindexed := hchecks.indexed
    simp only [execute, hroot]
    simp only [pure_bind, hindexed, answer]
  rw [run, hwords]
  simp only [hexecute, runCheck]
  split <;> rfl

/-- The snapshot that a check reads is built of what the files read as. -/
theorem Checks.ofReads_eq_ok (hchecks : Checks h words path files s) :
    Snapshot.ofReads 1 ((Source.disk h.disk).reads files)
      (h.openWorkspace path).settings.maxDiagnostics = .ok s := by
  have hindexed := hchecks.indexed
  rw [Host.rebuild_openWorkspace] at hindexed
  obtain ⟨found, hfound, hbuild⟩ := Workspace.exists_of_index_ok hindexed
  rw [hchecks.found] at hfound
  obtain rfl := Except.ok.inj hfound
  exact hbuild

/-- A check finds errors exactly if the problems ahead of an invalid term
leave a place for the report on it. -/
theorem Checks.code_run_eq_one_iff (hchecks : Checks h words path files s) :
    (run h words).code = 1 ↔
      ∃ t, s.table.Invalid (Loaded.texts ((Source.disk h.disk).reads files)) t ∧
        Diagnostic.countAhead (Snapshot.problemsOf s.table
            (Loaded.ofReads ((Source.disk h.disk).reads files)).outlines t.location.file)
          t.report < (h.openWorkspace path).settings.maxDiagnostics := by
  rw [← Snapshot.count_error_pos_iff (Loaded.outlines_perm _) hchecks.ofReads_eq_ok,
    hchecks.code_run]
  by_cases herrors : s.count .error > 0
  · simp [herrors]
  · simp [herrors]

end Check

/-- The text of a file with a brace that closes nothing, and below it a term
that is no full name. -/
def crowdedText : Text := "\x7d\n?X;\n"

/-- A machine with a workspace of this file that keeps one problem of each
file. -/
def crowdedHost : Host :=
  { disk := ⟨.folder [("ws", .folder
      [(".parsaur.toml", .file (.text "max_diagnostics_per_file = 1\n")),
        ("a.mql", .file (.text crowdedText))])]⟩
    environment := []
    folder := ⟨true, []⟩ }

/-- The folder of the workspace. -/
def crowdedRoot : Path := .parse "/ws"

/-- The file. -/
def crowdedFile : Path := .parse "/ws/a.mql"

/-- The command line that checks the workspace. -/
def crowdedCheck : List Text := ["check", "--root", "/ws"]

/-- The term that is no full name. -/
def crowdedTerm : Term := ⟨"X", .span crowdedFile 2 2 1⟩

/-- The workspace is checked. Its term is no full name, and one problem is
ahead of the report on it. -/
theorem exists_checks_crowdedHost :
    ∃ s, Checks crowdedHost crowdedCheck crowdedRoot [crowdedFile] s ∧
      s.table.defines "X" = false ∧
      Diagnostic.countAhead (Snapshot.problemsOf s.table
          (Loaded.ofReads ((Source.disk crowdedHost.disk).reads [crowdedFile])).outlines
          crowdedFile) crowdedTerm.report = 1 := by
  let outlines := (Loaded.ofReads ((Source.disk crowdedHost.disk).reads [crowdedFile])).outlines
  have hwords : Invocation.parse? crowdedCheck
      = some (.run (.check false) "/ws" ⟨.json, false, false⟩) := by
    decide +kernel
  have hroot : crowdedHost.disk.canonical (crowdedHost.locator "/ws") = .ok crowdedRoot := by
    decide +kernel
  have hfound : (Source.disk crowdedHost.disk).discover
      (crowdedHost.openWorkspace crowdedRoot).root
      (crowdedHost.openWorkspace crowdedRoot).settings = .ok [crowdedFile] := by
    decide +kernel
  have hfacts : (Table.build outlines).toOption.map (fun table =>
      (table.defines "X", Diagnostic.countAhead
        (Snapshot.problemsOf table outlines crowdedFile) crowdedTerm.report))
      = some (false, 1) := by
    decide +kernel
  obtain ⟨table, htable, hfacts⟩ := exists_ok_of_toOption hfacts
  obtain ⟨hundefined, hcount⟩ := Prod.mk.inj hfacts
  obtain ⟨s, hs, rfl⟩ := Host.exists_rebuild hfound htable
  exact ⟨s, ⟨⟨_, _, _, hwords, hroot⟩, hfound, hs⟩, hundefined, hcount⟩

end CommandLine

end DefIndex
