import DefIndex.Publisher
import DefIndex.Proofs.ImportGraph
import DefIndex.Proofs.Rebuilds

/-!
# `DefIndex.Proofs.Reports`: what a client shows after a report

A client shows, for each file, the last list of problems that it was sent.
`clientView` is what it shows. A publisher sends as little as it can: a
file without problems is passed over unless it had some before. So what is
sent is right only together with what the publisher remembers, and
`Publisher.Follows` says how the two belong together.

* `Snapshot.addressable_of_index`: a snapshot of a disk has one entry for
  each file, and all its paths are absolute.
* `Publisher.Follows.publish`: a snapshot that is sent is what the client
  shows afterwards, whatever was shown before.
-/

set_option autoImplicit false

namespace DefIndex

/-! ### The files of a snapshot -/

namespace Path

/-- Of two paths one comes first. -/
theorem le_total (p q : Path) : p.le q = true ∨ q.le p = true := by
  rw [le, le, Std.OrientedOrd.eq_swap (a := q) (b := p)]
  cases compare p q <;> simp [Ordering.isLE, Ordering.swap]

/-- The order of paths is transitive. -/
theorem le_trans {p q r : Path} (hpq : p.le q = true) (hqr : q.le r = true) : p.le r = true :=
  Std.TransCmp.isLE_trans hpq hqr

/-- Two paths of which each comes before the other are one. -/
theorem le_antisymm {p q : Path} (hpq : p.le q = true) (hqp : q.le p = true) : p = q :=
  Std.LawfulEqOrd.eq_of_compare (Std.OrientedCmp.isLE_antisymm hpq hqp)

end Path

/-- Nothing is dropped where nothing is repeated. -/
theorem dropRepeats_of_nodup {ps : List Path} (h : ps.Nodup) :
    dropRepeats (fun a b => a == b) ps = ps := by
  fun_induction dropRepeats (fun (a b : Path) => a == b) ps with
  | case1 => rfl
  | case2 => rfl
  | case3 x y rest hsame _ =>
      have hxy : x = y := by simpa using hsame
      exact absurd (hxy ▸ List.mem_cons_self) (List.nodup_cons.1 h).1
  | case4 x y rest _ ih => rw [ih (List.nodup_cons.1 h).2]

/-- Entering definitions adds no file. -/
theorem Table.files_foldl_push (t : Table) (ds : List Definition) :
    (ds.foldl Table.push t).files = t.files := by
  induction ds generalizing t with
  | nil => rfl
  | cons d ds ih => rw [List.foldl_cons, ih, Table.push]

/-- The files of a table are those of its outlines. -/
theorem Table.files_of_build {outlines : List Outline} {t : Table}
    (h : Table.build outlines = .ok t) : t.files = fileList (inOrder outlines) := by
  obtain ⟨forest, -, rfl⟩ := Table.spliceAll_of_build_ok h
  rw [Table.files_foldl_push]

/-- The files of a table are distinct. -/
theorem Table.nodup_files {outlines : List Outline} {t : Table}
    (h : Table.build outlines = .ok t) : t.files.Nodup := by
  have hordered : (inOrder outlines).Pairwise fun a b => a.file.le b.file = true := by
    refine pairwise_sortBy ?_ ?_ outlines
    · exact fun a b => Path.le_total a.file b.file
    · exact fun _ _ _ hab hbc => Path.le_trans hab hbc
  rw [Table.files_of_build h, fileList]
  refine (pairwise_dropRepeats ?_ ?_ (List.pairwise_map.2 hordered)).imp And.right
  · exact fun _ _ _ _ hab hba => Path.le_antisymm hab hba
  · exact fun _ _ => beq_self_eq_true _

/-- A file of a table is that of an outline. -/
theorem Table.exists_of_mem_files {outlines : List Outline} {t : Table}
    (h : Table.build outlines = .ok t) {file : Path} (hfile : file ∈ t.files) :
    ∃ o ∈ outlines, o.file = file := by
  rw [Table.files_of_build h, fileList] at hfile
  obtain ⟨o, ho, rfl⟩ := List.mem_map.1 (mem_of_mem_dropRepeats hfile)
  exact ⟨o, mem_sortBy.1 ho, rfl⟩

/-- The file of an outline is one of the table. -/
theorem Table.mem_files_of_mem {outlines : List Outline} {t : Table}
    (h : Table.build outlines = .ok t) {o : Outline} (ho : o ∈ outlines) : o.file ∈ t.files := by
  rw [Table.files_of_build h, fileList]
  refine mem_dropRepeats (fun _ _ _ _ hsame => ?_) (List.mem_map_of_mem (mem_sortBy.2 ho))
  exact eq_of_beq hsame

/-- A client can be told about each file of a snapshot, and there is one
list for each. -/
structure Snapshot.Addressable (s : Snapshot) : Prop where
  distinct : (s.diagnostics.map Prod.fst).Nodup
  absolute : ∀ entry ∈ s.diagnostics, entry.1.absolute = true

/-- What is found below an absolute path has an absolute path. -/
theorem Discovery.absolute_of_mem_sourceFilesBy {walker : Walker} {disk : Disk} {root : Locator}
    {settings : Settings} {files : List Path}
    (h : sourceFilesBy walker disk root settings = .ok files) (hroot : root.path.absolute = true)
    {p : Path} (hp : p ∈ files) : p.absolute = true := by
  simp only [sourceFilesBy] at h
  split at h
  · cases h
  split at h
  · split at h
    · cases h
    · cases h
      -- However many files are kept, they are among those that were found.
      replace hp := by
        split at hp
        · exact List.mem_of_mem_take hp
        · exact hp
      obtain ⟨below, -, rfl⟩ := List.mem_map.1 (mem_sortBy.1 hp)
      simp [Path.normalize, Path.join, hroot]
  · cases h

/-- The files that are found on a disk have absolute paths. -/
theorem Source.absolute_of_mem_discover {disk : Disk} {root : Path} {settings : Settings}
    {files : List Path} (h : (Source.disk disk).discover root settings = .ok files) {p : Path}
    (hp : p ∈ files) : p.absolute = true := by
  simp only [Source.disk] at h
  split at h
  next home hhome =>
    have habsolute : home.absolute = true := by
      rw [Disk.canonical] at hhome
      cases hlocate : disk.locate root with
      | error e =>
          rw [hlocate] at hhome
          cases hhome
      | ok names =>
          rw [hlocate] at hhome
          cases hhome
          rfl
    exact Discovery.absolute_of_mem_sourceFilesBy h habsolute hp
  next => cases h

/-- A snapshot of a disk can be told to a client. -/
theorem Snapshot.addressable_of_index {w : Workspace} {disk : Disk} {version : Nat} {s : Snapshot}
    (h : w.index (.disk disk) version = .ok s) : s.Addressable := by
  obtain ⟨files, hfiles, hbuild⟩ := Workspace.exists_of_index_ok h
  obtain ⟨table, htable, rfl⟩ := Snapshot.exists_of_build_ok hbuild
  refine ⟨?_, fun entry hentry => ?_⟩
  · rw [List.map_map]
    exact (List.map_id _).symm ▸ Table.nodup_files htable
  · obtain ⟨file, hfile, rfl⟩ := List.mem_map.1 hentry
    obtain ⟨o, ho, rfl⟩ := Table.exists_of_mem_files htable hfile
    obtain ⟨read, hread, hsome⟩ := List.mem_filterMap.1 (mem_sortBy.1 ho)
    obtain ⟨p, hp, rfl⟩ := List.mem_map.1 hread
    split at hsome
    next q text heq =>
      obtain rfl : p = q := congrArg Prod.fst heq
      cases hsome
      have habsolute : p.absolute = true := Source.absolute_of_mem_discover hfiles hp
      rw [Outline.file_read]
      exact habsolute
    next => cases hsome

/-! ### What a client shows -/

/-- What a client shows for a file: the last list that it was sent, and
nothing if it was sent none. -/
def clientView (sent : List FileReport) (file : Path) : List Diagnostic :=
  sent.foldl (fun shown report => if report.file = file then report.diagnostics else shown) []

/-- Reports on other files do not change what is shown. -/
theorem clientView_append_of_forall_ne {sent reports : List FileReport} {file : Path}
    (h : ∀ report ∈ reports, report.file ≠ file) :
    clientView (sent ++ reports) file = clientView sent file := by
  rw [clientView, List.foldl_append]
  change reports.foldl _ (clientView sent file) = clientView sent file
  induction reports with
  | nil => rfl
  | cons report reports ih =>
      rw [List.foldl_cons, if_neg (h report List.mem_cons_self)]
      exact ih fun report hreport => h report (List.mem_cons_of_mem _ hreport)

/-- A list that all reports on a file agree on is shown. -/
theorem clientView_append_of_agree {sent reports : List FileReport} {file : Path}
    {ds : List Diagnostic} (hsome : ⟨file, ds⟩ ∈ reports)
    (hagree : ∀ report ∈ reports, report.file = file → report.diagnostics = ds) :
    clientView (sent ++ reports) file = ds := by
  induction reports generalizing sent with
  | nil => cases hsome
  | cons report reports ih =>
      rw [← List.singleton_append, ← List.append_assoc]
      by_cases hlater : ∃ later ∈ reports, later.file = file
      · obtain ⟨later, hlater, rfl⟩ := hlater
        obtain rfl := hagree later (List.mem_cons_of_mem _ hlater) rfl
        exact ih hlater fun r hr => hagree r (List.mem_cons_of_mem _ hr)
      · have hothers : ∀ later ∈ reports, later.file ≠ file :=
          fun later hmem heq => hlater ⟨later, hmem, heq⟩
        rw [clientView_append_of_forall_ne hothers]
        rcases List.mem_cons.1 hsome with rfl | hmem
        · simp [clientView]
        · exact absurd rfl (hothers _ hmem)

/-! ### One report -/

namespace Snapshot

/-- The entry of a file gives its problems. -/
theorem Addressable.diagnosticsFor_of_mem {s : Snapshot} (h : s.Addressable) {file : Path}
    {ds : List Diagnostic} (hmem : (file, ds) ∈ s.diagnostics) :
    s.covers file = true ∧ s.diagnosticsFor file = ds := by
  rw [covers, diagnosticsFor]
  cases hlookup : s.diagnostics.lookup file with
  | none =>
      have hne := List.lookup_eq_none_iff.1 hlookup _ hmem
      simp at hne
  | some es =>
      obtain ⟨before, after, heq, -⟩ := List.lookup_eq_some_iff.1 hlookup
      have hes : (file, es) ∈ s.diagnostics := by simp [heq]
      have hsame := List.inj_on_of_nodup_map h.distinct hes hmem rfl
      exact ⟨rfl, congrArg Prod.snd hsame⟩

/-- A file has an entry or has none. -/
theorem entry_or_none (s : Snapshot) (file : Path) :
    (∃ ds, (file, ds) ∈ s.diagnostics) ∨ ∀ entry ∈ s.diagnostics, entry.1 ≠ file := by
  by_cases hentry : ∃ ds, (file, ds) ∈ s.diagnostics
  · exact Or.inl hentry
  · exact Or.inr fun entry hmem heq => hentry ⟨entry.2, heq ▸ hmem⟩

/-- A file without an entry has no problems. -/
theorem diagnosticsFor_of_forall_ne {s : Snapshot} {file : Path}
    (hnone : ∀ entry ∈ s.diagnostics, entry.1 ≠ file) :
    s.covers file = false ∧ s.diagnosticsFor file = [] := by
  have hlookup : s.diagnostics.lookup file = none :=
    List.lookup_eq_none_iff.2 fun entry hentry => by simpa using (hnone entry hentry).symm
  rw [covers, diagnosticsFor, hlookup]
  exact ⟨rfl, rfl⟩

end Snapshot

namespace Publisher

/-- The reports on the files of a snapshot. -/
theorem mem_current {p : Publisher} {s : Snapshot} (hs : s.Addressable) {report : FileReport} :
    report ∈ p.current s ↔ (report.file, report.diagnostics) ∈ s.diagnostics ∧
      (report.diagnostics ≠ [] ∨ report.file ∈ p.published) := by
  simp only [current, List.mem_map, List.mem_filter]
  constructor
  · rintro ⟨⟨file, ds⟩, ⟨hmem, htest⟩, rfl⟩
    simp only [Bool.and_eq_true, Bool.or_eq_true, Bool.not_eq_true', decide_eq_true_eq,
      List.isEmpty_eq_false_iff] at htest
    exact ⟨hmem, htest.2⟩
  · rintro ⟨hmem, htest⟩
    refine ⟨_, ⟨hmem, ?_⟩, rfl⟩
    have habsolute := hs.absolute _ hmem
    simp only [Bool.and_eq_true, Bool.or_eq_true, Bool.not_eq_true', decide_eq_true_eq,
      List.isEmpty_eq_false_iff]
    exact ⟨habsolute, htest⟩

/-- The reports on files that have vanished. -/
theorem mem_vanished {p : Publisher} {s : Snapshot} {report : FileReport} :
    report ∈ p.vanished s ↔ report.file ∈ p.published ∧ report.file.absolute = true ∧
      s.covers report.file = false ∧ report.diagnostics = [] := by
  obtain ⟨file, ds⟩ := report
  simp only [vanished, List.mem_map, List.mem_filter, Bool.and_eq_true, Bool.not_eq_true',
    FileReport.mk.injEq]
  constructor
  · rintro ⟨_, ⟨hmem, habsolute, hcovers⟩, rfl, rfl⟩
    exact ⟨hmem, habsolute, hcovers, rfl⟩
  · rintro ⟨hmem, habsolute, hcovers, rfl⟩
    exact ⟨file, ⟨hmem, habsolute, hcovers⟩, rfl, rfl⟩

/-- A publisher and what its client was sent. -/
structure Follows (p : Publisher) (sent : List FileReport) : Prop where
  /-- The publisher knows the files that the client shows problems for. -/
  published : ∀ file, file ∈ p.published ↔ clientView sent file ≠ []
  /-- The client can be told when they are gone. -/
  absolute : ∀ file ∈ p.published, file.absolute = true

/-- Before the first report. -/
theorem follows_start : start.Follows [] where
  published file := by simp [start, clientView]
  absolute file hfile := by cases hfile

/-- A snapshot older than the one sent last is not sent. -/
theorem publish_of_lt {p : Publisher} {s : Snapshot} (h : s.version < p.version) :
    p.publish s = ([], p) := by
  rw [publish, if_pos h]

/-- Any other snapshot is sent. -/
theorem publish_of_le {p : Publisher} {s : Snapshot} (h : p.version ≤ s.version) :
    p.publish s
      = (p.current s ++ p.vanished s, ⟨nonEmptyFiles (p.current s), s.version⟩) := by
  rw [publish, if_neg (Nat.not_lt.2 h)]

/-- A file that is not remembered shows nothing. -/
theorem Follows.clientView_eq_nil {p : Publisher} {sent : List FileReport} (h : p.Follows sent)
    {file : Path} (hfile : file ∉ p.published) : clientView sent file = [] :=
  not_not.1 (mt (h.published file).2 hfile)

/-- A file of the snapshot shows its list. If it is passed over, it showed
nothing and the list is empty. -/
theorem Follows.clientView_of_mem {p : Publisher} {sent : List FileReport} (h : p.Follows sent)
    {s : Snapshot} (hs : s.Addressable) {file : Path} {ds : List Diagnostic}
    (hmem : (file, ds) ∈ s.diagnostics) :
    clientView (sent ++ (p.current s ++ p.vanished s)) file = ds := by
  obtain ⟨hcovers, hds⟩ := hs.diagnosticsFor_of_mem hmem
  have hcurrent : ∀ report ∈ p.current s, report.file = file → report.diagnostics = ds := by
    rintro report hreport rfl
    rw [← hds, (hs.diagnosticsFor_of_mem ((mem_current hs).1 hreport).1).2]
  have hvanished : ∀ report ∈ p.vanished s, report.file ≠ file := by
    rintro report hreport rfl
    have huncovered := (mem_vanished.1 hreport).2.2.1
    rw [hcovers] at huncovered
    cases huncovered
  by_cases hsent : ds ≠ [] ∨ file ∈ p.published
  · have hreport : ⟨file, ds⟩ ∈ p.current s := (mem_current hs).2 ⟨hmem, hsent⟩
    refine clientView_append_of_agree (List.mem_append_left _ hreport)
      fun report hreport hfile => ?_
    rcases List.mem_append.1 hreport with hreport | hreport
    · exact hcurrent report hreport hfile
    · exact absurd hfile (hvanished report hreport)
  · obtain ⟨hempty, hquiet⟩ := not_or.1 hsent
    rw [clientView_append_of_forall_ne, h.clientView_eq_nil hquiet, not_not.1 hempty]
    intro report hreport hfile
    rcases List.mem_append.1 hreport with hreport | hreport
    · rcases ((mem_current hs).1 hreport).2 with hne | hpublished
      · exact hempty (hcurrent report hreport hfile ▸ hne)
      · exact hquiet (hfile ▸ hpublished)
    · exact hvanished report hreport hfile

/-- A file that the snapshot does not have shows nothing. -/
theorem Follows.clientView_of_forall_ne {p : Publisher} {sent : List FileReport}
    (h : p.Follows sent) {s : Snapshot} (hs : s.Addressable) {file : Path}
    (hnone : ∀ entry ∈ s.diagnostics, entry.1 ≠ file) :
    clientView (sent ++ (p.current s ++ p.vanished s)) file = [] := by
  have hcurrent : ∀ report ∈ p.current s, report.file ≠ file :=
    fun report hreport => hnone _ ((mem_current hs).1 hreport).1
  by_cases hpublished : file ∈ p.published
  · have hreport : ⟨file, []⟩ ∈ p.vanished s :=
      mem_vanished.2 ⟨hpublished, h.absolute file hpublished,
        (Snapshot.diagnosticsFor_of_forall_ne hnone).1, rfl⟩
    refine clientView_append_of_agree (List.mem_append_right _ hreport)
      fun report hreport hfile => ?_
    rcases List.mem_append.1 hreport with hreport | hreport
    · exact absurd hfile (hcurrent report hreport)
    · exact (mem_vanished.1 hreport).2.2.2
  · rw [clientView_append_of_forall_ne, h.clientView_eq_nil hpublished]
    rintro report hreport rfl
    rcases List.mem_append.1 hreport with hreport | hreport
    · exact hcurrent report hreport rfl
    · exact hpublished (mem_vanished.1 hreport).1

/-- What is sent is what the client shows. -/
theorem Follows.clientView_publish {p : Publisher} {sent : List FileReport} (h : p.Follows sent)
    {s : Snapshot} (hs : s.Addressable) (file : Path) :
    clientView (sent ++ (p.current s ++ p.vanished s)) file = s.diagnosticsFor file := by
  rcases s.entry_or_none file with ⟨ds, hmem⟩ | hnone
  · rw [h.clientView_of_mem hs hmem, (hs.diagnosticsFor_of_mem hmem).2]
  · rw [h.clientView_of_forall_ne hs hnone, (Snapshot.diagnosticsFor_of_forall_ne hnone).2]

/-- The files that are remembered are those with problems. -/
theorem mem_nonEmptyFiles_current {p : Publisher} {s : Snapshot} (hs : s.Addressable)
    {file : Path} : file ∈ nonEmptyFiles (p.current s) ↔ s.diagnosticsFor file ≠ [] := by
  simp only [nonEmptyFiles, List.mem_map, List.mem_filter, Bool.not_eq_true',
    List.isEmpty_eq_false_iff]
  constructor
  · rintro ⟨report, ⟨hreport, hne⟩, rfl⟩
    rwa [(hs.diagnosticsFor_of_mem ((mem_current hs).1 hreport).1).2]
  · intro hne
    rcases s.entry_or_none file with ⟨ds, hmem⟩ | hnone
    · rw [(hs.diagnosticsFor_of_mem hmem).2] at hne
      exact ⟨⟨file, ds⟩, ⟨(mem_current hs).2 ⟨hmem, Or.inl hne⟩, hne⟩, rfl⟩
    · exact absurd (Snapshot.diagnosticsFor_of_forall_ne hnone).2 hne

/-- After a report the client shows the snapshot, and the publisher knows
where. -/
theorem Follows.publish {p : Publisher} {sent : List FileReport} (h : p.Follows sent)
    {s : Snapshot} (hs : s.Addressable) (hnewer : p.version ≤ s.version) :
    (p.publish s).2.Follows (sent ++ (p.publish s).1) ∧
      ∀ file, clientView (sent ++ (p.publish s).1) file = s.diagnosticsFor file := by
  rw [publish_of_le hnewer]
  refine ⟨⟨fun file => ?_, fun file hfile => ?_⟩, h.clientView_publish hs⟩
  · rw [h.clientView_publish hs]
    exact mem_nonEmptyFiles_current hs
  · obtain ⟨report, hreport, rfl⟩ := List.mem_map.1 hfile
    exact hs.absolute _ ((mem_current hs).1 (List.mem_filter.1 hreport).1).1

end Publisher

end DefIndex
