import DefIndex.Proofs.PrunedWalk
import DefIndex.Proofs.Reports
import DefIndex.Proofs.Walkers

/-!
# `DefIndex.Proofs.SourceFiles`: the source files of a workspace

Where ignore files do not count, which files discovery finds can be said of one
file at a time: by the names on the way to it from the workspace folder, by the
excluded names and by its extension. `Discovery.Sought` says it, and what is
above the workspace folder, its own name included, plays no part.

Nothing here looks into a walker. Of the one that discovery is given only the
rules of `DefIndex.Proofs.Walkers` are used.

* `Segment.extensionOf_eq_some_iff` and `Settings.isSource_iff`: the test of the
  extension, without cutting the name.
* `Path.normalize_join_below`: different names below a folder give different
  paths.
* `Discovery.mem_visits_iff_sought`: of the files that are visited those with the
  extension of a source file are the ones that are sought.
* `Discovery.sourceFilesBy_sought` is the statement about discovery: the files are
  those that are sought, they go up, and a limit cuts them behind the sort.
-/

set_option autoImplicit false

namespace DefIndex

/-! ### Paths -/

namespace Segment

variable {α : Type} [DecidableEq α] {dot : α}

/-- A name that is cut at its last dot. -/
theorem extensionOf_append (stem : List α) {ext : List α} (hdot : dot ∉ ext) :
    extensionOf dot (stem ++ dot :: ext) = if stem = [] then none else some ext := by
  rw [extensionOf, Text.cut_append_cons, Text.cut_of_notMem hdot]
  by_cases hmem : dot ∈ stem
  · -- Two pieces and more are in front of the extension.
    obtain ⟨front, last, rfl, hlast⟩ := Text.exists_last_of_mem hmem
    rw [Text.cut_append_cons, Text.cut_of_notMem hlast]
    cases hfront : Text.cut dot front with
    | nil => exact absurd hfront (Text.cut_ne_nil dot front)
    | cons first pieces =>
        cases pieces with
        | nil => simp
        | cons second pieces =>
            have hend : (second :: pieces ++ [last] ++ [ext]).getLast? = some ext :=
              List.getLast?_concat
            simpa using hend
  · rw [Text.cut_of_notMem hmem]
    cases stem <;> simp

/-- The extension is what stands behind the last dot, unless that dot is the
first character. -/
theorem extensionOf_eq_some_iff {fileName ext : List α} :
    extensionOf dot fileName = some ext ↔
      ∃ stem, fileName = stem ++ dot :: ext ∧ stem ≠ [] ∧ dot ∉ ext := by
  constructor
  · intro h
    by_cases hdot : dot ∈ fileName
    · obtain ⟨stem, last, rfl, hfree⟩ := Text.exists_last_of_mem hdot
      rw [extensionOf_append stem hfree] at h
      split at h
      · cases h
      next hne =>
        obtain rfl := Option.some.inj h
        exact ⟨stem, rfl, hne, hfree⟩
    · rw [extensionOf, Text.cut_of_notMem hdot] at h
      cases h
  · rintro ⟨stem, rfl, hne, hdot⟩
    rw [extensionOf_append stem hdot, if_neg hne]

end Segment

namespace Path

/-- Of two different paths in order the first comes first. -/
theorem lt_of_le_of_ne {p q : Path} (hle : p.le q = true) (hne : p ≠ q) :
    compare p q = .lt := by
  rw [le] at hle
  cases hcompare : compare p q with
  | lt => rfl
  | eq => exact absurd (Std.LawfulEqOrd.eq_of_compare hcompare) hne
  | gt => simp [hcompare] at hle

/-- Paths without repeats go up when they are sorted. -/
theorem pairwise_lt_sortBy {ps : List Path} (hnodup : ps.Nodup) :
    (sortBy le ps).Pairwise fun p q => compare p q = .lt := by
  have hle := pairwise_sortBy le_total (fun _ _ _ => le_trans) ps
  have hne : (sortBy le ps).Pairwise (· ≠ ·) := (sortBy_perm le ps).nodup_iff.2 hnodup
  exact (hle.and hne).imp fun h => lt_of_le_of_ne h.1 h.2

variable {below : List Segment} (hdown : ∀ s ∈ below, s.GoesDown)

include hdown

/-- Names below a folder stand behind its shortest form. -/
theorem normalize_join_below (p : Path) :
    (p.join ⟨false, below⟩).normalize = ⟨p.absolute, p.normalize.segments ++ below⟩ := by
  rw [normalize_join rfl, foldl_of_goesDown hdown, List.reverse_append, List.reverse_reverse]
  rfl

/-- The last of names below a folder is the last name of their path. -/
theorem getLast?_join_below (hne : below ≠ []) (p : Path) :
    (p.join ⟨false, below⟩).segments.getLast? = below.getLast? := by
  have hdrop : dropHere below = below := dropHere_eq_self fun hmem => (hdown _ hmem).1 rfl
  rw [join, if_neg Bool.false_ne_true]
  split
  · rw [hdrop, List.getLast?_append_of_ne_nil _ hne]
  · rfl

end Path

/-! ### Settings -/

namespace Settings

/-- One of the extensions of the settings, but for the case of ASCII letters. -/
def Takes (s : Settings) (ext : Text) : Prop :=
  ∃ x ∈ s.extensions, ext.map Char.toLower = x.map Char.toLower

/-- The file name has an extension, and it is one of the settings'. The name may
be no text, but its extension is. -/
def HasExtension (s : Settings) : Segment → Prop
  | .here => False
  | .up => False
  | .name t => ∃ stem ext, t = stem ++ '.' :: ext ∧ stem ≠ [] ∧ '.' ∉ ext ∧ s.Takes ext
  | .raw bytes => ∃ stem rest ext, bytes = stem ++ Segment.dotByte :: rest ∧ stem ≠ [] ∧
      Segment.dotByte ∉ rest ∧ Text.ofUtf8? rest = some ext ∧ s.Takes ext

/-- The extension of a segment, without cutting it. -/
theorem hasExtension_iff (s : Settings) (name : Segment) :
    s.HasExtension name ↔ ∃ ext, name.extension? = some ext ∧ s.Takes ext := by
  cases name with
  | here => simp [HasExtension, Segment.extension?]
  | up => simp [HasExtension, Segment.extension?]
  | name t =>
      simp only [HasExtension, Segment.extension?, Segment.extensionOf_eq_some_iff]
      constructor
      · rintro ⟨stem, ext, rfl, hne, hdot, htakes⟩
        exact ⟨ext, ⟨stem, rfl, hne, hdot⟩, htakes⟩
      · rintro ⟨ext, ⟨stem, rfl, hne, hdot⟩, htakes⟩
        exact ⟨stem, ext, rfl, hne, hdot, htakes⟩
  | raw bytes =>
      simp only [HasExtension, Segment.extension?, Option.bind_eq_some_iff,
        Segment.extensionOf_eq_some_iff]
      constructor
      · rintro ⟨stem, rest, ext, rfl, hne, hdot, hread, htakes⟩
        exact ⟨ext, ⟨rest, ⟨stem, rfl, hne, hdot⟩, hread⟩, htakes⟩
      · rintro ⟨ext, ⟨rest, ⟨stem, rfl, hne, hdot⟩, hread⟩, htakes⟩
        exact ⟨stem, rest, ext, rfl, hne, hdot, hread, htakes⟩

/-- Files are told by the extension of their last name. -/
theorem isSource_iff (s : Settings) (p : Path) :
    s.isSource p = true ↔ ∃ name, p.segments.getLast? = some name ∧ s.HasExtension name := by
  have hany (ext : Text) : s.extensions.any (sameIgnoringCase ext) = true ↔ s.Takes ext := by
    simp [Takes, sameIgnoringCase]
  rw [isSource]
  cases p.segments.getLast? with
  | none => simp
  | some name =>
      simp only [Option.bind_some, Option.some.injEq, exists_eq_left', hasExtension_iff]
      cases name.extension? with
      | none => simp
      | some ext => simp [hany]

/-- A name is excluded by default or by the settings. -/
theorem mem_excludes_iff {s : Settings} {dir : Text} :
    dir ∈ s.excludes ↔ dir ∈ defaultExcludes ∨ dir ∈ s.excludeDirs := by
  rw [excludes]
  induction s.excludeDirs using List.reverseRecOn with
  | nil => simp
  | append_singleton dirs last ih =>
      rw [List.foldl_append, List.foldl_cons, List.foldl_nil, List.mem_append,
        List.mem_singleton, ← or_assoc, ← ih]
      split
      next hthere =>
        refine ⟨Or.inl, ?_⟩
        rintro (h | rfl)
        · exact h
        · exact List.contains_iff_mem.1 hthere
      next => rw [List.mem_append, List.mem_singleton]

/-- The names that are excluded by default are plain. -/
theorem plainName_of_mem_excludes {s : Settings}
    (hplain : ∀ dir ∈ s.excludeDirs, Glob.PlainName dir) :
    ∀ dir ∈ s.excludes, Glob.PlainName dir := by
  have hdefault : ∀ dir ∈ defaultExcludes, Glob.PlainName dir := by decide
  intro dir hdir
  exact (mem_excludes_iff.1 hdir).elim (hdefault dir) (hplain dir)

end Settings

namespace Discovery

/-! ### Requests -/

/-- What discovery asks a walker for that takes every excluded name. -/
def request (home : List Segment) (s : Settings) : WalkRequest :=
  ⟨home, s.excludes.map exclusion, true, s.respectIgnore⟩

variable {disk : Disk} {home : List Segment} {s : Settings}

/-- It has names left out that start with a dot. -/
theorem hides_request_iff {name : Segment} :
    (request home s).Hides name ↔ name.bytes.head? = some Segment.dotByte := by
  simp [WalkRequest.Hides, request, Segment.isHidden]

/-- It has the folders of excluded names left out. -/
theorem not_excludes_request_iff {name : Segment} :
    ¬(request home s).Excludes name ↔ ∀ dir, name = .name dir →
      dir ∉ Settings.defaultExcludes ∧ dir ∉ s.excludeDirs := by
  have hinjective : Function.Injective exclusion := by
    intro dir dir' h
    simpa [exclusion] using h
  simp [WalkRequest.Excludes, request, List.mem_map_of_injective hinjective,
    Settings.mem_excludes_iff, not_or]

/-- With plain names it is a plain request. -/
theorem plainOn_request (hproper : disk.root.Proper)
    (hfolder : ∃ entries, disk.root.find? home = some (.folder entries))
    (hunignored : s.respectIgnore = false)
    (hplain : ∀ dir ∈ s.excludeDirs, Glob.PlainName dir) :
    WalkRequest.PlainOn disk (request home s) := by
  refine ⟨hproper, hfolder, hunignored, fun line hline => ?_⟩
  obtain ⟨dir, hdir, rfl⟩ := List.mem_map.1 hline
  exact ⟨dir, Settings.plainName_of_mem_excludes hplain dir hdir, rfl⟩

/-! ### Discovery -/

/-- The names lead from the workspace folder to a file that is to be found. -/
structure Sought (disk : Disk) (home : List Segment) (s : Settings) (below : List Segment) :
    Prop where
  /-- They lead to a file. -/
  file : disk.isFile (home ++ below) = true
  /-- None of them starts with a dot. -/
  visible : ∀ name ∈ below, name.bytes.head? ≠ some Segment.dotByte
  /-- None of the folders is excluded, while the file may have such a name. -/
  unexcluded : ∀ name ∈ below.dropLast, ∀ dir, name = .name dir →
    dir ∉ Settings.defaultExcludes ∧ dir ∉ s.excludeDirs
  /-- The file has an extension of the settings. -/
  extension : ∃ name, below.getLast? = some name ∧ s.HasExtension name

/-- The paths of all files that are to be found below a folder, in order. -/
structure AllSought (disk : Disk) (root : Path) (home : List Segment) (s : Settings)
    (files : List Path) : Prop where
  /-- They go up, so none is there twice. -/
  rising : files.Pairwise fun p q => compare p q = .lt
  mem_iff : ∀ p, p ∈ files ↔
    ∃ below, Sought disk home s below ∧ p = (root.join ⟨false, below⟩).normalize

/-- Of the files that are visited those with the extension of a source file are
sought. -/
theorem mem_visits_iff_sought {w : Walker} (hdescends : w.Descends) (hhidden : w.SkipsHidden)
    (hoverridden : w.SkipsOverridden) (hq : WalkRequest.PlainOn disk (request home s))
    (root : Path) (below : List Segment) :
    (below ∈ w.visits disk (request home s) ∧ disk.isFile (home ++ below) = true ∧
        s.isSource (root.join ⟨false, below⟩) = true) ↔ Sought disk home s below := by
  have hsought : Sought disk home s below ↔ disk.isFile (home ++ below) = true ∧
      ((∀ name ∈ below, ¬(request home s).Hides name) ∧
        ∀ name ∈ below.dropLast, ¬(request home s).Excludes name) ∧
      ∃ name, below.getLast? = some name ∧ s.HasExtension name := by
    simp only [hides_request_iff, not_excludes_request_iff]
    constructor
    · intro h
      exact ⟨h.file, ⟨h.visible, h.unexcluded⟩, h.extension⟩
    · rintro ⟨hfile, ⟨hvisible, hunexcluded⟩, hextension⟩
      exact ⟨hfile, hvisible, hunexcluded, hextension⟩
  rw [hsought, and_left_comm]
  refine and_congr_right fun hfile => ?_
  obtain ⟨content, hfind⟩ := Disk.isFile_iff.1 hfile
  have hdown : ∀ s ∈ below, s.GoesDown :=
    hq.proper.goesDown_below (by rw [hfind, Option.isSome_some])
  have hne : below ≠ [] := by
    -- The walk starts in a folder.
    rintro rfl
    obtain ⟨entries, hfolder⟩ := hq.folder
    rw [List.append_nil] at hfind
    cases hfind.symm.trans hfolder
  rw [Walker.mem_visits_file_iff hdescends hhidden hoverridden hq hfind, Settings.isSource_iff,
    Path.getLast?_join_below hdown hne]

/-- Where ignore files do not count, discovery finds all that is sought below
the workspace folder, in order, and a limit takes the first files of it. The
walker may be any that goes down, skips hidden entries, and skips at any depth
the folders that an override names. -/
theorem sourceFilesBy_sought (w : Walker) (hdescends : w.Descends) (hhidden : w.SkipsHidden)
    (hoverridden : w.SkipsOverridden) (htakes : w.TakesNames) (disk : Disk)
    (hproper : disk.root.Proper) (root : Locator) (home : List Segment)
    (hroot : disk.locate root = .ok home)
    (hfolder : ∃ entries, disk.root.find? home = some (.folder entries)) (s : Settings)
    (hunignored : s.respectIgnore = false)
    (hplain : ∀ dir ∈ s.excludeDirs, Glob.PlainName dir) :
    ∃ files, AllSought disk root.path home s files ∧
      sourceFilesBy w disk root s = .ok (s.maxFiles.elim files files.take) := by
  have hq := plainOn_request hproper hfolder hunignored hplain
  obtain ⟨entries, hentries⟩ := hfolder
  have hoverrides : (s.excludes.map exclusion).filter w.accepts = s.excludes.map exclusion := by
    refine List.filter_eq_self.2 fun line hline => ?_
    obtain ⟨dir, hdir, rfl⟩ := List.mem_map.1 hline
    exact htakes.accepts (Settings.plainName_of_mem_excludes hplain dir hdir)
  let found := (w.visits disk (request home s)).filter fun below =>
    disk.isFile (home ++ below) && s.isSource (root.path.join ⟨false, below⟩)
  have hfound (below : List Segment) : below ∈ found ↔ Sought disk home s below := by
    rw [List.mem_filter, Bool.and_eq_true]
    exact mem_visits_iff_sought hdescends hhidden hoverridden hq root.path below
  have hbelow {below : List Segment} (h : below ∈ found) :
      (root.path.join ⟨false, below⟩).normalize
        = ⟨root.path.absolute, root.path.normalize.segments ++ below⟩ := by
    have hthere := hdescends.there hq below (List.mem_filter.1 h).1
    exact Path.normalize_join_below (hproper.goesDown_below hthere) root.path
  refine ⟨sortBy Path.le (found.map fun below => (root.path.join ⟨false, below⟩).normalize),
    ⟨?_, ?_⟩, ?_⟩
  · refine Path.pairwise_lt_sortBy (List.Nodup.map_on ?_ ((hdescends.nodup hq).filter _))
    intro below hmem below' hmem' hsame
    rw [hbelow hmem, hbelow hmem'] at hsame
    exact List.append_cancel_left (congrArg Path.segments hsame)
  · intro p
    rw [mem_sortBy, List.mem_map]
    constructor
    · rintro ⟨below, hmem, rfl⟩
      exact ⟨below, (hfound below).1 hmem, rfl⟩
    · rintro ⟨below, hsought, rfl⟩
      exact ⟨below, (hfound below).2 hsought, rfl⟩
  · have hfault : w.fault? (s.excludes.map exclusion) = none := htakes.fault? hq.named
    simp only [sourceFilesBy, hroot, hentries, hoverrides, hfault]
    cases s.maxFiles <;> rfl

/-- A name with the extension of a source file that is not text. -/
def oddName : Segment := .raw [0xFF, 0x2E, 0x6D, 0x71, 0x6C]

/-- Files in a workspace folder with an excluded name, which lies in a hidden
folder. -/
def cachedFiles : List (List Segment × Content) :=
  [(["out", "z.mql"], .text []),
    ([".cache", "out", "shop", "C.MQL"], .text []),
    ([".cache", "out", "shop", "skip.mql"], .text []),
    ([".cache", "out", "shop", oddName], .text []),
    ([".cache", "out", "skip.mql", "d.mql"], .text []),
    ([".cache", "out", "a", "target", "e.mql"], .text []),
    ([".cache", "out", "a", ".f.mql"], .text []),
    ([".cache", "out", "readme.txt"], .text []),
    ([".cache", "out", "shop-b.mql"], .text [])]

/-- A disk that holds them. -/
def cachedDisk : Disk := cachedFiles.foldl (fun disk file => disk.write file.1 file.2) .empty

/-- Settings that exclude a name with an extension and keep three files. -/
def cachedSettings : Settings :=
  { excludeDirs := ["skip.mql"]
    respectIgnore := false
    extensions := ["mql"]
    maxFiles := some 3
    maxDiagnostics := 1000
    debounce := 200 }

/-- Of the four files that are sought the first three are found: one with its
extension in capitals, one with the name of an excluded folder, and one with a
name that is not text. -/
theorem sourceFilesBy_sought_cachedDisk :
    cachedDisk.root.Proper ∧
      cachedDisk.locate (Path.parse "/.cache/out") = .ok [".cache", "out"] ∧
      (∀ dir ∈ cachedSettings.excludeDirs, Glob.PlainName dir) ∧
      sourceFilesBy IgnoreWalk.walker cachedDisk (Path.parse "/.cache/out") cachedSettings
        = .ok [.parse "/.cache/out/shop/C.MQL", .parse "/.cache/out/shop/skip.mql",
          ⟨true, [".cache", "out", "shop", oddName]⟩] ∧
      ∃ files,
        AllSought cachedDisk (Path.parse "/.cache/out") [".cache", "out"] cachedSettings files ∧
        sourceFilesBy IgnoreWalk.walker cachedDisk (Path.parse "/.cache/out") cachedSettings
          = .ok (files.take 3) := by
  have hproper : cachedDisk.root.Proper :=
    Entry.Proper.foldl_write .folder_nil (by decide +kernel)
  have hroot : cachedDisk.locate (Path.parse "/.cache/out") = .ok [".cache", "out"] := by
    decide +kernel
  have hplain : ∀ dir ∈ cachedSettings.excludeDirs, Glob.PlainName dir := by decide +kernel
  refine ⟨hproper, hroot, hplain, by decide +kernel, ?_⟩
  exact sourceFilesBy_sought IgnoreWalk.walker IgnoreWalk.descends IgnoreWalk.skipsHidden
    IgnoreWalk.skipsOverridden IgnoreWalk.takesNames cachedDisk hproper
    (Path.parse "/.cache/out") [".cache", "out"] hroot ⟨_, rfl⟩ cachedSettings rfl hplain

end Discovery

end DefIndex
