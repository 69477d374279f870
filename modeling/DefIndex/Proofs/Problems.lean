import Mathlib.Algebra.Order.Group.Multiset
import Mathlib.Tactic.Abel
import DefIndex.Proofs.Blocks
import DefIndex.Proofs.References
import DefIndex.Proofs.Reports
import DefIndex.Proofs.WellFormed

/-!
# `DefIndex.Proofs.Problems`: every problem is reported once

The problems of a file are found in three places: while its outline is
read, when its imports are looked up, and when its terms are resolved.
This file lists them without any of these passes, each kind by what causes
it, and proves that a snapshot reports exactly what is listed.

* `Outline.duplicates`, `Outline.strayBraces` and `Outline.strayImports`
  are the problems inside a file. `Draft.warnings_step` tells which of them
  an event adds, and `Outline.warnings_read` that reading reports them.
* `Snapshot.problemsIn` lists all problems of a file, and
  `Snapshot.accounted_build` is the statement about snapshots.
-/

set_option autoImplicit false

namespace DefIndex

/-! ### The problems inside a file -/

namespace Outline

/-- The report on a declaration, in view of the earlier ones of its file: the
first of them that has its context and its name, if there is one. -/
def duplicate? (file : Path) (earlier : List Declaration) (d : Declaration) : Option Diagnostic :=
  (earlier.find? fun e => e.context = d.context ∧ e.name = d.name).map fun first =>
    (Problem.duplicate (qualify d.context d.name) first.line).reportAt
      (.span file d.line d.column d.name.length)

/-- The reports on declarations of what is declared already. -/
def duplicates (file : Path) (declarations : List Declaration) : List Diagnostic :=
  inTurn (duplicate? file) declarations

/-- The reports on closing braces that close nothing. -/
def strayBraces (file : Path) (marks : List Braces.Mark) : List Diagnostic :=
  (Braces.strays marks).map fun mark =>
    Problem.strayBrace.reportAt (.span file mark.line mark.column 1)

/-- The place of the path that an event imports. -/
def importAt? (file : Path) : Nat × Event → Option Location
  | (line, .statement text column 0 _) =>
    match Statement.read text with
    | .imports token => some (.span file line (column + token.offset) token.text.length)
    | _ => none
  | _ => none

/-- The report on an import, in view of the events before it: no block that
has an owner is open behind them. -/
def strayImport? (file : Path) (past : List (Nat × Event)) (event : Nat × Event) :
    Option Diagnostic :=
  if Event.InBlock past then none
  else (importAt? file event).map Problem.strayImport.reportAt

/-- The reports on imports outside every block that has an owner. -/
def strayImports (file : Path) (events : List (Nat × Event)) : List Diagnostic :=
  inTurn (strayImport? file) events

/-- What a report on a duplicate shows of a declaration. -/
def heading (d : Declaration) : (Text × Text) × Nat × Nat :=
  ((d.context, d.name), d.line, d.column)

/-- Declarations with the same headings have the same duplicates. -/
theorem duplicates_congr {file : Path} {ds es : List Declaration}
    (h : ds.map heading = es.map heading) : duplicates file ds = duplicates file es := by
  -- A report reads nothing but headings, so it can be made from them.
  let seen (earlier : List ((Text × Text) × Nat × Nat)) (d : (Text × Text) × Nat × Nat) :
      Option Diagnostic :=
    (earlier.find? fun e => e.1 = d.1).map fun first =>
      (Problem.duplicate (qualify d.1.1 d.1.2) first.2.1).reportAt
        (.span file d.2.1 d.2.2 d.1.2.length)
  have hview (ds : List Declaration) : duplicates file ds = inTurn seen (ds.map heading) := by
    rw [inTurn_map, duplicates]
    refine congrArg (inTurn · ds) (funext fun earlier => funext fun d => ?_)
    simp only [seen, duplicate?, List.find?_map, Option.map_map]
    have hsame (e : Declaration) : decide (e.context = d.context ∧ e.name = d.name)
        = decide ((heading e).1 = (heading d).1) := by
      simp only [heading, Prod.mk.injEq]
    simp only [hsame]
    rfl
  rw [hview, hview, h]

end Outline

namespace Draft

/-! ### One event -/

/-- The declaration that an event adds. -/
def added? (d : Draft) : Nat × Event → Option Declaration
  | (line, .statement text column 0 _) =>
    match Statement.read text with
    | .inherits (some (name, target)) =>
      some (d.declaration .inherit line (column + name.offset) name.text (some target))
    | .declares kind name => some (d.declaration kind line (column + name.offset) name.text none)
    | _ => none
  | _ => none

/-- The report on a brace that closes nothing. -/
def strayBrace? (d : Draft) : Nat × Event → Option Diagnostic
  | (line, .closing column) =>
    if d.scope.frames = [] then some (Problem.strayBrace.reportAt (.span d.file line column 1))
    else none
  | _ => none

/-- The report on an import where the current block has no owner. -/
def strayImport? (d : Draft) (event : Nat × Event) : Option Diagnostic :=
  if d.scope.current.isSome = true then none
  else (Outline.importAt? d.file event).map Problem.strayImport.reportAt

/-- Declaring a name reports it if its context has it already. -/
theorem warnings_declare_eq (d : Draft) (kind : Kind) (line column : Nat) (name : Text)
    (target : Option Text) :
    (d.declare kind line column name target).warnings = d.warnings
      ++ (Outline.duplicate? d.file d.declarations
          (d.declaration kind line column name target)).toList := by
  have hfirst : Outline.duplicate? d.file d.declarations
      (d.declaration kind line column name target)
        = (d.firstNamed? d.scope.context name).map fun first =>
          (Problem.duplicate (qualify d.scope.context name) first.line).reportAt
            (.span d.file line column name.length) := by
    rw [firstNamed?_eq_find?]
    rfl
  rw [hfirst]
  simp only [declare, warnDuplicate]
  cases d.firstNamed? d.scope.context name with
  | none => exact (List.append_nil _).symm
  | some first => rfl

/-- What an event adds to the reports. -/
theorem warnings_step (d : Draft) (event : Nat × Event) :
    (d.step event).warnings = d.warnings
      ++ (((d.added? event).bind (Outline.duplicate? d.file d.declarations)).toList
        ++ (d.strayBrace? event).toList ++ (d.strayImport? event).toList) := by
  obtain ⟨line, event⟩ := event
  cases event with
  | opening column => simp [step, added?, strayBrace?, strayImport?, Outline.importAt?]
  | closing column =>
      cases hframes : d.scope.frames <;>
        simp [step, Scope.leave, hframes, warn, added?, strayBrace?, strayImport?,
          Outline.importAt?]
  | statement text column depth terminated =>
      have hstep : (d.step (line, .statement text column depth terminated)).warnings
          = if depth = 0 then (d.takeStatement line column text).warnings else d.warnings := by
        simp only [step, apply_ite Draft.warnings, ite_self]
      rw [hstep]
      cases depth with
      | succ depth => simp [added?, strayBrace?, strayImport?, Outline.importAt?]
      | zero =>
          simp only [added?, strayBrace?, strayImport?, Outline.importAt?, takeStatement]
          cases hread : Statement.read text with
          | imports token =>
              simp only [attach]
              cases d.scope.current <;> simp
          | inherits found =>
              cases found with
              | none => simp
              | some pair => simp [warnings_declare_eq]
          | declares kind name => simp [warnings_declare_eq]
          | other => simp

/-- What an event adds to the headings. -/
theorem headings_step (d : Draft) (event : Nat × Event) :
    (d.step event).declarations.map Outline.heading
      = (d.declarations ++ (d.added? event).toList).map Outline.heading := by
  -- A declaration that gets a child or an import keeps its heading.
  have hgrow (new : Declaration) : (grow d.declarations new).map Outline.heading
      = (d.declarations ++ [new]).map Outline.heading := by
    rw [List.map_append]
    exact map_grow_of_view (fun _ _ => rfl) d.declarations new
  have hdeclare (kind : Kind) (line column : Nat) (name : Text) (target : Option Text) :
      (d.declare kind line column name target).declarations.map Outline.heading
        = (d.declarations ++ [d.declaration kind line column name target]).map Outline.heading := by
    rw [(declare_fields d kind line column name target).1, hgrow]
  obtain ⟨line, event⟩ := event
  cases event with
  | opening column => simp [step, added?]
  | closing column =>
      simp only [step, apply_ite Draft.declarations, warn, ite_self, added?]
      simp
  | statement text column depth terminated =>
      simp only [step, apply_ite Draft.declarations, ite_self]
      cases depth with
      | succ depth => simp [added?]
      | zero =>
          simp only [added?, takeStatement, if_true]
          cases hread : Statement.read text with
          | imports token =>
              simp only [attach, Option.toList_none, List.append_nil]
              split
              · refine map_modify_of_view (fun e => ?_) d.declarations _
                split <;> rfl
              · rfl
          | inherits found =>
              cases found with
              | none => simp
              | some pair => exact hdeclare ..
          | declares kind name => exact hdeclare ..
          | other => simp

/-- What an event adds to the duplicates. -/
theorem duplicates_step (d : Draft) (event : Nat × Event) :
    Outline.duplicates d.file (d.step event).declarations
      = Outline.duplicates d.file d.declarations
        ++ ((d.added? event).bind (Outline.duplicate? d.file d.declarations)).toList := by
  rw [Outline.duplicates_congr (d.headings_step event), Outline.duplicates]
  cases d.added? event with
  | none => simp [Outline.duplicates]
  | some new => exact inTurn_concat _ _ new

/-! ### All events -/

section After

variable (file : Path) (events : List (Nat × Event))

/-- Reading events does not change the file. -/
theorem file_after : (after file events).file = file := file_foldl (start file) events

/-- A brace closes nothing if no block is open. -/
theorem strayBraces_concat (event : Nat × Event) :
    Outline.strayBraces file (Event.marks (events ++ [event]))
      = Outline.strayBraces file (Event.marks events)
        ++ ((after file events).strayBrace? event).toList := by
  -- No brace is open exactly if the scope has no frames.
  have hopen := not_congr (hasOpen_iff file events)
  rw [not_ne_iff, Event.braces] at hopen
  rw [Event.marks_concat]
  obtain ⟨line, event⟩ := event
  cases event with
  | opening column =>
      simp [Event.mark?, Outline.strayBraces, Braces.strays, inTurn_concat, Braces.stray?,
        strayBrace?]
  | closing column =>
      by_cases hframes : (after file events).scope.frames = []
      · simp [Event.mark?, Outline.strayBraces, Braces.strays, inTurn_concat, Braces.stray?,
          strayBrace?, hopen, hframes, file_after]
      · simp [Event.mark?, Outline.strayBraces, Braces.strays, inTurn_concat, Braces.stray?,
          strayBrace?, hopen, hframes]
  | statement text column depth terminated => simp [Event.mark?, strayBrace?]

/-- An import is stray if the current block has no owner. -/
theorem strayImports_concat (event : Nat × Event) :
    Outline.strayImports file (events ++ [event])
      = Outline.strayImports file events ++ ((after file events).strayImport? event).toList := by
  rw [Outline.strayImports, inTurn_concat, Outline.strayImport?, strayImport?, file_after]
  simp only [inBlock_iff file]
  rfl

/-- What reading reports, by kinds. -/
theorem warnings_after :
    (after file events).warnings.Perm
      (Outline.duplicates file (after file events).declarations
        ++ Outline.strayBraces file (Event.marks events) ++ Outline.strayImports file events) := by
  -- Each kind grows at its own end.
  have hparts (as bs cs as' bs' cs' : List Diagnostic) :
      ((as ++ bs ++ cs) ++ (as' ++ bs' ++ cs')).Perm
        ((as ++ as') ++ (bs ++ bs') ++ (cs ++ cs')) := by
    simp only [← Multiset.coe_eq_coe, ← Multiset.coe_add]
    abel
  induction events using List.reverseRecOn with
  | nil => exact List.Perm.refl _
  | append_singleton events event ih =>
      have hduplicates := (after file events).duplicates_step event
      rw [file_after] at hduplicates
      rw [after_concat, warnings_step, file_after, hduplicates, strayBraces_concat,
        strayImports_concat]
      exact (ih.append_right _).trans (hparts ..)

end After

end Draft

/-- What reading a file reports. -/
theorem Outline.warnings_read (file : Path) (source : Text) :
    (Outline.read file source).warnings.Perm
      (duplicates file.normalize (Outline.read file source).declarations
        ++ strayBraces file.normalize (Braces.marksOf (Comment.cleanLines source))
        ++ strayImports file.normalize (Event.ofLines 0 (Comment.cleanLines source))) := by
  have hbraces (marks : List Braces.Mark) :
      strayBraces file.normalize (marks.filter fun mark => Braces.isBrace mark.char)
        = strayBraces file.normalize marks := by
    rw [strayBraces, Braces.strays_filter, strayBraces]
  rw [← hbraces, ← Event.marks_ofLines 0]
  exact Draft.warnings_after file.normalize (Event.ofLines 0 (Comment.cleanLines source))

/-! ### The problems of a snapshot -/

namespace Diagnostic

/-- The order of reports. -/
theorem le_iff {a b : Diagnostic} :
    a.le b = true ↔ a.location.line < b.location.line ∨
      a.location.line = b.location.line ∧ a.location.column ≤ b.location.column := by
  simp [le]

/-- Of two reports one stands no later than the other one. -/
theorem le_total (a b : Diagnostic) : a.le b = true ∨ b.le a = true := by
  simp only [le_iff]
  omega

/-- The order of reports is transitive. -/
theorem le_trans (a b c : Diagnostic) (hab : a.le b = true) (hbc : b.le c = true) :
    a.le c = true := by
  rw [le_iff] at hab hbc ⊢
  omega

/-- Reports are listed in order. -/
theorem pairwise_sortAndCap (limit : Nat) (ds : List Diagnostic) :
    (sortAndCap limit ds).Pairwise fun a b => a.le b = true :=
  (pairwise_sortBy le_total le_trans ds).sublist (List.take_sublist _ _)

end Diagnostic

namespace Snapshot

/-- Everything that is wrong with a file, where a table defines names and
some files are indexed: terms that are no full names, repeated
declarations, braces and imports out of place, imports of files that are
not there. -/
def problemsIn (table : Table) (indexed : List Path) (file : Path) (source : Text) :
    List Diagnostic :=
  let lines := Comment.cleanLines source
  ((Term.ofLines file.normalize lines).filter fun t => !table.defines t.text).map
      (fun t => (Problem.unresolved t.text).reportAt t.location)
    ++ Outline.duplicates file.normalize (Outline.read file source).declarations
    ++ Outline.strayBraces file.normalize (Braces.marksOf lines)
    ++ Outline.strayImports file.normalize (Event.ofLines 0 lines)
    ++ ((Outline.read file source).imports.filter fun i => i.path ∉ indexed).map
      fun i => (Problem.missingImport i.path).reportAt i.location

/-- The files of a table are those of the sources. -/
theorem perm_files {sources : List (Path × Text)}
    (hdistinct : ((outlinesOf sources).map Outline.file).Nodup) {table : Table}
    (htable : Table.build (outlinesOf sources) = .ok table) :
    table.files.Perm (sources.map fun source => source.1.normalize) := by
  have hperm := (Table.inOrder_perm (outlinesOf sources)).map Outline.file
  rw [Table.files_of_build htable, Table.fileList,
    dropRepeats_of_nodup (hperm.nodup_iff.2 hdistinct), ← map_file_outlinesOf]
  exact hperm

/-- Where the files are distinct, the problems that a snapshot collects for
a file are those that the file has. -/
theorem problemsOf_perm {sources : List (Path × Text)}
    (hdistinct : ((outlinesOf sources).map Outline.file).Nodup) {table : Table}
    (htable : Table.build (outlinesOf sources) = .ok table) {source : Path × Text}
    (hsource : source ∈ sources) :
    (problemsOf table (outlinesOf sources) source.1.normalize).Perm
      (problemsIn table (sources.map fun source => source.1.normalize) source.1 source.2) := by
  let o := Outline.read source.1 source.2
  have ho : o ∈ outlinesOf sources := List.mem_map_of_mem hsource
  have hfile : o.file = source.1.normalize := Outline.file_read _ _
  have hfound : outlineAt? (outlinesOf sources) source.1.normalize = some o :=
    hfile ▸ outlineAt?_of_mem hdistinct ho
  have hone : (outlinesOf sources).filter (fun m => m.file = source.1.normalize) = [o] :=
    hfile ▸ ReferenceIndex.filter_eq_of_nodup hdistinct ho
  have hmissing : missingImports table o
      = (o.imports.filter fun i => i.path ∉ sources.map fun source => source.1.normalize).map
        fun i => (Problem.missingImport i.path).reportAt i.location := by
    rw [missingImports]
    refine congrArg (List.map _) (List.filter_congr fun i _ => ?_)
    simp only [Table.containsFile, (perm_files hdistinct htable).mem_iff, decide_not]
  have hterms : ReferenceIndex.unresolved table source.1.normalize o.lines
      = ((Term.ofLines source.1.normalize (Comment.cleanLines source.2)).filter
          fun t => !table.defines t.text).map
        fun t => (Problem.unresolved t.text).reportAt t.location := by
    simp only [ReferenceIndex.unresolved, (Table.indexed_build htable).contains_eq_defines]
    rfl
  simp only [problemsOf, hfound, hone, hmissing, hterms, Option.toList_some, List.flatMap_singleton]
  -- The reports on terms come last here and first there.
  refine List.perm_append_comm.trans ?_
  rw [problemsIn, List.append_assoc, List.append_assoc, List.append_assoc]
  refine List.Perm.append_left _ ?_
  rw [← List.append_assoc, ← List.append_assoc]
  exact (Outline.warnings_read source.1 source.2).append_right _

/-- What a snapshot of some files reports, with at most `limit` problems
for each. -/
structure Accounted (version : Nat) (sources : List (Path × Text)) (failures : List ReadFailure)
    (limit : Nat) (s : Snapshot) : Prop where
  /-- There is one list for each file, and no other. -/
  files : (s.diagnostics.map Prod.fst).Perm (sources.map fun source => source.1.normalize)
  /-- No file has two lists. -/
  distinct : (s.diagnostics.map Prod.fst).Nodup
  /-- A list that is not cut off has everything that is wrong with its file,
  once, and nothing else. -/
  complete : ∀ source ∈ sources,
    let problems := problemsIn s.table (sources.map fun source => source.1.normalize)
      source.1 source.2
    problems.length ≤ limit → (s.diagnosticsFor source.1.normalize).Perm problems
  /-- Every list goes from top to bottom and from left to right. -/
  ordered : ∀ source ∈ sources, (s.diagnosticsFor source.1.normalize).Pairwise fun a b =>
    a.location.line < b.location.line ∨
      a.location.line = b.location.line ∧ a.location.column ≤ b.location.column
  /-- A list is the front of the one that a larger limit gives. -/
  capped : ∀ more, limit ≤ more → ∃ full,
    Snapshot.build version (outlinesOf sources) failures more = .ok full ∧
      ∀ source ∈ sources, s.diagnosticsFor source.1.normalize
        = (full.diagnosticsFor source.1.normalize).take limit

/-- What a snapshot lists: each file of its table with its problems. -/
theorem diagnostics_of_build {version limit : Nat} {outlines : List Outline}
    {failures : List ReadFailure} {s : Snapshot}
    (h : Snapshot.build version outlines failures limit = .ok s) :
    Table.build outlines = .ok s.table ∧ s.diagnostics.map Prod.fst = s.table.files ∧
      ∀ file ∈ s.table.files,
        s.diagnosticsFor file = Diagnostic.sortAndCap limit (problemsOf s.table outlines file) := by
  obtain ⟨table, htable, rfl⟩ := exists_of_build_ok h
  refine ⟨htable, ?_, fun file hfile => ?_⟩
  · rw [List.map_map]
    exact List.map_id _
  · exact congrArg (Option.getD · []) (List.lookup_graph _ hfile)

/-- A snapshot is built of every table, whatever the limit. -/
theorem exists_build {outlines : List Outline} {table : Table}
    (htable : Table.build outlines = .ok table) (version : Nat) (failures : List ReadFailure)
    (limit : Nat) :
    ∃ s, Snapshot.build version outlines failures limit = .ok s ∧ s.table = table := by
  simp only [Snapshot.build, htable]
  exact ⟨_, rfl, rfl⟩

/-- A snapshot reports every problem of every file once. -/
theorem accounted_build (version : Nat) (sources : List (Path × Text))
    (hdistinct : ((outlinesOf sources).map Outline.file).Nodup) (failures : List ReadFailure)
    (limit : Nat) (s : Snapshot)
    (h : Snapshot.build version (outlinesOf sources) failures limit = .ok s) :
    Accounted version sources failures limit s := by
  obtain ⟨htable, hkeys, hlists⟩ := diagnostics_of_build h
  have hfiles := perm_files hdistinct htable
  have hmem {source : Path × Text} (hsource : source ∈ sources) :
      source.1.normalize ∈ s.table.files :=
    hfiles.mem_iff.2 (List.mem_map_of_mem hsource)
  refine ⟨hkeys ▸ hfiles, hkeys ▸ Table.nodup_files htable, fun source hsource => ?_,
    fun source hsource => ?_, fun more hmore => ?_⟩
  · intro problems hlimit
    have hperm := problemsOf_perm hdistinct htable hsource
    rw [hlists _ (hmem hsource), Diagnostic.sortAndCap, List.take_of_length_le]
    · exact (sortBy_perm _ _).trans hperm
    · rw [length_sortBy, hperm.length_eq]
      exact hlimit
  · rw [hlists _ (hmem hsource)]
    exact (Diagnostic.pairwise_sortAndCap limit _).imp Diagnostic.le_iff.1
  · obtain ⟨full, hfull, hsame⟩ := exists_build htable version failures more
    refine ⟨full, hfull, fun source hsource => ?_⟩
    obtain ⟨-, -, hfullLists⟩ := diagnostics_of_build hfull
    rw [hlists _ (hmem hsource), hfullLists _ (hsame ▸ hmem hsource), hsame,
      Diagnostic.sortAndCap, Diagnostic.sortAndCap, List.take_take, Nat.min_eq_left hmore]

/-- A file with one problem of each kind, and another one with an import
outside every block. -/
def brokenSources : List (Path × Text) :=
  [(.parse "/ws/a.mql",
      "CREATE BASE A \x7bCREATE TAG T; CREATE TAG T; IMPORT c\n\x7d\x7d\nIMPORT b\n\x7b?A.T ?A.U\x7d"),
    (.parse "/ws/b.mql", "IMPORT a // ?A")]

/-- Of two files one has five problems and the other one has one. -/
theorem accounted_build_brokenSources :
    ((outlinesOf brokenSources).map Outline.file).Nodup ∧
      ∃ s, Snapshot.build 1 (outlinesOf brokenSources) [] 4 = .ok s ∧
        (brokenSources.map fun source =>
          (problemsIn s.table (brokenSources.map fun source => source.1.normalize)
            source.1 source.2).length) = [5, 1] ∧
        Accounted 1 brokenSources [] 4 s := by
  have hdistinct : ((outlinesOf brokenSources).map Outline.file).Nodup := by
    rw [map_file_outlinesOf]
    decide +kernel
  have hfacts : (Table.build (outlinesOf brokenSources)).toOption.map (fun table =>
      brokenSources.map fun source =>
        (problemsIn table (brokenSources.map fun source => source.1.normalize)
          source.1 source.2).length) = some [5, 1] := by
    decide +kernel
  obtain ⟨table, htable, hlengths⟩ := exists_ok_of_toOption hfacts
  obtain ⟨s, hs, rfl⟩ := exists_build htable 1 [] 4
  exact ⟨hdistinct, s, hs, hlengths, accounted_build 1 brokenSources hdistinct [] 4 s hs⟩

end Snapshot

end DefIndex
