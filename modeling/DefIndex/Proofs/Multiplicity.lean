import Mathlib.Algebra.BigOperators.Group.Finset.Basic
import Mathlib.Algebra.GroupWithZero.Nat
import Mathlib.Data.Fintype.Card
import Mathlib.Data.Set.Finite.Basic
import DefIndex.Proofs.ImportGraph

/-!
# `DefIndex.Proofs.Multiplicity`: how often a file is spliced

A file stands in the forest once for every import of it, and each of these
imports once for every time its own file stands there. The numbers are the
solution of a system of equations, one for each file, and without a cycle
there is one solution.

* `importSites outlines f` are the imports of a file, one entry each.
* `IsMultiplicity outlines mult` are the equations.
* `Unfolds.files_perm`: the files of an unfolding are the file it starts
  with and what its files import.
* `spliceAll_eq_roots`: without a cycle the files that nobody imports lead
  to all others, so their trees are the whole forest.
* `isMultiplicity_count`: the number of times that a file stands in the
  forest solves the equations.
-/

set_option autoImplicit false

namespace DefIndex

open scoped List

/-! ### The equations -/

/-- The imports of a file: the importing file and the declaration that
holds the import, once for each import. -/
def importSites (outlines : List Outline) (f : Path) : List (Outline × Declaration) :=
  outlines.flatMap fun o => o.declarations.flatMap fun d =>
    (d.imports.filter fun i => i.path = f).map fun _ => (o, d)

/-- How often each file is spliced: once if nobody imports it, otherwise as
often as the files of its imports together. -/
def IsMultiplicity (outlines : List Outline) (mult : Path → Nat) : Prop :=
  ∀ o ∈ outlines, mult o.file =
    if importSites outlines o.file = [] then 1
    else ((importSites outlines o.file).map fun site => mult site.1.file).sum

instance (outlines : List Outline) (mult : Path → Nat) :
    Decidable (IsMultiplicity outlines mult) :=
  inferInstanceAs (Decidable (∀ o ∈ outlines, mult o.file =
    if importSites outlines o.file = [] then 1
    else ((importSites outlines o.file).map fun site => mult site.1.file).sum))

/-- An import site, spelled out. -/
theorem mem_importSites {outlines : List Outline} {f : Path} {site : Outline × Declaration} :
    site ∈ importSites outlines f ↔ site.1 ∈ outlines ∧ site.2 ∈ site.1.declarations ∧
      ∃ i ∈ site.2.imports, i.path = f := by
  obtain ⟨o, d⟩ := site
  simp only [importSites, List.mem_flatMap, List.mem_map, List.mem_filter, decide_eq_true_eq,
    Prod.mk.injEq]
  constructor
  · rintro ⟨o, ho, d, hd, i, ⟨hi, hpath⟩, rfl, rfl⟩
    exact ⟨ho, hd, i, hi, hpath⟩
  · rintro ⟨ho, hd, i, hi, hpath⟩
    exact ⟨o, ho, d, hd, i, ⟨hi, hpath⟩, rfl, rfl⟩

/-- An import site of an indexed file is an edge. -/
theorem imports_of_mem_importSites {outlines : List Outline} {o : Outline} (ho : o ∈ outlines)
    {site : Outline × Declaration} (h : site ∈ importSites outlines o.file) :
    Imports outlines site.1.file o.file := by
  obtain ⟨hsite, hd, i, hi, hpath⟩ := mem_importSites.1 h
  exact ⟨site.1, hsite, rfl, ⟨site.2, hd, i, hi, hpath⟩, List.mem_map_of_mem ho⟩

/-- Without a cycle, what passes from the importers of a file to the file
holds for all files. -/
theorem importers_induction {outlines : List Outline}
    (hacyclic : ∀ f, ¬ Relation.TransGen (Imports outlines) f f) {motive : Path → Prop}
    (step : ∀ o ∈ outlines, (∀ p ∈ outlines, Imports outlines p.file o.file → motive p.file) →
      motive o.file) : ∀ o ∈ outlines, motive o.file := by
  -- There are finitely many files, so no walk goes back for ever.
  let before (f g : {f // f ∈ outlines.map Outline.file}) : Prop :=
    Relation.TransGen (Imports outlines) f.1 g.1
  have : Finite {f // f ∈ outlines.map Outline.file} :=
    (List.finite_toSet (outlines.map Outline.file)).to_subtype
  have : IsTrans _ before := ⟨fun _ _ _ => Relation.TransGen.trans⟩
  have : Std.Irrefl before := ⟨fun f => hacyclic f.1⟩
  have hwf : WellFounded before := Finite.wellFounded_of_trans_of_irrefl before
  have hall : ∀ f : {f // f ∈ outlines.map Outline.file}, motive f.1 := by
    intro f
    induction f using hwf.induction with
    | _ f ih =>
        obtain ⟨f, hf⟩ := f
        obtain ⟨o, ho, rfl⟩ := List.mem_map.1 hf
        exact step o ho fun p hp hedge => ih ⟨p.file, List.mem_map_of_mem hp⟩ (.single hedge)
  exact fun o ho => hall ⟨o.file, List.mem_map_of_mem ho⟩

/-- Without a cycle the equations have at most one solution. -/
theorem IsMultiplicity.unique {outlines : List Outline} {mult other : Path → Nat}
    (hacyclic : ∀ f, ¬ Relation.TransGen (Imports outlines) f f)
    (h : IsMultiplicity outlines mult) (h' : IsMultiplicity outlines other) :
    ∀ o ∈ outlines, mult o.file = other o.file := by
  refine importers_induction hacyclic (motive := fun f => mult f = other f) fun o ho ih => ?_
  rw [h o ho, h' o ho]
  have hsame : (importSites outlines o.file).map (fun site => mult site.1.file)
      = (importSites outlines o.file).map fun site => other site.1.file :=
    List.map_congr_left fun site hsite =>
      ih site.1 (mem_importSites.1 hsite).1 (imports_of_mem_importSites ho hsite)
  rw [hsame]

/-! ### The files of an unfolding -/

/-- The file that an import names, if it is indexed. -/
def indexed (outlines : List Outline) (i : Import) : List Path :=
  if (outlineAt? outlines i.path).isSome then [i.path] else []

/-- The indexed files that a file imports, once for each import. -/
def importsFrom (outlines : List Outline) (f : Path) : List Path :=
  match outlineAt? outlines f with
  | some o => o.imports.flatMap (indexed outlines)
  | none => []

section Distinct

variable {outlines : List Outline} (hdistinct : (outlines.map Outline.file).Nodup)

include hdistinct

/-- A path is indexed if an outline has it. -/
theorem isSome_outlineAt?_iff {f : Path} :
    (outlineAt? outlines f).isSome ↔ f ∈ outlines.map Outline.file := by
  rw [Option.isSome_iff_exists, List.mem_map]
  constructor
  · rintro ⟨o, hfound⟩
    exact ⟨o, file_of_outlineAt? hfound⟩
  · rintro ⟨o, ho, rfl⟩
    exact ⟨o, outlineAt?_of_mem hdistinct ho⟩

/-- What a file imports, read off its outline. -/
theorem importsFrom_file {o : Outline} (ho : o ∈ outlines) :
    importsFrom outlines o.file = o.imports.flatMap (indexed outlines) := by
  simp only [importsFrom, outlineAt?_of_mem hdistinct ho]

/-- The files that a file imports are its neighbours in the graph. -/
theorem mem_importsFrom {o : Outline} (ho : o ∈ outlines) {g : Path} :
    g ∈ importsFrom outlines o.file ↔ Imports outlines o.file g := by
  rw [importsFrom_file hdistinct ho, List.mem_flatMap]
  constructor
  · rintro ⟨i, hi, hg⟩
    cases hfound : outlineAt? outlines i.path with
    | none => simp [indexed, hfound] at hg
    | some m =>
        simp only [indexed, hfound, Option.isSome_some, if_true, List.mem_singleton] at hg
        exact hg ▸ imports_of_mem ho hi hfound
  · rintro ⟨p, hp, hfile, ⟨d, hd, i, hi, rfl⟩, hindexed⟩
    obtain rfl : p = o := List.inj_on_of_nodup_map hdistinct hp ho hfile
    refine ⟨i, List.mem_flatMap.2 ⟨d, hd, hi⟩, ?_⟩
    rw [indexed, if_pos ((isSome_outlineAt?_iff hdistinct).2 hindexed)]
    exact List.mem_singleton_self _

variable (hnested : ∀ o ∈ outlines, WellNested o.declarations)

include hnested

/-- The files of an unfolding are the file it starts with and what its
files import. -/
theorem Unfolds.files_perm {o : Outline} {tree : Splice} (h : Unfolds outlines o tree)
    (ho : o ∈ outlines) :
    tree.files.Perm (o.file :: tree.files.flatMap (importsFrom outlines)) := by
  induction h with
  | enter o trees below ih =>
      have hbelow : ∀ i ∈ o.imports, (Splice.filesAll (spliced outlines trees i.path)).Perm
          (indexed outlines i ++ (Splice.filesAll (spliced outlines trees i.path)).flatMap
            (importsFrom outlines)) := by
        intro i hi
        cases hfound : outlineAt? outlines i.path with
        | none => simp [spliced, indexed, hfound, Splice.filesAll]
        | some m =>
            obtain ⟨hm, hfile⟩ := file_of_outlineAt? hfound
            simpa [spliced, indexed, hfound, hfile, Splice.filesAll] using ih i hi m hfound hm
      have hrest := filesAll_graftAll_perm (hnested o ho) (spliced outlines trees)
      rw [Splice.files, List.flatMap_cons, importsFrom_file hdistinct ho]
      refine List.Perm.cons _ ?_
      calc Splice.filesAll (Splice.graftAll (spliced outlines trees) o.forest)
        _ ~ o.imports.flatMap fun i => Splice.filesAll (spliced outlines trees i.path) := hrest
        _ ~ o.imports.flatMap fun i => indexed outlines i
              ++ (Splice.filesAll (spliced outlines trees i.path)).flatMap (importsFrom outlines) :=
            .flatMap_left _ hbelow
        _ ~ o.imports.flatMap (indexed outlines) ++ o.imports.flatMap fun i =>
              (Splice.filesAll (spliced outlines trees i.path)).flatMap (importsFrom outlines) :=
            (List.flatMap_append_perm _ _ _).symm
        _ = o.imports.flatMap (indexed outlines) ++ (o.imports.flatMap fun i =>
              Splice.filesAll (spliced outlines trees i.path)).flatMap (importsFrom outlines) := by
            rw [List.flatMap_assoc]
        _ ~ _ := (hrest.symm.flatMap_right _).append_left _

/-- An unfolding holds what its files import. -/
theorem Unfolds.mem_files_of_imports {o : Outline} {tree : Splice} (h : Unfolds outlines o tree)
    (ho : o ∈ outlines) {p : Outline} (hp : p ∈ outlines) (hmem : p.file ∈ tree.files) {g : Path}
    (hedge : Imports outlines p.file g) : g ∈ tree.files := by
  rw [(h.files_perm hdistinct hnested ho).mem_iff]
  refine List.mem_cons_of_mem _ (List.mem_flatMap.2 ⟨p.file, hmem, ?_⟩)
  exact (mem_importsFrom hdistinct hp).2 hedge

/-- The files of an unfolding are indexed. -/
theorem Unfolds.indexed_of_mem {o : Outline} {tree : Splice} (h : Unfolds outlines o tree)
    (ho : o ∈ outlines) {f : Path} (hmem : f ∈ tree.files) : f ∈ outlines.map Outline.file := by
  rw [(h.files_perm hdistinct hnested ho).mem_iff, List.mem_cons, List.mem_flatMap] at hmem
  obtain rfl | ⟨g, -, hf⟩ := hmem
  · exact List.mem_map_of_mem ho
  · rw [importsFrom] at hf
    split at hf
    · obtain ⟨i, -, hf⟩ := List.mem_flatMap.1 hf
      rw [indexed] at hf
      split at hf
      next hindexed =>
        rw [List.mem_singleton.1 hf]
        exact (isSome_outlineAt?_iff hdistinct).1 hindexed
      next => cases hf
    · cases hf

end Distinct

/-! ### The forest of a workspace -/

namespace Splice

/-- The files of the trees of a list. -/
theorem filesAll_map {α : Type} (tree : α → Splice) (xs : List α) :
    filesAll (xs.map tree) = xs.flatMap fun x => files (tree x) := by
  induction xs with
  | nil => rfl
  | cons x xs ih => rw [List.map_cons, filesAll, List.flatMap_cons, ih]

end Splice

/-- The files of the forest of a workspace, each as often as it stands
there. -/
def filesOf (outlines : List Outline) : List Path :=
  Splice.filesAll ((rootsOf outlines).map (treeOf outlines))

section Forest

variable {outlines : List Outline} (hdistinct : (outlines.map Outline.file).Nodup)

include hdistinct

/-- The files that nobody imports. -/
theorem mem_rootsOf {o : Outline} :
    o ∈ rootsOf outlines ↔ o ∈ outlines ∧ importSites outlines o.file = [] := by
  rw [rootsOf, List.mem_filter, decide_eq_true_eq]
  refine and_congr_right fun ho => ?_
  have hindexed := (isSome_outlineAt?_iff hdistinct).2 (List.mem_map_of_mem ho)
  -- `splicedFiles` leaves out what is not indexed; this file is.
  have himported : o.file ∈ splicedFiles outlines ↔ ∃ site, site ∈ importSites outlines o.file := by
    simp only [splicedFiles, List.mem_filterMap, List.mem_flatMap, Outline.imports]
    constructor
    · rintro ⟨i, ⟨p, hp, d, hd, hi⟩, hpath⟩
      refine ⟨(p, d), mem_importSites.2 ⟨hp, hd, i, hi, ?_⟩⟩
      split at hpath
      · exact Option.some.inj hpath
      · cases hpath
    · rintro ⟨site, hsite⟩
      obtain ⟨hp, hd, i, hi, hpath⟩ := mem_importSites.1 hsite
      refine ⟨i, ⟨site.1, hp, site.2, hd, hi⟩, ?_⟩
      rw [hpath, if_pos hindexed]
  rw [himported, List.eq_nil_iff_forall_not_mem, not_exists]

variable (hnested : ∀ o ∈ outlines, WellNested o.declarations)

include hnested

/-- A workspace that splices is the trees of the files that nobody
imports. -/
theorem spliceAll_eq_roots {forest : List Splice} (h : spliceAll outlines = .ok forest) :
    forest = (rootsOf outlines).map (treeOf outlines) ∧
      ∀ o ∈ rootsOf outlines, Unfolds outlines o (treeOf outlines o) := by
  have hacyclic := not_cyclic_of_spliceAll hdistinct hnested h
  rcases spliceAll_cases outlines with ⟨o, -, c, -, hfail⟩ | ⟨more, hok, hroots, hnew, -⟩
  · rw [hfail] at h
    cases h
  have hunfolds : ∀ o ∈ rootsOf outlines, Unfolds outlines o (treeOf outlines o) := fun o ho =>
    unfolds_of_expandFile hnested (List.mem_filter.1 ho).1 (hroots o ho)
  -- Going back along the imports ends at a file that nobody imports.
  have hheld : ∀ o ∈ outlines, o.file ∈ filesOf outlines := by
    refine importers_induction hacyclic (motive := fun f => f ∈ filesOf outlines) fun o ho ih => ?_
    rw [filesOf, Splice.filesAll_map, List.mem_flatMap]
    cases hsites : importSites outlines o.file with
    | nil =>
        have hroot : o ∈ rootsOf outlines := (mem_rootsOf hdistinct).2 ⟨ho, hsites⟩
        exact ⟨o, hroot, (hunfolds o hroot).file_mem⟩
    | cons site rest =>
        -- One importer is enough: the tree that holds it holds the file.
        have hsite : site ∈ importSites outlines o.file := by simp [hsites]
        have hedge := imports_of_mem_importSites ho hsite
        have hp := (mem_importSites.1 hsite).1
        have hmem := ih site.1 hp hedge
        rw [filesOf, Splice.filesAll_map, List.mem_flatMap] at hmem
        obtain ⟨root, hroot, hmem⟩ := hmem
        have hroot' := (List.mem_filter.1 hroot).1
        exact ⟨root, hroot, (hunfolds root hroot).mem_files_of_imports hdistinct hnested hroot' hp
          hmem hedge⟩
  -- So nothing was missing when the missing files were looked for.
  have hnone : more = [] := by
    refine List.eq_nil_iff_forall_not_mem.2 fun tree htree => ?_
    obtain ⟨o, ho, hmissing, -⟩ := hnew tree htree
    exact hmissing (hheld o ho)
  rw [hok, hnone, List.append_nil] at h
  exact ⟨(Except.ok.inj h).symm, hunfolds⟩

end Forest

/-! ### Counting -/

/-- A sum over a list, counted by the members of a list without
repetition. -/
theorem sum_map_eq_sum_count {α : Type} [DecidableEq α] {xs kinds : List α} (hkinds : kinds.Nodup)
    (hsub : ∀ x ∈ xs, x ∈ kinds) (g : α → Nat) :
    (xs.map g).sum = (kinds.map fun x => xs.count x * g x).sum := by
  rw [Finset.sum_list_map_count, ← List.sum_toFinset _ hkinds]
  -- Members that do not occur add nothing.
  refine Finset.sum_subset (fun x hx => ?_) fun x _ hx => ?_
  · exact List.mem_toFinset.2 (hsub x (List.mem_toFinset.1 hx))
  · have hzero : xs.count x = 0 := List.count_eq_zero.2 fun h => hx (List.mem_toFinset.2 h)
    show xs.count x * g x = 0
    rw [hzero, Nat.zero_mul]

/-- An indexed file is among the imported files as often as it is
imported. -/
theorem count_flatMap_indexed {outlines : List Outline} {f : Path}
    (hindexed : (outlineAt? outlines f).isSome) (imports : List Import) :
    (imports.flatMap (indexed outlines)).count f
      = (imports.filter fun i => i.path = f).length := by
  induction imports with
  | nil => rfl
  | cons i rest ih =>
      rw [List.flatMap_cons, List.count_append, ih, List.filter_cons]
      by_cases hpath : i.path = f
      · simp [indexed, hpath, hindexed, Nat.add_comm]
      · have hnone : (indexed outlines i).count f = 0 := by
          rw [List.count_eq_zero, indexed]
          split
          · simpa using Ne.symm hpath
          · exact List.not_mem_nil
        simp [hpath, hnone]

section Counting

variable {outlines : List Outline} (hdistinct : (outlines.map Outline.file).Nodup)

include hdistinct

/-- A sum over the import sites of a file, file by file. -/
theorem sum_importSites {o : Outline} (ho : o ∈ outlines) (mult : Path → Nat) :
    ((importSites outlines o.file).map fun site => mult site.1.file).sum
      = (outlines.map fun p => mult p.file * (importsFrom outlines p.file).count o.file).sum := by
  have hindexed := (isSome_outlineAt?_iff hdistinct).2 (List.mem_map_of_mem ho)
  rw [importSites, List.map_flatMap, List.flatMap_def, List.sum_flatten, List.map_map]
  refine congrArg List.sum (List.map_congr_left fun p hp => ?_)
  -- Every site in a file counts as the file does.
  have hconst : (p.declarations.flatMap fun d =>
        (d.imports.filter fun i => i.path = o.file).map fun _ => (p, d)).map
          (fun site => mult site.1.file)
      = List.replicate (p.imports.filter fun i => i.path = o.file).length (mult p.file) := by
    rw [List.eq_replicate_iff]
    refine ⟨?_, fun n hn => ?_⟩
    · simp [Outline.imports, List.filter_flatMap, List.length_flatMap]
    · obtain ⟨site, hsite, rfl⟩ := List.mem_map.1 hn
      simp only [List.mem_flatMap, List.mem_map] at hsite
      obtain ⟨d, -, i, -, rfl⟩ := hsite
      rfl
  rw [Function.comp_apply, hconst, List.sum_replicate_nat, importsFrom_file hdistinct hp,
    count_flatMap_indexed hindexed, Nat.mul_comm]

variable (hnested : ∀ o ∈ outlines, WellNested o.declarations)

include hnested

/-- The files of the forest are the files that nobody imports and what the
files of the forest import. -/
theorem filesOf_perm
    (hunfolds : ∀ o ∈ rootsOf outlines, Unfolds outlines o (treeOf outlines o)) :
    (filesOf outlines).Perm ((rootsOf outlines).map Outline.file
      ++ (filesOf outlines).flatMap (importsFrom outlines)) := by
  rw [filesOf, Splice.filesAll_map, List.flatMap_assoc]
  refine (List.Perm.flatMap_left _ fun o ho => ?_).trans (List.map_append_flatMap_perm _ _ _).symm
  exact (hunfolds o ho).files_perm hdistinct hnested (List.mem_filter.1 ho).1

/-- The files of the forest are indexed. -/
theorem indexed_of_mem_filesOf
    (hunfolds : ∀ o ∈ rootsOf outlines, Unfolds outlines o (treeOf outlines o)) :
    ∀ f ∈ filesOf outlines, f ∈ outlines.map Outline.file := by
  intro f hf
  rw [filesOf, Splice.filesAll_map, List.mem_flatMap] at hf
  obtain ⟨root, hroot, hf⟩ := hf
  exact (hunfolds root hroot).indexed_of_mem hdistinct hnested (List.mem_filter.1 hroot).1 hf

/-- The number of times that a file stands in the forest solves the
equations. -/
theorem isMultiplicity_count
    (hunfolds : ∀ o ∈ rootsOf outlines, Unfolds outlines o (treeOf outlines o)) :
    IsMultiplicity outlines fun f => (filesOf outlines).count f := by
  intro o ho
  have hperm := filesOf_perm hdistinct hnested hunfolds
  have hindexed := indexed_of_mem_filesOf hdistinct hnested hunfolds
  have hsites := sum_importSites hdistinct ho fun f => (filesOf outlines).count f
  -- A file is among the roots once if nobody imports it, otherwise never.
  have hroots : ((rootsOf outlines).map Outline.file).count o.file
      = if importSites outlines o.file = [] then 1 else 0 := by
    have hnodup : ((rootsOf outlines).map Outline.file).Nodup :=
      hdistinct.sublist (List.filter_sublist.map _)
    have hmem : o.file ∈ (rootsOf outlines).map Outline.file ↔
        importSites outlines o.file = [] := by
      rw [List.mem_map]
      constructor
      · rintro ⟨p, hp, hfile⟩
        exact hfile ▸ ((mem_rootsOf hdistinct).1 hp).2
      · exact fun hnone => ⟨o, (mem_rootsOf hdistinct).2 ⟨ho, hnone⟩, rfl⟩
    simp only [hnodup.count, hmem]
  -- All other times it is there because a file of the forest imports it.
  have hcount : (filesOf outlines).count o.file
      = ((rootsOf outlines).map Outline.file).count o.file
        + ((importSites outlines o.file).map fun site =>
          (filesOf outlines).count site.1.file).sum := by
    have hsum := sum_map_eq_sum_count hdistinct hindexed
      fun f => (importsFrom outlines f).count o.file
    rw [List.map_map] at hsum
    rw [hsites, hperm.count_eq, List.count_append, List.count_flatMap]
    exact congrArg _ hsum
  refine hcount.trans ?_
  rw [hroots]
  by_cases hnone : importSites outlines o.file = []
  · simp [hnone]
  · rw [if_neg hnone, if_neg hnone, Nat.zero_add]

end Counting

end DefIndex
