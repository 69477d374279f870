import Mathlib.Data.List.Chain
import Mathlib.Data.List.Nodup
import Mathlib.Logic.Relation
import DefIndex.Proofs.Unfolding
import DefIndex.Proofs.WellFormed
import DefIndex.Table

/-!
# `DefIndex.Proofs.ImportGraph`: cycles of imports

The files of a workspace and the imports between them are a graph. Only
files that have an outline count; an import of another file is no edge.

* `Imports outlines f g`: some declaration of `f` imports `g`.
* `ImportCycle.IsWalk`: a reported chain follows the edges, meets no file
  twice on the way, and ends at a file that it has met.
* `isWalk_of_expandFile`: the files entered on the way to a file are a walk
  of distinct files, so the import that closes a cycle makes a chain of
  this kind.
* `Unfolds.acc`: from a file that unfolds, every walk ends.
* `spliceAll_cases`: the workspace fails as one of its files does, or
  every file is somewhere in the forest.
* `not_cyclic_of_spliceAll` and `isWalk_of_spliceAll` are the two outcomes
  for a workspace. A cycle that no other file leads to is found because
  `expandMissing` leaves no file out.
-/

set_option autoImplicit false

namespace DefIndex

/-! ### The graph -/

/-- A file imports another one: a declaration of the file has an import of
the other, and both are indexed. -/
def Imports (outlines : List Outline) (f g : Path) : Prop :=
  ∃ o ∈ outlines, o.file = f ∧ (∃ d ∈ o.declarations, ∃ i ∈ d.imports, i.path = g) ∧
    g ∈ outlines.map Outline.file

instance (outlines : List Outline) (f g : Path) : Decidable (Imports outlines f g) :=
  inferInstanceAs (Decidable (∃ o ∈ outlines, o.file = f ∧
    (∃ d ∈ o.declarations, ∃ i ∈ d.imports, i.path = g) ∧ g ∈ outlines.map Outline.file))

/-- The chain follows the imports, comes back to one of its files, and
meets no file twice before that. -/
structure ImportCycle.IsWalk (c : ImportCycle) (outlines : List Outline) : Prop where
  linked : c.chain.IsChain (Imports outlines)
  distinct : c.chain.dropLast.Nodup
  returns : ∃ f ∈ c.chain.dropLast, c.chain.getLast? = some f

/-- Which outlines there are matters for the graph, their order does not. -/
theorem imports_congr {outlines others : List Outline} (h : ∀ o, o ∈ outlines ↔ o ∈ others) :
    Imports outlines = Imports others := by
  funext f g
  simp only [Imports, List.mem_map, h]

/-- An import that finds an outline is an edge. -/
theorem imports_of_mem {outlines : List Outline} {o imported : Outline} (ho : o ∈ outlines)
    {i : Import} (hi : i ∈ o.imports) (hfound : outlineAt? outlines i.path = some imported) :
    Imports outlines o.file i.path := by
  obtain ⟨d, hd, hi⟩ := List.mem_flatMap.1 hi
  obtain ⟨himported, hfile⟩ := file_of_outlineAt? hfound
  exact ⟨o, ho, rfl, ⟨d, hd, i, hi, rfl⟩, hfile ▸ List.mem_map_of_mem himported⟩

/-- Of files with distinct paths, the one with a path is found by it. -/
theorem outlineAt?_of_mem {outlines : List Outline} (hdistinct : (outlines.map Outline.file).Nodup)
    {o : Outline} (ho : o ∈ outlines) : outlineAt? outlines o.file = some o := by
  cases hfound : outlineAt? outlines o.file with
  | none =>
      have hnone := List.find?_eq_none.1 hfound o (List.mem_reverse.2 ho)
      simp at hnone
  | some m =>
      obtain ⟨hm, hfile⟩ := file_of_outlineAt? hfound
      rw [List.inj_on_of_nodup_map hdistinct hm ho hfile]

/-- A walk that comes back to one of its files is a cycle. -/
theorem ImportCycle.IsWalk.cyclic {c : ImportCycle} {outlines : List Outline}
    (h : c.IsWalk outlines) : ∃ f, Relation.TransGen (Imports outlines) f f := by
  obtain ⟨f, hf, hlast⟩ := h.returns
  -- The chain up to the first visit is cut off; the rest is a loop.
  obtain ⟨before, behind, hsplit⟩ := List.append_of_mem hf
  have hchain : c.chain = before ++ f :: (behind ++ [f]) := by
    have hne : c.chain ≠ [] := by
      rintro hnil
      simp [hnil] at hlast
    rw [← List.dropLast_concat_getLast hne, hsplit]
    rw [List.getLast?_eq_some_getLast hne, Option.some.injEq] at hlast
    simp [hlast]
  have hlinked := h.linked
  rw [hchain] at hlinked
  have hloop := hlinked.right_of_append
  refine ⟨f, ?_⟩
  have hmem : f ∈ behind ++ [f] := by simp
  exact (List.IsChain.imp (fun _ _ hab => Relation.TransGen.single hab) hloop).rel_cons hmem

/-! ### Errors -/

/-- An error of a file that is entered at the end of a walk is the rest of
a walk. -/
theorem isWalk_of_expandFile {outlines : List Outline}
    (hnested : ∀ o ∈ outlines, WellNested o.declarations) {active : List Path} {o : Outline}
    {c : ImportCycle} (ho : o ∈ outlines)
    (hlinked : (active ++ [o.file]).IsChain (Imports outlines))
    (hdistinct : (active ++ [o.file]).Nodup) (h : expandFile outlines active o = .error c) :
    c.IsWalk outlines := by
  refine entering_induction (motive := fun active o => ∀ c,
    (active ++ [o.file]).IsChain (Imports outlines) → (active ++ [o.file]).Nodup →
      expandFile outlines active o = .error c → c.IsWalk outlines)
    ?_ active ho c hlinked hdistinct h
  intro active o ho ih c hlinked hdistinct h
  -- One more edge leads from the file at the end of the way.
  have hstep : ∀ {i : Import} {imported : Outline}, i ∈ o.imports →
      outlineAt? outlines i.path = some imported →
      (active ++ [o.file] ++ [i.path]).IsChain (Imports outlines) := by
    intro i imported hi hfound
    refine hlinked.append (.singleton _) ?_
    simpa using imports_of_mem ho hi hfound
  have henters := enters_expandFile outlines active (hnested o ho)
  rw [h] at henters
  cases henters with
  | closes mem found again =>
      exact ⟨hstep mem found, by simpa using hdistinct, ⟨_, by simpa using again, by simp⟩⟩
  | fails mem found new inside =>
      obtain ⟨-, hfile⟩ := file_of_outlineAt? found
      refine ih _ _ found new c (hfile ▸ hstep mem found) ?_ inside
      rw [hfile]
      exact hdistinct.append (by simp) (by simpa using new)

/-! ### Unfoldings end -/

namespace Splice

/-- The files of two forests, one behind the other. -/
theorem filesAll_append (some more : List Splice) :
    filesAll (some ++ more) = filesAll some ++ filesAll more := by
  induction some with
  | nil => rfl
  | cons tree trees ih => rw [List.cons_append, filesAll, filesAll, ih, List.append_assoc]

/-- The files of a forest are those of its trees. -/
theorem mem_filesAll {f : Path} {trees : List Splice} :
    f ∈ filesAll trees ↔ ∃ tree ∈ trees, f ∈ files tree := by
  induction trees with
  | nil => simp [filesAll]
  | cons tree trees ih => simp [filesAll, ih]

end Splice

/-- The files below the file of a well-nested outline are those of its
imports. -/
theorem filesAll_graftAll_perm {o : Outline} (hnested : WellNested o.declarations)
    (load : Path → List Splice) :
    (Splice.filesAll (Splice.graftAll load o.forest)).Perm
      (o.imports.flatMap fun i => Splice.filesAll (load i.path)) := by
  have hperm := hnested.lists_forest.graftAll_perm Splice.filesAll (fun _ => []) rfl
    Splice.filesAll_append (fun d parts rest => by simp [Splice.filesAll, Splice.files]) load
  have hnone : o.declarations.flatMap (fun _ => ([] : List Path)) = [] :=
    List.flatMap_eq_nil_iff.2 fun _ _ => rfl
  rwa [hnested.preorderAll_forest, hnone, List.nil_append] at hperm

/-- Entering a file gives a tree that starts with it. -/
theorem file_mem_of_expandFile {outlines : List Outline} {active : List Path} {o : Outline}
    {tree : Splice} (h : expandFile outlines active o = .ok tree) : o.file ∈ tree.files := by
  rw [expandFile_eq] at h
  cases hparts : Splice.expandAll (loadFrom outlines (active ++ [o.file])) o.forest with
  | error c => rw [hparts] at h; cases h
  | ok parts =>
      rw [hparts] at h
      cases h
      exact List.mem_cons_self

/-- A file unfolds to a tree that starts with it. -/
theorem Unfolds.file_mem {outlines : List Outline} {o : Outline} {tree : Splice}
    (h : Unfolds outlines o tree) : o.file ∈ tree.files := by
  cases h with
  | enter o trees below => exact List.mem_cons_self

/-- From the files of an unfolding, every walk ends. -/
theorem Unfolds.acc {outlines : List Outline}
    (hdistinct : (outlines.map Outline.file).Nodup)
    (hnested : ∀ o ∈ outlines, WellNested o.declarations) {o : Outline} {tree : Splice}
    (h : Unfolds outlines o tree) (ho : o ∈ outlines) :
    ∀ f ∈ tree.files, Acc (fun g f => Imports outlines f g) f := by
  induction h with
  | enter o trees below ih =>
      intro f hf
      rw [Splice.files, List.mem_cons] at hf
      rcases hf with rfl | hf
      · -- An edge from the file itself leads to one of the trees below.
        refine ⟨_, fun g hedge => ?_⟩
        obtain ⟨p, hp, hfile, ⟨d, hd, i, hi, rfl⟩, hindexed⟩ := hedge
        obtain rfl : p = o := List.inj_on_of_nodup_map hdistinct hp ho hfile
        obtain ⟨m, hm, hmfile⟩ := List.mem_map.1 hindexed
        have hfound : outlineAt? outlines i.path = some m := hmfile ▸ outlineAt?_of_mem hdistinct hm
        have hmem : i ∈ p.imports := List.mem_flatMap.2 ⟨d, hd, hi⟩
        have hstart := (below i hmem m hfound).file_mem
        rw [hmfile] at hstart
        exact ih i hmem m hfound hm i.path hstart
      · -- Any other file is in a tree below already.
        rw [(filesAll_graftAll_perm (hnested o ho) _).mem_iff, List.mem_flatMap] at hf
        obtain ⟨i, hi, hf⟩ := hf
        cases hfound : outlineAt? outlines i.path with
        | none => simp [spliced, hfound, Splice.filesAll] at hf
        | some m =>
            simp only [spliced, hfound, Option.isSome_some, if_true, Splice.filesAll,
              List.append_nil] at hf
            exact ih i hi m hfound (file_of_outlineAt? hfound).1 f hf

/-! ### The workspace -/

/-- The tree of a file that is entered by itself. -/
def treeOf (outlines : List Outline) (o : Outline) : Splice :=
  (expandFile outlines [] o).toOption.getD (.file o.file [])

/-- The files that no file imports. -/
def rootsOf (outlines : List Outline) : List Outline :=
  outlines.filter fun o => o.file ∉ splicedFiles outlines

/-- Entering the missing files fails as one of them does, or adds trees of
missing files until none is missing. -/
theorem expandMissing_cases (outlines : List Outline) (trees : List Splice) (rest : List Outline) :
    (∃ o ∈ rest, ∃ c, expandFile outlines [] o = .error c ∧
      expandMissing outlines trees rest = .error c) ∨
    ∃ more, expandMissing outlines trees rest = .ok (trees ++ more) ∧
      (∀ tree ∈ more, ∃ o ∈ rest, o.file ∉ Splice.filesAll trees ∧
        expandFile outlines [] o = .ok tree) ∧
      ∀ o ∈ rest, o.file ∈ Splice.filesAll (trees ++ more) := by
  induction rest generalizing trees with
  | nil => exact Or.inr ⟨[], by simp [expandMissing], by simp, by simp⟩
  | cons o rest ih =>
      rw [expandMissing]
      by_cases hheld : o.file ∈ Splice.filesAll trees
      · rw [if_pos hheld]
        rcases ih trees with ⟨p, hp, c, hfail, hall⟩ | ⟨more, hok, hnew, hheld'⟩
        · exact Or.inl ⟨p, List.mem_cons_of_mem _ hp, c, hfail, hall⟩
        · refine Or.inr ⟨more, hok, fun tree htree => ?_, List.forall_mem_cons.2 ⟨?_, hheld'⟩⟩
          · obtain ⟨p, hp, hmissing, htree⟩ := hnew tree htree
            exact ⟨p, List.mem_cons_of_mem _ hp, hmissing, htree⟩
          · rw [Splice.filesAll_append]
            exact List.mem_append_left _ hheld
      · rw [if_neg hheld]
        cases htree : expandFile outlines [] o with
        | error c => exact Or.inl ⟨o, List.mem_cons_self, c, htree, rfl⟩
        | ok tree =>
            rcases ih (trees ++ [tree]) with ⟨p, hp, c, hfail, hall⟩ | ⟨more, hok, hnew, hheld'⟩
            · exact Or.inl ⟨p, List.mem_cons_of_mem _ hp, c, hfail, hall⟩
            · rw [List.append_assoc] at hok hheld'
              refine Or.inr ⟨tree :: more, hok, List.forall_mem_cons.2 ⟨?_, ?_⟩,
                List.forall_mem_cons.2 ⟨?_, hheld'⟩⟩
              · exact ⟨o, List.mem_cons_self, hheld, htree⟩
              · intro other hother
                obtain ⟨p, hp, hmissing, hp'⟩ := hnew other hother
                -- Missing from the larger forest, so from the smaller one.
                rw [Splice.filesAll_append, List.mem_append, not_or] at hmissing
                exact ⟨p, List.mem_cons_of_mem _ hp, hmissing.1, hp'⟩
              · rw [Splice.mem_filesAll]
                exact ⟨tree, by simp, file_mem_of_expandFile htree⟩

/-- The workspace fails as one of its files does. Otherwise its forest are
the trees of the files that nobody imports and the trees of files that
these do not hold, and no file is left out. -/
theorem spliceAll_cases (outlines : List Outline) :
    (∃ o ∈ outlines, ∃ c, expandFile outlines [] o = .error c ∧
      spliceAll outlines = .error c) ∨
    ∃ more, spliceAll outlines = .ok ((rootsOf outlines).map (treeOf outlines) ++ more) ∧
      (∀ o ∈ rootsOf outlines, expandFile outlines [] o = .ok (treeOf outlines o)) ∧
      (∀ tree ∈ more, ∃ o ∈ outlines,
        o.file ∉ Splice.filesAll ((rootsOf outlines).map (treeOf outlines)) ∧
          expandFile outlines [] o = .ok tree) ∧
      ∀ o ∈ outlines, o.file ∈
        Splice.filesAll ((rootsOf outlines).map (treeOf outlines) ++ more) := by
  -- First the files that nobody imports, then those that are missing.
  have heq : spliceAll outlines = ((rootsOf outlines).mapM (expandFile outlines []) >>=
      fun trees => expandMissing outlines trees outlines) := rfl
  rw [heq]
  rcases mapM_error_or (expandFile outlines []) (rootsOf outlines) with
    ⟨o, ho, c, hfail, hall⟩ | hroots
  · refine Or.inl ⟨o, (List.mem_filter.1 ho).1, c, hfail, ?_⟩
    rw [hall]
    rfl
  have hroots : ∀ o ∈ rootsOf outlines, expandFile outlines [] o = .ok (treeOf outlines o) := by
    intro o ho
    obtain ⟨tree, htree⟩ := hroots o ho
    rw [treeOf, htree]
    rfl
  rw [mapM_ok hroots]
  rcases expandMissing_cases outlines ((rootsOf outlines).map (treeOf outlines)) outlines with
    ⟨o, ho, c, hfail, hall⟩ | ⟨more, hok, hnew, hheld⟩
  · exact Or.inl ⟨o, ho, c, hfail, hall⟩
  · exact Or.inr ⟨more, hok, hroots, hnew, hheld⟩

/-! ### Cycles -/

/-- No cycle leads through a point from which every walk ends. -/
theorem not_cyclic_of_acc {α : Type} {r : α → α → Prop} {a : α} (h : Acc (fun b a => r a b) a) :
    ¬ Relation.TransGen r a a := by
  induction h with
  | intro a _ ih =>
      intro hloop
      obtain ⟨b, hstep, hback⟩ := Relation.TransGen.head'_iff.1 hloop
      exact ih b hstep (Relation.TransGen.tail'_iff.2 ⟨a, hback, hstep⟩)

section Outcome

variable {outlines : List Outline}

/-- The trees of a workspace that splices are those of files that are entered
by themselves. -/
theorem entered_of_mem_spliceAll {forest : List Splice} (h : spliceAll outlines = .ok forest)
    {tree : Splice} (htree : tree ∈ forest) :
    ∃ o ∈ outlines, expandFile outlines [] o = .ok tree := by
  rcases spliceAll_cases outlines with ⟨o, -, c, -, hfail⟩ | ⟨more, hok, hroots, hnew, -⟩
  · rw [hfail] at h
    cases h
  rw [hok] at h
  obtain rfl := Except.ok.inj h
  rcases List.mem_append.1 htree with htree | htree
  · obtain ⟨o, ho, rfl⟩ := List.mem_map.1 htree
    exact ⟨o, (List.mem_filter.1 ho).1, hroots o ho⟩
  · obtain ⟨o, ho, -, hentered⟩ := hnew tree htree
    exact ⟨o, ho, hentered⟩

/-- A workspace that splices has no cycle. -/
theorem not_cyclic_of_spliceAll (hdistinct : (outlines.map Outline.file).Nodup)
    (hnested : ∀ o ∈ outlines, WellNested o.declarations) {forest : List Splice}
    (h : spliceAll outlines = .ok forest) (f : Path) :
    ¬ Relation.TransGen (Imports outlines) f f := by
  rcases spliceAll_cases outlines with ⟨o, -, c, -, hfail⟩ | ⟨more, hok, -, -, hheld⟩
  · rw [hfail] at h
    cases h
  -- The file that the loop starts with is in some tree, and from there
  -- every walk ends.
  intro hloop
  obtain ⟨g, ⟨o, ho, rfl, -⟩, -⟩ := Relation.TransGen.head'_iff.1 hloop
  obtain ⟨tree, htree, hmem⟩ := Splice.mem_filesAll.1 (hheld o ho)
  obtain ⟨p, hp, htree⟩ := entered_of_mem_spliceAll hok htree
  have hunfolds := unfolds_of_expandFile hnested hp htree
  exact not_cyclic_of_acc (hunfolds.acc hdistinct hnested hp o.file hmem) hloop

/-- A workspace that does not splice reports a walk. -/
theorem isWalk_of_spliceAll (hnested : ∀ o ∈ outlines, WellNested o.declarations)
    {c : ImportCycle} (h : spliceAll outlines = .error c) : c.IsWalk outlines := by
  rcases spliceAll_cases outlines with ⟨o, ho, c', hfail, hall⟩ | ⟨more, hok, -⟩
  · rw [hall] at h
    cases h
    exact isWalk_of_expandFile hnested ho (.singleton _) (by simp) hfail
  · rw [hok] at h
    cases h

end Outcome

/-- The outlines of a list of files with their texts. -/
def outlinesOf (sources : List (Path × Text)) : List Outline :=
  sources.map fun source => Outline.read source.1 source.2

/-- Outlines that are read are well nested. -/
theorem wellNested_of_mem_outlinesOf {sources : List (Path × Text)} {o : Outline}
    (ho : o ∈ outlinesOf sources) : WellNested o.declarations := by
  obtain ⟨source, -, rfl⟩ := List.mem_map.1 ho
  exact Outline.wellNested_read _ _

/-- Outlines in order are the outlines. -/
theorem Table.inOrder_perm (outlines : List Outline) : (inOrder outlines).Perm outlines :=
  sortBy_perm _ _

/-- So they are when they are put in order. -/
theorem wellNested_of_mem_inOrder {sources : List (Path × Text)} :
    ∀ o ∈ Table.inOrder (outlinesOf sources), WellNested o.declarations :=
  fun _ ho => wellNested_of_mem_outlinesOf ((Table.inOrder_perm _).mem_iff.1 ho)

/-- The table fails as the splicing does. -/
theorem Table.spliceAll_of_build_error {outlines : List Outline} {c : ImportCycle}
    (h : Table.build outlines = .error c) : spliceAll (inOrder outlines) = .error c := by
  rw [Table.build] at h
  cases hforest : spliceAll (inOrder outlines) with
  | error e =>
      rw [hforest] at h
      exact congrArg Except.error (Except.error.inj h)
  | ok forest => rw [hforest] at h; cases h

/-- The table is that of a forest. -/
theorem Table.spliceAll_of_build_ok {outlines : List Outline} {t : Table}
    (h : Table.build outlines = .ok t) :
    ∃ forest, spliceAll (inOrder outlines) = .ok forest ∧
      t = (definitionsOf forest).foldl push
        { empty with files := fileList (inOrder outlines) } := by
  rw [Table.build] at h
  cases hforest : spliceAll (inOrder outlines) with
  | error e => rw [hforest] at h; cases h
  | ok forest =>
      rw [hforest] at h
      exact ⟨forest, rfl, (Except.ok.inj h).symm⟩

/-- Building the table of files with distinct paths ends, with an error
exactly if there is a cycle of imports, wherever it lies. The error is a
walk along the imports that closes at its end. -/
theorem Table.build_fails_iff_cyclic (sources : List (Path × Text))
    (hdistinct : ((outlinesOf sources).map Outline.file).Nodup) :
    ((∃ c, Table.build (outlinesOf sources) = .error c) ↔
        ∃ f, Relation.TransGen (Imports (outlinesOf sources)) f f) ∧
      ∀ c, Table.build (outlinesOf sources) = .error c → c.IsWalk (outlinesOf sources) := by
  -- The table sorts the outlines first. Neither the graph nor what is
  -- assumed of the files depends on their order.
  have hperm := Table.inOrder_perm (outlinesOf sources)
  have hnested : ∀ o ∈ Table.inOrder (outlinesOf sources), WellNested o.declarations :=
    fun o ho => wellNested_of_mem_outlinesOf (hperm.mem_iff.1 ho)
  have hordered : ((Table.inOrder (outlinesOf sources)).map Outline.file).Nodup :=
    (hperm.map _).nodup_iff.2 hdistinct
  have hgraph : Imports (Table.inOrder (outlinesOf sources)) = Imports (outlinesOf sources) :=
    imports_congr fun _ => hperm.mem_iff
  have hwalk : ∀ c, Table.build (outlinesOf sources) = .error c →
      c.IsWalk (outlinesOf sources) := by
    intro c hfail
    obtain ⟨hlinked, hnodup, hreturns⟩ :=
      isWalk_of_spliceAll hnested (Table.spliceAll_of_build_error hfail)
    exact ⟨hgraph ▸ hlinked, hnodup, hreturns⟩
  refine ⟨⟨?_, ?_⟩, hwalk⟩
  · rintro ⟨c, hfail⟩
    exact (hwalk c hfail).cyclic
  rintro ⟨f, hloop⟩
  cases hbuild : Table.build (outlinesOf sources) with
  | error c => exact ⟨c, rfl⟩
  | ok t =>
      obtain ⟨forest, hforest, -⟩ := Table.spliceAll_of_build_ok hbuild
      exact absurd (hgraph ▸ hloop) (not_cyclic_of_spliceAll hordered hnested hforest f)

/-- A file that imports nothing and two that import each other. -/
def mutualSources : List (Path × Text) :=
  [(.parse "/ws/a.mql", "CREATE TAG Alone;"),
    (.parse "/ws/b.mql", "CREATE BASE B { IMPORT c; }"),
    (.parse "/ws/c.mql", "CREATE BASE C { IMPORT b; }")]

/-- The cycle is found although the file that nobody imports does not lead
to it. -/
theorem Table.build_fails_of_mutualSources :
    ((outlinesOf mutualSources).map Outline.file).Nodup ∧
      ∃ c, Table.build (outlinesOf mutualSources) = .error c ∧
        c.IsWalk (outlinesOf mutualSources) := by
  have hdistinct : ((outlinesOf mutualSources).map Outline.file).Nodup := by decide +kernel
  have hthere : Imports (outlinesOf mutualSources) (.parse "/ws/b.mql") (.parse "/ws/c.mql") := by
    decide +kernel
  have hback : Imports (outlinesOf mutualSources) (.parse "/ws/c.mql") (.parse "/ws/b.mql") := by
    decide +kernel
  obtain ⟨hiff, hwalk⟩ := Table.build_fails_iff_cyclic mutualSources hdistinct
  obtain ⟨c, hfail⟩ := hiff.2 ⟨_, .tail (.single hthere) hback⟩
  exact ⟨hdistinct, c, hfail, hwalk c hfail⟩

end DefIndex
