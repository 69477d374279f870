import DefIndex.Proofs.Layout
import DefIndex.Proofs.Multiplicity

/-!
# `DefIndex.Proofs.Instances`: the definitions of a workspace

Every declaration of a file becomes one definition for each time that the
file stands in the forest, and nothing else becomes a definition. An
instance that is spliced into another file stands under the definition
that holds the import, and its context says so: the full name of that
definition comes in front of the context in the file.

* `Unfolds.entries_perm`: an unfolding holds the declarations of its files.
* `SplicedUnder ds e s`: going up from `e`, the first definition of another
  file is `s`.
* `Unfolds.placed`: every definition of an unfolding has the context that
  its place gives it. The inner induction is over the forest of one file
  (`Lists.placed`), the outer one over the files.
* `InstancesOf` is the whole statement about a list of definitions, and
  `instancesOf_spliceAll` proves it for a workspace that splices.
-/

set_option autoImplicit false

namespace DefIndex

/-! ### Counting instances -/

/-- The declarations of an indexed file, each with the file. -/
def declarationsIn (outlines : List Outline) (f : Path) : List (Path × Declaration) :=
  match outlineAt? outlines f with
  | some o => o.declarations.map fun d => (f, d)
  | none => []

namespace Splice

/-- The entries of the trees of a list. -/
theorem entriesAll_map {α : Type} (path : Path) (tree : α → Splice) (xs : List α) :
    entriesAll path (xs.map tree) = xs.flatMap fun x => entries path (tree x) := by
  induction xs with
  | nil => rfl
  | cons x xs ih => rw [List.map_cons, entriesAll, List.flatMap_cons, ih]

end Splice

section Counting

variable {outlines : List Outline} (hdistinct : (outlines.map Outline.file).Nodup)

include hdistinct

/-- The declarations of a file, read off its outline. -/
theorem declarationsIn_file {o : Outline} (ho : o ∈ outlines) :
    declarationsIn outlines o.file = o.declarations.map fun d => (o.file, d) := by
  simp only [declarationsIn, outlineAt?_of_mem hdistinct ho]

variable (hnested : ∀ o ∈ outlines, WellNested o.declarations)

include hnested

/-- An unfolding holds the declarations of its files. -/
theorem Unfolds.entries_perm {o : Outline} {tree : Splice} (h : Unfolds outlines o tree)
    (ho : o ∈ outlines) (path : Path) :
    (tree.entries path).Perm (tree.files.flatMap (declarationsIn outlines)) := by
  induction h generalizing path with
  | enter o trees below ih =>
      have hbelow : ∀ i ∈ o.imports,
          (Splice.entriesAll o.file (spliced outlines trees i.path)).Perm
            ((Splice.filesAll (spliced outlines trees i.path)).flatMap
              (declarationsIn outlines)) := by
        intro i hi
        cases hfound : outlineAt? outlines i.path with
        | none => simp [spliced, hfound, Splice.filesAll, Splice.entriesAll]
        | some m =>
            obtain ⟨hm, -⟩ := file_of_outlineAt? hfound
            simpa [spliced, hfound, Splice.filesAll, Splice.entriesAll]
              using ih i hi m hfound hm o.file
      -- Files and entries of the grafted forest are collected the same way.
      have hfiles := filesAll_graftAll_perm (hnested o ho) (spliced outlines trees)
      have hentries := (hnested o ho).lists_forest.graftAll_perm (Splice.entriesAll o.file)
        (fun d => [(o.file, d)]) rfl (Splice.entriesAll_append o.file)
        (fun d parts rest => by simp [Splice.entriesAll, Splice.entries]) (spliced outlines trees)
      rw [(hnested o ho).preorderAll_forest, ← List.map_eq_flatMap] at hentries
      rw [Splice.entries, Splice.files, List.flatMap_cons, declarationsIn_file hdistinct ho]
      refine hentries.trans (List.Perm.append_left _ ?_)
      refine (List.Perm.flatMap_left _ hbelow).trans ?_
      rw [← List.flatMap_assoc]
      exact (hfiles.flatMap_right _).symm

/-- The entries of the forest are the declarations of its files. -/
theorem entriesAll_roots_perm
    (hunfolds : ∀ o ∈ rootsOf outlines, Unfolds outlines o (treeOf outlines o)) (path : Path) :
    (Splice.entriesAll path ((rootsOf outlines).map (treeOf outlines))).Perm
      ((filesOf outlines).flatMap (declarationsIn outlines)) := by
  rw [filesOf, Splice.filesAll_map, Splice.entriesAll_map, List.flatMap_assoc]
  exact List.Perm.flatMap_left _ fun o ho =>
    (hunfolds o ho).entries_perm hdistinct hnested (List.mem_filter.1 ho).1 path

/-- There are as many definitions as the files have declarations, each file
taken as often as it stands in the forest. -/
theorem length_definitionsOf_roots
    (hunfolds : ∀ o ∈ rootsOf outlines, Unfolds outlines o (treeOf outlines o)) :
    (definitionsOf ((rootsOf outlines).map (treeOf outlines))).length
      = (outlines.map fun o => (filesOf outlines).count o.file * o.declarations.length).sum := by
  have horigin := congrArg List.length
    (Splice.map_origin_layoutAll .empty none [] 0 ((rootsOf outlines).map (treeOf outlines)))
  rw [List.length_map, List.length_map,
    (entriesAll_roots_perm hdistinct hnested hunfolds .empty).length_eq, List.length_flatMap,
    sum_map_eq_sum_count hdistinct (indexed_of_mem_filesOf hdistinct hnested hunfolds),
    List.map_map] at horigin
  refine horigin.trans (congrArg List.sum (List.map_congr_left fun o ho => ?_))
  simp [declarationsIn_file hdistinct ho]

/-- A declaration has as many instances as its file stands in the forest.
The declarations of a file are told apart by their places. -/
theorem countP_instanceOf
    (hplaces : ∀ o ∈ outlines, (o.declarations.map fun d => d.originIn o.file).Nodup)
    (hunfolds : ∀ o ∈ rootsOf outlines, Unfolds outlines o (treeOf outlines o))
    {o : Outline} (ho : o ∈ outlines) {d : Declaration} (hd : d ∈ o.declarations) :
    (definitionsOf ((rootsOf outlines).map (treeOf outlines))).countP
        (fun e => e.InstanceOf o.file d)
      = (filesOf outlines).count o.file := by
  have horigin := Splice.map_origin_layoutAll .empty none [] 0
    ((rootsOf outlines).map (treeOf outlines))
  -- Instances are told by their origin, and origins are those of entries.
  have hcount : (definitionsOf ((rootsOf outlines).map (treeOf outlines))).countP
      (fun e => e.InstanceOf o.file d) = ((definitionsOf ((rootsOf outlines).map
        (treeOf outlines))).map Definition.origin).count (d.originIn o.file) := by
    rw [List.count, List.countP_map]
    refine List.countP_congr fun e _ => ?_
    rw [decide_eq_true_eq, Function.comp_apply, beq_iff_eq]
    exact Iff.rfl
  have hperm := (entriesAll_roots_perm hdistinct hnested hunfolds .empty).map
    fun entry => entry.2.originIn entry.1
  rw [hcount, definitionsOf, horigin, hperm.count_eq, List.map_flatMap, List.count_flatMap]
  -- One for every time the file of the declaration is met, none for others.
  have hsingle : (filesOf outlines).count o.file
      = ((filesOf outlines).map (List.count o.file ∘ fun f => [f])).sum := by
    rw [← List.count_flatMap, List.flatMap_singleton']
  rw [hsingle]
  refine congrArg List.sum (List.map_congr_left fun f hf => ?_)
  obtain ⟨p, hp, rfl⟩ := List.mem_map.1 (indexed_of_mem_filesOf hdistinct hnested hunfolds f hf)
  simp only [Function.comp_apply, declarationsIn_file hdistinct hp, List.map_map]
  by_cases hfile : p.file = o.file
  · obtain rfl : p = o := List.inj_on_of_nodup_map hdistinct hp ho hfile
    have hmem : d.originIn p.file ∈ p.declarations.map fun d => d.originIn p.file :=
      List.mem_map_of_mem hd
    rw [List.count_singleton_self]
    exact List.nodup_iff_count_eq_one.1 (hplaces p hp) _ hmem
  · have hother : o.file ∉ [p.file] := by simpa using Ne.symm hfile
    rw [List.count_eq_zero.2 hother, List.count_eq_zero, List.mem_map]
    rintro ⟨e, -, heq⟩
    exact hfile (congrArg (fun origin => origin.2.2.2.file) heq)

end Counting

/-! ### Contexts -/

/-- Going up from a definition, the first one of another file is `s`. -/
inductive SplicedUnder (ds : List Definition) : Definition → Definition → Prop where
  /-- The definition directly above is of another file. -/
  | here {e s : Definition} {up : Nat} (parent : e.parent = some up) (found : ds[up]? = some s)
      (other : s.location.file ≠ e.location.file) : SplicedUnder ds e s
  /-- The definition directly above is of the same file. -/
  | above {e f s : Definition} {up : Nat} (parent : e.parent = some up) (found : ds[up]? = some f)
      (same : f.location.file = e.location.file) (further : SplicedUnder ds f s) :
      SplicedUnder ds e s

/-- The context that an instance of a declaration of a file has. At the top
it is the context in the file; where the file is imported, the full name
of the definition that holds the import comes in front. -/
def Definition.PlacedAs (e : Definition) (outlines : List Outline) (ds : List Definition)
    (f : Path) (d : Declaration) : Prop :=
  if importSites outlines f = [] then e.context = d.context
  else ∃ s ∈ ds, (∃ site ∈ importSites outlines f, s.InstanceOf site.1.file site.2) ∧
    SplicedUnder ds e s ∧ e.context = Dotted.under s.fullName d.context ∧ e.isTopLevel = false

/-- Where a file may be spliced: at the top if nobody imports it, otherwise
under a definition of another file that holds an import of it. -/
def Hosts (outlines : List Outline) (ds : List Definition) (f : Path) : Option Definition → Prop
  | none => importSites outlines f = []
  | some s => ds[s.id]? = some s ∧ s.location.file ≠ f ∧ s.fullName ≠ [] ∧
      ∃ site ∈ importSites outlines f, s.InstanceOf site.1.file site.2

/-- The full name of a place, empty at the top. -/
def placeName (place : Option Definition) : Text := (place.map Definition.fullName).getD []

/-- The context inside the declaration at an index, or outside all. -/
def contextInside (ds : List Declaration) : Option Nat → Text
  | none => []
  | some p => (ds[p]?.map fun d => qualify d.context d.name).getD []

/-- The context of a declaration is that inside the one around it. -/
theorem WellNested.context_eq {ds : List Declaration} (h : WellNested ds) {ix : Nat}
    {d : Declaration} (hd : ds[ix]? = some d) : d.context = contextInside ds d.parent := by
  cases hparent : d.parent with
  | none => exact h.top hd hparent
  | some p =>
      obtain ⟨-, f, hf, -, hcontext⟩ := h.enclosed hd hparent
      rw [contextInside, hf, hcontext]
      rfl

/-- What is laid out from several forests is laid out from one of them. -/
theorem Splice.mem_layoutAll_flatMap {α : Type} {path : Path} {parent : Option Nat}
    {context : Text} {next : Nat} {xs : List α} {load : α → List Splice} {e : Definition}
    (he : e ∈ layoutAll path parent context next (xs.flatMap load)) :
    ∃ x ∈ xs, ∃ start, e ∈ layoutAll path parent context start (load x) ∧
      ∀ other ∈ layoutAll path parent context start (load x),
        other ∈ layoutAll path parent context next (xs.flatMap load) := by
  induction xs generalizing next with
  | nil => cases he
  | cons x xs ih =>
      rw [List.flatMap_cons, layoutAll_append] at he ⊢
      rcases List.mem_append.1 he with he | he
      · exact ⟨x, List.mem_cons_self, next, he, fun other => List.mem_append_left _⟩
      · obtain ⟨y, hy, start, he, hall⟩ := ih he
        exact ⟨y, List.mem_cons_of_mem _ hy, start, he,
          fun other hother => List.mem_append_right _ (hall other hother)⟩

/-- What holds of the instances of the declarations of a file and of all
that is spliced into them holds of the whole layout of its forest. The
instances are as deep under the place as the declarations in the file. -/
theorem Lists.placed {o : Outline} (hnested : WellNested o.declarations) {ds : List Definition}
    (place : Option Definition) {load : Path → List Splice} {good : Definition → Prop}
    (hown : ∀ d ∈ o.declarations, ∀ e : Definition, e.InstanceOf o.file d →
      e.context = Dotted.under (placeName place) d.context →
      (∀ s, place = some s → SplicedUnder ds e s) → good e)
    (hbelow : ∀ d ∈ o.declarations, ∀ i ∈ d.imports, ∀ (f : Definition) (next : Nat),
      f.InstanceOf o.file d → ds[f.id]? = some f → f.fullName ≠ [] →
      (∀ e ∈ Splice.layoutAll o.file (some f.id) f.fullName next (load i.path),
        ds[e.id]? = some e) →
      ∀ e ∈ Splice.layoutAll o.file (some f.id) f.fullName next (load i.path), good e)
    {first last : Nat} {parent : Option Nat} {trees : List Splice}
    (h : Lists o.declarations first last parent trees) {up : Option Nat} {context : Text}
    {next : Nat}
    (hcontext : context = Dotted.under (placeName place) (contextInside o.declarations parent))
    (hup : ∀ s, place = some s → ∀ e : Definition, e.parent = up → e.location.file = o.file →
      SplicedUnder ds e s)
    (hall : ∀ e ∈ Splice.layoutAll o.file up context next (Splice.graftAll load trees),
      ds[e.id]? = some e) :
    ∀ e ∈ Splice.layoutAll o.file up context next (Splice.graftAll load trees), good e := by
  induction h generalizing up context next with
  | nil => intro e he; cases he
  | @cons first middle last parent d parts trees found enclosed _ _ _ ihInside ihBehind =>
      have hd : d ∈ o.declarations := List.mem_of_getElem? found
      simp only [Splice.graftAll, Splice.graft, Splice.layoutAll, Splice.layout,
        Splice.layoutAll_append, List.cons_append, List.forall_mem_cons, List.mem_append] at hall ⊢
      obtain ⟨hself, hrest⟩ := hall
      -- The instance of the declaration, and what it is to those below it.
      generalize hf : Splice.instantiate o.file up context next d _ = f at hself ⊢
      have hinstance : f.InstanceOf o.file d := hf ▸ Splice.instanceOf_instantiate ..
      have hid : f.id = next := hf ▸ rfl
      have hname : f.fullName = qualify context d.name := hf ▸ rfl
      have hspliced : ∀ s, place = some s → SplicedUnder ds f s := fun s hs =>
        hup s hs f (hf ▸ rfl) hinstance.file_eq
      have hlocal : f.context = Dotted.under (placeName place) d.context := by
        rw [hnested.context_eq found, enclosed, ← hcontext, ← hf]
        rfl
      have hnamed : d.name ≠ [] := hnested.named d hd
      rw [← hid, ← hname] at hrest ⊢
      refine ⟨hown d hd f hinstance hlocal hspliced, fun e he => ?_⟩
      -- Inside the declaration, spliced into it, or behind it.
      rcases he with (he | he) | he
      · refine ihInside ?_ ?_ (fun e he => hrest e (Or.inl (Or.inl he))) e he
        · have hfcontext : f.context = context := hf ▸ rfl
          rw [hname, ← hfcontext, hlocal, Dotted.qualify_under _ _ hnamed, contextInside, found]
          rfl
        · intro s hs e hparent hfile
          exact .above hparent hself (hinstance.file_eq.trans hfile.symm) (hspliced s hs)
      · obtain ⟨i, hi, start, he, hinside⟩ := Splice.mem_layoutAll_flatMap he
        refine hbelow d hd i hi f start hinstance hself ?_ ?_ e he
        · exact hname ▸ Dotted.qualify_ne_nil _ hnamed
        · exact fun e he => hrest e (Or.inl (Or.inr (hinside e he)))
      · exact ihBehind hcontext hup (fun e he => hrest e (Or.inr he)) e he

/-- An instance directly in a spliced file has the context of its place. -/
theorem Hosts.placedAs {outlines : List Outline} {ds : List Definition} {f : Path}
    {place : Option Definition} (h : Hosts outlines ds f place) {e : Definition} {d : Declaration}
    (hcontext : e.context = Dotted.under (placeName place) d.context)
    (hspliced : ∀ s, place = some s → SplicedUnder ds e s) : e.PlacedAs outlines ds f d := by
  cases place with
  | none =>
      have hnone : importSites outlines f = [] := h
      rw [Definition.PlacedAs, if_pos hnone, hcontext]
      exact Dotted.nil_under _
  | some s =>
      obtain ⟨hfound, -, hname, site, hsite, hinstance⟩ := h
      have hne : importSites outlines f ≠ [] := List.ne_nil_of_mem hsite
      rw [Definition.PlacedAs, if_neg hne]
      refine ⟨s, List.mem_of_getElem? hfound, ⟨site, hsite, hinstance⟩, hspliced s rfl, hcontext,
        ?_⟩
      have hcontext' : e.context ≠ [] := hcontext ▸ Dotted.under_ne_nil hname _
      simpa [Definition.isTopLevel] using hcontext'

/-- Every definition of an unfolding is an instance of a declaration and
has the context that its place gives it. -/
theorem Unfolds.placed {outlines : List Outline}
    (hnested : ∀ o ∈ outlines, WellNested o.declarations)
    (hacyclic : ∀ f, ¬ Relation.TransGen (Imports outlines) f f) {ds : List Definition}
    {o : Outline} {tree : Splice} (h : Unfolds outlines o tree) (ho : o ∈ outlines)
    {place : Option Definition} (hplace : Hosts outlines ds o.file place) (path : Path) (next : Nat)
    (hall : ∀ e ∈ tree.layout path (place.map Definition.id) (placeName place) next,
      ds[e.id]? = some e) :
    ∀ e ∈ tree.layout path (place.map Definition.id) (placeName place) next,
      ∃ p ∈ outlines, ∃ d ∈ p.declarations, e.InstanceOf p.file d ∧
        e.PlacedAs outlines ds p.file d := by
  induction h generalizing place path next with
  | enter o trees below ih =>
      rw [Splice.layout] at hall ⊢
      refine Lists.placed (hnested o ho) place ?_ ?_ (hnested o ho).lists_forest rfl ?_ hall
      · intro d hd e hinstance hcontext hspliced
        exact ⟨o, ho, d, hd, hinstance, hplace.placedAs hcontext hspliced⟩
      · intro d hd i hi f start hinstance hfound hname hinside
        have hi' : i ∈ o.imports := List.mem_flatMap.2 ⟨d, hd, hi⟩
        cases hindexed : outlineAt? outlines i.path with
        | none => simp [spliced, hindexed, Splice.layoutAll]
        | some m =>
            obtain ⟨hm, hfile⟩ := file_of_outlineAt? hindexed
            have hedge : Imports outlines o.file m.file := hfile ▸ imports_of_mem ho hi' hindexed
            -- No file imports itself, so the place is in another file.
            have hother : f.location.file ≠ m.file := by
              rintro heq
              rw [← heq, hinstance.file_eq] at hedge
              exact hacyclic o.file (.single hedge)
            have hhosts : Hosts outlines ds m.file (some f) :=
              ⟨hfound, hother, hname, (o, d), mem_importSites.2 ⟨ho, hd, i, hi, hfile.symm⟩,
                hinstance⟩
            simp only [spliced, hindexed, Option.isSome_some, if_true, Splice.layoutAll,
              List.append_nil] at hinside ⊢
            exact ih i hi' m hindexed hm hhosts o.file start hinside
      · intro s hs e hparent hfile
        subst hs
        obtain ⟨hfound, hother, -⟩ := hplace
        exact .here hparent hfound (hfile ▸ hother)

/-! ### The definitions of a workspace -/

/-- The definitions are the instances of the declarations of the files. -/
structure InstancesOf (outlines : List Outline) (mult : Path → Nat) (ds : List Definition) :
    Prop where
  /-- A declaration has as many instances as its file is spliced. -/
  counted : ∀ o ∈ outlines, ∀ d ∈ o.declarations,
    ds.countP (fun e => e.InstanceOf o.file d) = mult o.file
  /-- An instance has the context that its place gives it. -/
  placed : ∀ o ∈ outlines, ∀ d ∈ o.declarations, ∀ e ∈ ds, e.InstanceOf o.file d →
    e.PlacedAs outlines ds o.file d
  /-- Every definition is an instance. -/
  covered : ∀ e ∈ ds, ∃ o ∈ outlines, ∃ d ∈ o.declarations, e.InstanceOf o.file d
  /-- The number of definitions. -/
  total : ds.length = (outlines.map fun o => mult o.file * o.declarations.length).sum

/-- The order of the outlines does not matter for the import sites. -/
theorem importSites_perm {outlines others : List Outline} (h : outlines.Perm others) (f : Path) :
    (importSites outlines f).Perm (importSites others f) :=
  h.flatMap_right _

/-- In any order, the same files are imported by nobody. -/
theorem importSites_eq_nil_iff {outlines others : List Outline} (h : outlines.Perm others)
    (f : Path) : importSites outlines f = [] ↔ importSites others f = [] := by
  rw [← List.perm_nil, ← List.perm_nil]
  exact (importSites_perm h f).congr_left []

/-- The order of the outlines does not matter for the equations. -/
theorem IsMultiplicity.perm {outlines others : List Outline} {mult : Path → Nat}
    (hmult : IsMultiplicity outlines mult) (h : outlines.Perm others) :
    IsMultiplicity others mult := by
  intro o ho
  have hsum := ((importSites_perm h o.file).map fun site => mult site.1.file).sum_eq
  rw [hmult o (h.mem_iff.2 ho), hsum]
  simp only [importSites_eq_nil_iff h]

/-- The order of the outlines does not matter for the instances. -/
theorem InstancesOf.perm {outlines others : List Outline} {mult : Path → Nat}
    {ds : List Definition} (hds : InstancesOf outlines mult ds) (h : outlines.Perm others) :
    InstancesOf others mult ds where
  counted o ho := hds.counted o (h.mem_iff.2 ho)
  placed o ho d hd e he hinstance := by
    have hplaced := hds.placed o (h.mem_iff.2 ho) d hd e he hinstance
    rw [Definition.PlacedAs] at hplaced ⊢
    simpa only [importSites_eq_nil_iff h, (importSites_perm h o.file).mem_iff] using hplaced
  covered e he := by
    obtain ⟨o, ho, hinstance⟩ := hds.covered e he
    exact ⟨o, h.mem_iff.1 ho, hinstance⟩
  total := by rw [hds.total, (h.map fun o => mult o.file * o.declarations.length).sum_eq]

/-- Every definition of the forest is an instance of a declaration and has
the context that its place gives it. -/
theorem placed_definitionsOf_roots {outlines : List Outline}
    (hdistinct : (outlines.map Outline.file).Nodup)
    (hnested : ∀ o ∈ outlines, WellNested o.declarations)
    (hacyclic : ∀ f, ¬ Relation.TransGen (Imports outlines) f f)
    (hunfolds : ∀ o ∈ rootsOf outlines, Unfolds outlines o (treeOf outlines o)) {e : Definition}
    (he : e ∈ definitionsOf ((rootsOf outlines).map (treeOf outlines))) :
    ∃ o ∈ outlines, ∃ d ∈ o.declarations, e.InstanceOf o.file d ∧
      e.PlacedAs outlines (definitionsOf ((rootsOf outlines).map (treeOf outlines))) o.file d := by
  have hforest : (rootsOf outlines).map (treeOf outlines)
      = (rootsOf outlines).flatMap fun o => [treeOf outlines o] := List.map_eq_flatMap
  rw [definitionsOf, hforest] at he
  obtain ⟨root, hroot, start, he, hinside⟩ := Splice.mem_layoutAll_flatMap he
  rw [← hforest] at hinside
  simp only [Splice.layoutAll, List.append_nil] at he hinside
  obtain ⟨ho, hnone⟩ := (mem_rootsOf hdistinct).1 hroot
  have htop : Hosts outlines (definitionsOf ((rootsOf outlines).map (treeOf outlines)))
      root.file none := hnone
  exact (hunfolds root hroot).placed hnested hacyclic ho htop .empty start
    (fun e he => getElem?_definitionsOf (hinside e he)) e he

/-- A workspace that splices has one solution of the equations, and its
definitions are the instances that the solution counts. -/
theorem instancesOf_spliceAll {outlines : List Outline}
    (hdistinct : (outlines.map Outline.file).Nodup)
    (hnested : ∀ o ∈ outlines, WellNested o.declarations)
    (hplaces : ∀ o ∈ outlines, (o.declarations.map fun d => d.originIn o.file).Nodup)
    {forest : List Splice} (h : spliceAll outlines = .ok forest) :
    IsMultiplicity outlines (fun f => (filesOf outlines).count f) ∧
      ∀ mult, IsMultiplicity outlines mult → InstancesOf outlines mult (definitionsOf forest) := by
  have hacyclic := not_cyclic_of_spliceAll hdistinct hnested h
  obtain ⟨rfl, hunfolds⟩ := spliceAll_eq_roots hdistinct hnested h
  -- The number of times that a file stands in the forest is a solution,
  -- and there is no other.
  have hsolves := isMultiplicity_count hdistinct hnested hunfolds
  have hinstance := fun e =>
    @placed_definitionsOf_roots outlines hdistinct hnested hacyclic hunfolds e
  refine ⟨hsolves, fun mult hmult => ?_⟩
  have hcount := hsolves.unique hacyclic hmult
  refine ⟨fun o ho d hd => ?_, fun o ho d hd e he hown => ?_, fun e he => ?_, ?_⟩
  · rw [countP_instanceOf hdistinct hnested hplaces hunfolds ho hd]
    exact hcount o ho
  · -- Places tell the declarations apart, so it is the same declaration.
    obtain ⟨p, hp, d', hd', hother, hplaced⟩ := hinstance e he
    obtain rfl : p = o := List.inj_on_of_nodup_map hdistinct hp ho
      (hother.file_eq.symm.trans hown.file_eq)
    obtain rfl : d' = d := List.inj_on_of_nodup_map (hplaces p hp) hd' hd (hother.symm.trans hown)
    exact hplaced
  · obtain ⟨o, ho, d, hd, hown, -⟩ := hinstance e he
    exact ⟨o, ho, d, hd, hown⟩
  · rw [length_definitionsOf_roots hdistinct hnested hunfolds]
    exact congrArg List.sum (List.map_congr_left fun o ho => by rw [hcount o ho])

/-- The declarations of a file that is read have distinct places. -/
theorem nodup_originIn_of_mem_outlinesOf {sources : List (Path × Text)} {o : Outline}
    (ho : o ∈ outlinesOf sources) : (o.declarations.map fun d => d.originIn o.file).Nodup := by
  obtain ⟨source, -, rfl⟩ := List.mem_map.1 ho
  have hnested := Outline.wellNested_read source.1 source.2
  have horder := Outline.pairwise_precedes_read source.1 source.2
  refine List.pairwise_map.2 (horder.imp_of_mem fun {d e} hd _ hde heq => ?_)
  have hline : d.line = e.line := congrArg (fun origin => origin.2.2.2.line) heq
  have hcolumn : d.column = e.column := congrArg (fun origin => origin.2.2.2.column) heq
  have hlen : 0 < d.name.length := List.length_pos_iff.2 (hnested.named d hd)
  -- A name has at least one character, so the next one starts later.
  rcases hde with hlt | ⟨-, hend⟩
  · omega
  · rw [Declaration.endColumn] at hend
    omega

/-- Every definition of a table that is built from files with distinct paths is
an instance of a declaration and has the context that its place gives it. -/
theorem Table.placed_of_mem_definitions {sources : List (Path × Text)}
    (hdistinct : ((outlinesOf sources).map Outline.file).Nodup) {t : Table}
    (hbuild : Table.build (outlinesOf sources) = .ok t) {e : Definition}
    (he : e ∈ t.definitions) : ∃ o ∈ outlinesOf sources, ∃ d ∈ o.declarations,
      e.InstanceOf o.file d ∧ e.PlacedAs (outlinesOf sources) t.definitions o.file d := by
  have hperm := Table.inOrder_perm (outlinesOf sources)
  obtain ⟨forest, hforest, rfl⟩ := Table.spliceAll_of_build_ok hbuild
  obtain ⟨hsolves, hinstances⟩ := instancesOf_spliceAll
    ((hperm.map Outline.file).nodup_iff.2 hdistinct)
    (fun o ho => wellNested_of_mem_outlinesOf (hperm.mem_iff.1 ho))
    (fun o ho => nodup_originIn_of_mem_outlinesOf (hperm.mem_iff.1 ho)) hforest
  have hall := (hinstances _ hsolves).perm hperm
  rw [Table.definitions_foldl_push] at he ⊢
  obtain ⟨o, ho, d, hd, hinstance⟩ := hall.covered e he
  exact ⟨o, ho, d, hd, hinstance, hall.placed o ho d hd e he hinstance⟩

/-- A table that is built from files with distinct paths holds, for every
declaration of a file, as many instances as the file is spliced, each in
its place, and nothing else. The equations that count have a solution, and
every solution counts right. -/
theorem Table.instancesOf_build (sources : List (Path × Text))
    (hdistinct : ((outlinesOf sources).map Outline.file).Nodup) (t : Table)
    (hbuild : Table.build (outlinesOf sources) = .ok t) :
    (∃ mult, IsMultiplicity (outlinesOf sources) mult) ∧
      ∀ mult, IsMultiplicity (outlinesOf sources) mult →
        InstancesOf (outlinesOf sources) mult t.definitions := by
  have hperm := Table.inOrder_perm (outlinesOf sources)
  obtain ⟨forest, hforest, rfl⟩ := Table.spliceAll_of_build_ok hbuild
  obtain ⟨hsolves, hinstances⟩ := instancesOf_spliceAll
    ((hperm.map Outline.file).nodup_iff.2 hdistinct)
    (fun o ho => wellNested_of_mem_outlinesOf (hperm.mem_iff.1 ho))
    (fun o ho => nodup_originIn_of_mem_outlinesOf (hperm.mem_iff.1 ho)) hforest
  refine ⟨⟨_, hsolves.perm hperm⟩, fun mult hmult => ?_⟩
  rw [Table.definitions_foldl_push]
  exact (hinstances mult (hmult.perm hperm.symm)).perm hperm

/-- A file that two files import, one of them inside the other. -/
def fanSources : List (Path × Text) :=
  [(.parse "/ws/a.mql", "CREATE BASE A { IMPORT b; IMPORT c; }"),
    (.parse "/ws/b.mql", "CREATE BASE B { IMPORT c; }"),
    (.parse "/ws/c.mql", "CREATE BASE C { CREATE TAG T; }")]

/-- The file that is imported twice stands in the table twice. -/
theorem Table.instancesOf_build_fanSources :
    ((outlinesOf fanSources).map Outline.file).Nodup ∧
      ∃ t, Table.build (outlinesOf fanSources) = .ok t ∧
        InstancesOf (outlinesOf fanSources) (fun f => if f = .parse "/ws/c.mql" then 2 else 1)
          t.definitions := by
  have hdistinct : ((outlinesOf fanSources).map Outline.file).Nodup := by decide +kernel
  have hmult : IsMultiplicity (outlinesOf fanSources)
      fun f => if f = .parse "/ws/c.mql" then 2 else 1 := by decide +kernel
  have hok : (Table.build (outlinesOf fanSources)).toBool = true := by decide +kernel
  cases hbuild : Table.build (outlinesOf fanSources) with
  | error c => rw [hbuild] at hok; cases hok
  | ok t =>
      exact ⟨hdistinct, t, rfl, (Table.instancesOf_build fanSources hdistinct t hbuild).2 _ hmult⟩

end DefIndex
