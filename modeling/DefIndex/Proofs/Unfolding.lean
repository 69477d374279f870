import DefIndex.Proofs.Forest

/-!
# `DefIndex.Proofs.Unfolding`: what entering a file gives

Entering a file runs a loader at every import of its forest, and it stops
at the first import that closes a cycle. The two outcomes are kept apart
here.

* `Splice.graftAll` is splicing with a loader that never fails.
* `Lists.expandAll_error_or` and `Lists.expandAll_ok`: splicing the forest of
  a file fails with the error of one of its imports, or all imports load
  and the result is the grafted forest.
* `Unfolds outlines o tree` says that `tree` is the file `o` with all that
  it imports, and all that this imports, spliced in. It does not know the
  way that led to the file.
* `Enters outlines active o result` lists what entering a file can come
  to: an import closes a cycle, an import fails, or all imports unfold.
  `enters_expandFile` says that there is nothing else.
* `entering_induction` goes along a way of files that are entered.
* `unfolds_of_expandFile`: a tree that comes out is an unfolding.
-/

set_option autoImplicit false

namespace DefIndex

/-! ### Loaders that never fail -/

/-- Running a function through a list stops at an error, or every element
has a result. -/
theorem mapM_error_or {ε α β : Type} (f : α → Except ε β) (xs : List α) :
    (∃ x ∈ xs, ∃ e, f x = .error e ∧ xs.mapM f = .error e) ∨ ∀ x ∈ xs, ∃ y, f x = .ok y := by
  induction xs with
  | nil => exact Or.inr (by simp)
  | cons x xs ih =>
      rw [List.mapM_cons]
      cases hx : f x with
      | error e => exact Or.inl ⟨x, List.mem_cons_self, e, hx, rfl⟩
      | ok y =>
          rcases ih with ⟨z, hz, e, hze, hxs⟩ | hall
          · refine Or.inl ⟨z, List.mem_cons_of_mem _ hz, e, hze, ?_⟩
            rw [hxs]
            rfl
          · exact Or.inr (List.forall_mem_cons.2 ⟨⟨y, hx⟩, hall⟩)

/-- Where every element has a result, these are the result. -/
theorem mapM_ok {ε α β : Type} {f : α → Except ε β} {g : α → β} {xs : List α}
    (h : ∀ x ∈ xs, f x = .ok (g x)) : xs.mapM f = .ok (xs.map g) := by
  induction xs with
  | nil => rfl
  | cons x xs ih =>
      obtain ⟨hx, hxs⟩ := List.forall_mem_cons.1 h
      rw [List.mapM_cons, hx, ih hxs]
      rfl

namespace Splice

mutual

/-- Splice the imports of a tree with a loader that never fails. -/
def graft (load : Path → List Splice) : Splice → Splice
  | file path parts => file path (graftAll load parts)
  | declaration d parts =>
    declaration d (graftAll load parts ++ d.imports.flatMap fun i => load i.path)

/-- Splice the imports of a forest with a loader that never fails. -/
def graftAll (load : Path → List Splice) : List Splice → List Splice
  | [] => []
  | tree :: trees => graft load tree :: graftAll load trees

end

/-- What a loader gives, nothing where it fails. -/
def loaded (load : Path → Except ImportCycle (List Splice)) (path : Path) : List Splice :=
  (load path).toOption.getD []

end Splice

namespace Lists

variable {ds : List Declaration} {first last : Nat} {parent : Option Nat} {trees : List Splice}

/-- A forest whose imports all load is grafted. -/
theorem expandAll_ok (h : Lists ds first last parent trees)
    {load : Path → Except ImportCycle (List Splice)} {found : Path → List Splice}
    (hload : ∀ i ∈ (Splice.preorderAll trees).flatMap Declaration.imports,
      load i.path = .ok (found i.path)) :
    Splice.expandAll load trees = .ok (Splice.graftAll found trees) := by
  induction h with
  | nil => rfl
  | @cons _ _ _ _ d parts trees _ _ _ _ _ ihInside ihBehind =>
      simp only [Splice.preorderAll, Splice.preorder, List.flatMap_append, List.flatMap_cons,
        List.mem_append] at hload
      have hinside := ihInside fun i hi => hload i (Or.inl (Or.inr hi))
      have hown : d.imports.mapM (fun i => load i.path)
          = .ok (d.imports.map fun i => found i.path) :=
        mapM_ok fun i hi => hload i (Or.inl (Or.inl hi))
      have hbehind := ihBehind fun i hi => hload i (Or.inr hi)
      rw [Splice.expandAll, Splice.expand, hinside, hown, hbehind]
      rfl

/-- Splicing a forest fails as one of its imports does, or all its imports
load. -/
theorem expandAll_error_or (h : Lists ds first last parent trees)
    (load : Path → Except ImportCycle (List Splice)) :
    (∃ i ∈ (Splice.preorderAll trees).flatMap Declaration.imports, ∃ c,
        load i.path = .error c ∧ Splice.expandAll load trees = .error c) ∨
      ∀ i ∈ (Splice.preorderAll trees).flatMap Declaration.imports,
        load i.path = .ok (Splice.loaded load i.path) := by
  induction h with
  | nil => exact Or.inr (by simp [Splice.preorderAll])
  | @cons _ _ _ _ d parts trees _ _ _ inside _ ihInside ihBehind =>
      simp only [Splice.preorderAll, Splice.preorder, List.flatMap_append, List.flatMap_cons,
        List.mem_append, Splice.expandAll, Splice.expand]
      -- The parts are spliced before the imports of the declaration itself.
      rcases ihInside with ⟨i, hi, c, hload, hfail⟩ | hinside
      · refine Or.inl ⟨i, Or.inl (Or.inr hi), c, hload, ?_⟩
        rw [hfail]
        rfl
      rw [inside.expandAll_ok hinside]
      rcases mapM_error_or (fun i : Import => load i.path) d.imports with
        ⟨i, hi, c, hload, hfail⟩ | hown
      · refine Or.inl ⟨i, Or.inl (Or.inl hi), c, hload, ?_⟩
        rw [hfail]
        rfl
      have hown : ∀ i ∈ d.imports, load i.path = .ok (Splice.loaded load i.path) := by
        intro i hi
        obtain ⟨found, hfound⟩ := hown i hi
        rw [Splice.loaded, hfound]
        rfl
      rw [mapM_ok hown]
      rcases ihBehind with ⟨i, hi, c, hload, hfail⟩ | hbehind
      · refine Or.inl ⟨i, Or.inr hi, c, hload, ?_⟩
        rw [hfail]
        rfl
      · refine Or.inr ?_
        rintro i ((hi | hi) | hi)
        · exact hown i hi
        · exact hinside i hi
        · exact hbehind i hi

end Lists

/-! ### Collecting -/

/-- What a view collects from a grafted forest is what it collects from
the declarations, then what it collects from each imported forest, up to
the order. -/
theorem Lists.graftAll_perm {ds : List Declaration} {first last : Nat} {parent : Option Nat}
    {trees : List Splice} (h : Lists ds first last parent trees) {α : Type}
    (view : List Splice → List α) (own : Declaration → List α) (hnil : view [] = [])
    (happend : ∀ some more, view (some ++ more) = view some ++ view more)
    (hcons : ∀ d parts rest,
      view (.declaration d parts :: rest) = own d ++ view parts ++ view rest)
    (load : Path → List Splice) :
    (view (Splice.graftAll load trees)).Perm
      ((Splice.preorderAll trees).flatMap own
        ++ ((Splice.preorderAll trees).flatMap Declaration.imports).flatMap
          fun i => view (load i.path)) := by
  have hflat : ∀ imports : List Import, view (imports.flatMap fun i => load i.path)
      = imports.flatMap fun i => view (load i.path) := by
    intro imports
    induction imports with
    | nil => exact hnil
    | cons i rest ih => rw [List.flatMap_cons, List.flatMap_cons, happend, ih]
  induction h with
  | nil => simp [Splice.graftAll, Splice.preorderAll, hnil]
  | @cons _ _ _ _ d parts rest _ _ _ _ _ ihInside ihBehind =>
      simp only [Splice.graftAll, Splice.graft, Splice.preorderAll, Splice.preorder, hcons, happend,
        hflat, List.flatMap_append, List.flatMap_cons, List.append_assoc]
      -- On both sides the declaration itself comes first.
      refine List.Perm.append_left (own d) ?_
      generalize (d.imports.flatMap fun i => view (load i.path)) = found
      refine (ihInside.append (ihBehind.append_left found)).trans ?_
      -- The imports of the declarations inside move behind everything else.
      rw [List.append_assoc]
      refine List.Perm.append_left _ ?_
      exact ((List.perm_append_comm_assoc _ _ _).trans
        ((List.perm_append_comm_assoc _ _ _).append_left found)).trans
          (List.perm_append_comm_assoc _ _ _)

/-! ### Entering a file -/

/-- One tree for a file that has an outline, nothing for another. -/
def spliced (outlines : List Outline) (trees : Path → Splice) (path : Path) : List Splice :=
  if (outlineAt? outlines path).isSome then [trees path] else []

/-- The loader of the imports of a file that is entered at the end of a
way. -/
def loadFrom (outlines : List Outline) (way : List Path) (path : Path) :
    Except ImportCycle (List Splice) :=
  match outlineAt? outlines path with
  | none => .ok []
  | some imported =>
    if path ∈ way then .error ⟨way ++ [path]⟩
    else do
      let tree ← expandFile outlines way imported
      return [tree]

/-- Entering a file splices its forest. -/
theorem expandFile_eq (outlines : List Outline) (active : List Path) (o : Outline) :
    expandFile outlines active o = do
      let parts ← Splice.expandAll (loadFrom outlines (active ++ [o.file])) o.forest
      return .file o.file parts := by
  rw [expandFile]
  -- The loader in the definition also carries what its termination needs.
  refine congrArg (fun load => do
    let parts ← Splice.expandAll load o.forest
    return Splice.file o.file parts) (funext fun path => ?_)
  rw [loadFrom]
  split <;> simp_all

/-- An import that fails closes a cycle or names a file that fails. -/
theorem loadFrom_error {outlines : List Outline} {way : List Path} {path : Path} {c : ImportCycle}
    (h : loadFrom outlines way path = .error c) :
    ∃ imported, outlineAt? outlines path = some imported ∧
      (path ∈ way ∧ c = ⟨way ++ [path]⟩ ∨
        path ∉ way ∧ expandFile outlines way imported = .error c) := by
  rw [loadFrom] at h
  cases hfound : outlineAt? outlines path with
  | none => simp [hfound] at h
  | some imported =>
      simp only [hfound] at h
      refine ⟨imported, rfl, ?_⟩
      by_cases hway : path ∈ way
      · rw [if_pos hway] at h
        exact Or.inl ⟨hway, (Except.error.inj h).symm⟩
      · rw [if_neg hway] at h
        refine Or.inr ⟨hway, ?_⟩
        cases hinside : expandFile outlines way imported with
        | error e =>
            rw [hinside] at h
            exact congrArg Except.error (Except.error.inj h)
        | ok tree => rw [hinside] at h; cases h

/-- An import that loads names a file off the way that gives a tree, or a
file without an outline. -/
theorem loadFrom_ok {outlines : List Outline} {way : List Path} {path : Path}
    {found : List Splice} (h : loadFrom outlines way path = .ok found) :
    (outlineAt? outlines path = none ∧ found = []) ∨
      ∃ imported tree, outlineAt? outlines path = some imported ∧ path ∉ way ∧
        expandFile outlines way imported = .ok tree ∧ found = [tree] := by
  rw [loadFrom] at h
  cases hfound : outlineAt? outlines path with
  | none =>
      rw [hfound] at h
      exact Or.inl ⟨rfl, (Except.ok.inj h).symm⟩
  | some imported =>
      simp only [hfound] at h
      by_cases hway : path ∈ way
      · rw [if_pos hway] at h
        cases h
      · rw [if_neg hway] at h
        cases hinside : expandFile outlines way imported with
        | error e => rw [hinside] at h; cases h
        | ok tree =>
            rw [hinside] at h
            exact Or.inr ⟨imported, tree, rfl, hway, hinside, (Except.ok.inj h).symm⟩

/-- What entering a file can come to. -/
inductive Enters (outlines : List Outline) (active : List Path) (o : Outline) :
    Except ImportCycle Splice → Prop where
  /-- An import names a file of the way. -/
  | closes {i : Import} {imported : Outline} (mem : i ∈ o.imports)
      (found : outlineAt? outlines i.path = some imported) (again : i.path ∈ active ++ [o.file]) :
      Enters outlines active o (.error ⟨active ++ [o.file] ++ [i.path]⟩)
  /-- An imported file fails. -/
  | fails {i : Import} {imported : Outline} {c : ImportCycle} (mem : i ∈ o.imports)
      (found : outlineAt? outlines i.path = some imported) (new : i.path ∉ active ++ [o.file])
      (inside : expandFile outlines (active ++ [o.file]) imported = .error c) :
      Enters outlines active o (.error c)
  /-- Every imported file gives a tree. -/
  | unfolds (trees : Path → Splice)
      (below : ∀ i ∈ o.imports, ∀ imported, outlineAt? outlines i.path = some imported →
        i.path ∉ active ++ [o.file] ∧
          expandFile outlines (active ++ [o.file]) imported = .ok (trees i.path)) :
      Enters outlines active o
        (.ok (.file o.file (Splice.graftAll (spliced outlines trees) o.forest)))

/-- Entering a file comes to nothing else. -/
theorem enters_expandFile (outlines : List Outline) (active : List Path) {o : Outline}
    (hnested : WellNested o.declarations) :
    Enters outlines active o (expandFile outlines active o) := by
  have himports : (Splice.preorderAll o.forest).flatMap Declaration.imports = o.imports := by
    rw [hnested.preorderAll_forest, Outline.imports]
  rw [expandFile_eq]
  rcases hnested.lists_forest.expandAll_error_or (loadFrom outlines (active ++ [o.file])) with
    ⟨i, hi, c, hload, hfail⟩ | hall
  · rw [himports] at hi
    rw [hfail]
    obtain ⟨imported, hfound, ⟨hway, rfl⟩ | ⟨hway, hinside⟩⟩ := loadFrom_error hload
    · exact .closes hi hfound hway
    · exact .fails hi hfound hway hinside
  · rw [himports] at hall
    -- The tree of a path, read off what the loader gives there.
    let trees (path : Path) : Splice :=
      (Splice.loaded (loadFrom outlines (active ++ [o.file])) path).headD (.file path [])
    have hloads : ∀ i ∈ (Splice.preorderAll o.forest).flatMap Declaration.imports,
        loadFrom outlines (active ++ [o.file]) i.path = .ok (spliced outlines trees i.path) := by
      intro i hi
      rw [himports] at hi
      obtain ⟨hnone, hnil⟩ | ⟨imported, tree, hfound, -, -, htree⟩ := loadFrom_ok (hall i hi)
      · rw [hall i hi, hnil, spliced, hnone]
        rfl
      · rw [hall i hi, spliced, hfound]
        simp [trees, htree]
    rw [hnested.lists_forest.expandAll_ok hloads]
    refine .unfolds trees fun i hi imported hfound => ?_
    obtain ⟨hnone, -⟩ | ⟨m, tree, hm, hway, hinside, htree⟩ := loadFrom_ok (hall i hi)
    · rw [hnone] at hfound
      cases hfound
    · rw [hm] at hfound
      cases hfound
      refine ⟨hway, hinside.trans (congrArg Except.ok ?_)⟩
      simp [trees, htree]

/-- What passes from the imported files to a file holds of every file that
is entered. The files ahead of a way get fewer with every file, so the
induction ends. -/
theorem entering_induction {outlines : List Outline} {motive : List Path → Outline → Prop}
    (step : ∀ active, ∀ o ∈ outlines,
      (∀ path imported, outlineAt? outlines path = some imported → path ∉ active ++ [o.file] →
        motive (active ++ [o.file]) imported) → motive active o)
    (active : List Path) {o : Outline} (ho : o ∈ outlines) : motive active o := by
  induction hahead : (filesAhead outlines (active ++ [o.file])).length
    using Nat.strong_induction_on generalizing active o with
  | _ ahead ih =>
      refine step active o ho fun path imported hfound hnew => ?_
      obtain ⟨himported, hfile⟩ := file_of_outlineAt? hfound
      -- The imported file was ahead of the way and is on it now.
      refine ih _ ?_ (active ++ [o.file]) himported rfl
      rw [← hahead, hfile]
      exact length_filesAhead_append_lt (hfile ▸ List.mem_map_of_mem himported) hnew

/-! ### Unfoldings -/

/-- The tree is a file with all that it imports, and all that this
imports, spliced in. -/
inductive Unfolds (outlines : List Outline) : Outline → Splice → Prop where
  | enter (o : Outline) (trees : Path → Splice)
      (below : ∀ i ∈ o.imports, ∀ imported, outlineAt? outlines i.path = some imported →
        Unfolds outlines imported (trees i.path)) :
      Unfolds outlines o (.file o.file (Splice.graftAll (spliced outlines trees) o.forest))

/-- A file that is entered without an error unfolds. -/
theorem unfolds_of_expandFile {outlines : List Outline}
    (hnested : ∀ o ∈ outlines, WellNested o.declarations) {active : List Path} {o : Outline}
    {tree : Splice} (ho : o ∈ outlines) (h : expandFile outlines active o = .ok tree) :
    Unfolds outlines o tree := by
  refine entering_induction (motive := fun active o => ∀ tree,
    expandFile outlines active o = .ok tree → Unfolds outlines o tree) ?_ active ho tree h
  intro active o ho ih tree h
  have henters := enters_expandFile outlines active (hnested o ho)
  rw [h] at henters
  cases henters with
  | unfolds trees below =>
      refine .enter o trees fun i hi imported hfound => ?_
      obtain ⟨hnew, hinside⟩ := below i hi imported hfound
      exact ih i.path imported hfound hnew (trees i.path) hinside

end DefIndex
