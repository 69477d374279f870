import DefIndex.Outline

/-!
# `DefIndex.Splice`: files put together along their imports

An import splices the declarations of a file under the declaration whose
block holds it, once per import. The result is a forest of `Splice`
trees: a file node holds the declarations of one file, a declaration node
holds its own declarations followed by the files it imports.

* `Outline.forest` is the forest of one file, nothing spliced.
* `Splice.expand` splices the files that a loader gives.
* `expandFile` is that loader: it knows the files entered on the way
  here and refuses to enter one of them again. Such a file closes a
  cycle, and the chain of files is the error.
-/

set_option autoImplicit false

namespace DefIndex

/-- A tree of declarations and the files spliced into them. -/
inductive Splice where
  | file (path : Path) (parts : List Splice)
  | declaration (declaration : Declaration) (parts : List Splice)
deriving Repr

/-- The files entered one after the other, the last one a second time. -/
structure ImportCycle where
  chain : List Path
deriving DecidableEq, Repr

/-- The wording of a cycle. -/
def ImportCycle.message (c : ImportCycle) : Text :=
  "Cyclic import: " ++ Text.join " -> " (c.chain.map Path.render)

/-! ### The forest of one file -/

/-- The tree of the declaration at an index. The height bounds the
nesting; a declaration has no more levels below it than its file has
declarations. -/
def Outline.treeAt (declarations : List Declaration) : (height ix : Nat) → List Splice
  | 0, _ => []
  | height + 1, ix =>
    match declarations[ix]? with
    | some d => [.declaration d (d.children.flatMap (treeAt declarations height))]
    | none => []

/-- The declarations of a file as a forest, nothing spliced. -/
def Outline.forest (o : Outline) : List Splice :=
  o.topLevel.flatMap (treeAt o.declarations o.declarations.length)

namespace Splice

/-! ### Splicing -/

mutual

/-- Splice the imports of a tree, each declaration's own declarations
before its imports. -/
def expand (load : Path → Except ImportCycle (List Splice)) :
    Splice → Except ImportCycle Splice
  | file path parts => do
    let parts ← expandAll load parts
    return file path parts
  | declaration d parts => do
    let own ← expandAll load parts
    let imported ← d.imports.mapM fun i => load i.path
    return declaration d (own ++ imported.flatten)

/-- Splice the imports of a forest, tree by tree. -/
def expandAll (load : Path → Except ImportCycle (List Splice)) :
    List Splice → Except ImportCycle (List Splice)
  | [] => return []
  | tree :: trees => do
    let tree ← expand load tree
    let trees ← expandAll load trees
    return tree :: trees

end

/-! ### Views -/

mutual

/-- The files of a tree, in the order they were entered. -/
def files : Splice → List Path
  | file path parts => path :: filesAll parts
  | declaration _ parts => filesAll parts

/-- The files of a forest. -/
def filesAll : List Splice → List Path
  | [] => []
  | tree :: trees => files tree ++ filesAll trees

end

mutual

/-- The number of declarations in a tree. -/
def size : Splice → Nat
  | file _ parts => sizeAll parts
  | declaration _ parts => sizeAll parts + 1

/-- The number of declarations in a forest. -/
def sizeAll : List Splice → Nat
  | [] => 0
  | tree :: trees => size tree + sizeAll trees

end

mutual

/-- The outermost declarations of a tree: a file stands for the
declarations it holds. -/
def tops : Splice → List Declaration
  | file _ parts => topsAll parts
  | declaration d _ => [d]

/-- The outermost declarations of a forest. -/
def topsAll : List Splice → List Declaration
  | [] => []
  | tree :: trees => tops tree ++ topsAll trees

end

mutual

/-- The numbers of the outermost declarations of a tree when its
declarations are numbered in order from `next` on. -/
def topIds (next : Nat) : Splice → List Nat
  | file _ parts => topIdsAll next parts
  | declaration _ _ => [next]

/-- The numbers of the outermost declarations of a forest. -/
def topIdsAll (next : Nat) : List Splice → List Nat
  | [] => []
  | tree :: trees => topIds next tree ++ topIdsAll (next + size tree) trees

end

end Splice

/-! ### Splicing a workspace -/

/-- The outline of a path; the last one if several have it. -/
def outlineAt? (outlines : List Outline) (path : Path) : Option Outline :=
  outlines.reverse.find? fun o => o.file = path

/-- An outline that is found by a path is one of the outlines and has
that path. -/
theorem file_of_outlineAt? {outlines : List Outline} {path : Path} {o : Outline}
    (h : outlineAt? outlines path = some o) : o ∈ outlines ∧ o.file = path := by
  have hmem := List.mem_of_find?_eq_some h
  have hfile := List.find?_some h
  exact ⟨by simpa using hmem, by simpa using hfile⟩

/-- The indexed files that a way has not entered yet. -/
def filesAhead (outlines : List Outline) (way : List Path) : List Path :=
  (outlines.map Outline.file).filter fun path => path ∉ way

/-- Entering an indexed file for the first time leaves fewer files ahead. -/
theorem length_filesAhead_append_lt {outlines : List Outline} {way : List Path} {path : Path}
    (hmem : path ∈ outlines.map Outline.file) (hnew : path ∉ way) :
    (filesAhead outlines (way ++ [path])).length < (filesAhead outlines way).length := by
  have hsub : filesAhead outlines (way ++ [path])
      = (filesAhead outlines way).filter fun p => p ≠ path := by
    rw [filesAhead, filesAhead, List.filter_filter]
    exact List.filter_congr fun p _ => by simp [and_comm]
  rw [hsub]
  refine List.length_filter_lt_length_iff_exists.2 ⟨path, ?_, by simp⟩
  exact List.mem_filter.2 ⟨hmem, by simpa using hnew⟩

/-- Enter a file and splice what it imports. `active` are the files
entered on the way here; an import of one of them, or of the file itself,
is a cycle. An import of a file that has no outline splices nothing.
No file is entered twice on one way, so a way ends when no file is ahead
of it. -/
def expandFile (outlines : List Outline) (active : List Path) (o : Outline) :
    Except ImportCycle Splice :=
  let way := active ++ [o.file]
  let load (path : Path) : Except ImportCycle (List Splice) :=
    match _found : outlineAt? outlines path with
    | none => .ok []
    | some imported =>
      -- Entering a file of the way again closes a cycle.
      if _again : path ∈ way then .error ⟨way ++ [path]⟩
      else do
        let tree ← expandFile outlines way imported
        return [tree]
  do
    let parts ← Splice.expandAll load o.forest
    return .file o.file parts
termination_by (filesAhead outlines (active ++ [o.file])).length
decreasing_by
  obtain ⟨hmem, hfile⟩ := file_of_outlineAt? _found
  rw [hfile]
  exact length_filesAhead_append_lt (hfile ▸ List.mem_map_of_mem hmem) _again

/-- The files that some declaration imports and that have an outline. -/
def splicedFiles (outlines : List Outline) : List Path :=
  (outlines.flatMap Outline.imports).filterMap fun i =>
    if (outlineAt? outlines i.path).isSome then some i.path else none

/-- Enter the files that no tree holds yet, in order. -/
def expandMissing (outlines : List Outline) (trees : List Splice) :
    List Outline → Except ImportCycle (List Splice)
  | [] => .ok trees
  | o :: rest =>
    if o.file ∈ Splice.filesAll trees then expandMissing outlines trees rest
    else do
      let tree ← expandFile outlines [] o
      expandMissing outlines (trees ++ [tree]) rest

/-- The whole forest of outlines in order of their paths. Files that
nobody imports stand at the top. Whatever they do not reach lies behind a
cycle, which entering it reports. -/
def spliceAll (outlines : List Outline) : Except ImportCycle (List Splice) := do
  let spliced := splicedFiles outlines
  let roots := outlines.filter fun o => o.file ∉ spliced
  let trees ← roots.mapM (expandFile outlines [])
  expandMissing outlines trees outlines

end DefIndex
