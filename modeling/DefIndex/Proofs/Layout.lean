import DefIndex.Proofs.Unfolding
import DefIndex.Table

/-!
# `DefIndex.Proofs.Layout`: numbering the definitions of a forest

Laying out a forest gives one definition for each declaration in it. What
a definition says of its declaration (name, kind, target and place) does
not depend on where the declaration stands; its number does, and is its
place in the list.

* `Splice.entriesAll`: the declarations of a forest, each with the file
  that it is declared in.
* `Splice.map_origin_layoutAll`: the definitions are those of the entries.
* `Splice.map_id_layoutAll`: the numbers go up one by one.
* `getElem?_definitionsOf`: a definition stands at its number.
* `Table.definitions_foldl_push`: a table lists what is entered.
-/

set_option autoImplicit false

namespace DefIndex

/-! ### What an instance keeps -/

/-- What a definition says of its declaration: name, kind, target and
place. -/
def Definition.origin (e : Definition) : Text × Kind × Option Text × Location :=
  (e.name, e.kind, e.target, e.location)

/-- What an instance of a declaration in a file says of it. -/
def Declaration.originIn (d : Declaration) (file : Path) :
    Text × Kind × Option Text × Location :=
  (d.name, d.kind, d.target, ⟨file, d.line, d.column, d.line, d.endColumn⟩)

/-- The definition is an instance of a declaration of a file: it has the
name, the kind, the target and the place of the declaration. -/
def Definition.InstanceOf (e : Definition) (file : Path) (d : Declaration) : Prop :=
  e.origin = d.originIn file

instance (e : Definition) (file : Path) (d : Declaration) : Decidable (e.InstanceOf file d) :=
  inferInstanceAs (Decidable (e.origin = d.originIn file))

/-- The file of an instance is the file of the declaration. -/
theorem Definition.InstanceOf.file_eq {e : Definition} {file : Path} {d : Declaration}
    (h : e.InstanceOf file d) : e.location.file = file :=
  congrArg (fun origin => origin.2.2.2.file) h

namespace Splice

/-- Laying out a declaration gives an instance of it. -/
theorem instanceOf_instantiate (path : Path) (parent : Option Nat) (context : Text) (id : Nat)
    (d : Declaration) (parts : List Splice) :
    (instantiate path parent context id d parts).InstanceOf path d :=
  rfl

mutual

/-- The declarations of a tree that stands in the file `path`, each with
its own file. -/
def entries (path : Path) : Splice → List (Path × Declaration)
  | file path parts => entriesAll path parts
  | declaration d parts => (path, d) :: entriesAll path parts

/-- The declarations of a forest, each with its own file. -/
def entriesAll (path : Path) : List Splice → List (Path × Declaration)
  | [] => []
  | tree :: trees => entries path tree ++ entriesAll path trees

end

mutual

/-- The definitions of a tree are those of its entries. -/
theorem map_origin_layout (path : Path) (parent : Option Nat) (context : Text) (next : Nat) :
    (tree : Splice) → (layout path parent context next tree).map Definition.origin
      = (entries path tree).map fun entry => entry.2.originIn entry.1
  | file path parts => by
      rw [layout, entries, map_origin_layoutAll path parent context next parts]
  | declaration d parts => by
      rw [layout, entries, List.map_cons, List.map_cons,
        map_origin_layoutAll path (some next) (qualify context d.name) (next + 1) parts]
      rfl

/-- The definitions of a forest are those of its entries. -/
theorem map_origin_layoutAll (path : Path) (parent : Option Nat) (context : Text) (next : Nat) :
    (trees : List Splice) → (layoutAll path parent context next trees).map Definition.origin
      = (entriesAll path trees).map fun entry => entry.2.originIn entry.1
  | [] => rfl
  | tree :: trees => by
      rw [layoutAll, entriesAll, List.map_append, List.map_append,
        map_origin_layout path parent context next tree,
        map_origin_layoutAll path parent context (next + size tree) trees]

end

mutual

/-- The definitions of a tree are numbered one by one. -/
theorem map_id_layout (path : Path) (parent : Option Nat) (context : Text) (next : Nat) :
    (tree : Splice) → (layout path parent context next tree).map Definition.id
      = List.range' next (size tree)
  | file path parts => by
      rw [layout, size, map_id_layoutAll path parent context next parts]
  | declaration d parts => by
      rw [layout, size, List.map_cons, List.range'_succ,
        map_id_layoutAll path (some next) (qualify context d.name) (next + 1) parts]
      rfl

/-- The definitions of a forest are numbered one by one. -/
theorem map_id_layoutAll (path : Path) (parent : Option Nat) (context : Text) (next : Nat) :
    (trees : List Splice) → (layoutAll path parent context next trees).map Definition.id
      = List.range' next (sizeAll trees)
  | [] => rfl
  | tree :: trees => by
      rw [layoutAll, sizeAll, List.map_append, map_id_layout path parent context next tree,
        map_id_layoutAll path parent context (next + size tree) trees, List.range'_append_1]

end

/-- Two forests, one behind the other, are laid out one behind the other. -/
theorem layoutAll_append (path : Path) (parent : Option Nat) (context : Text) (next : Nat)
    (some more : List Splice) :
    layoutAll path parent context next (some ++ more)
      = layoutAll path parent context next some
        ++ layoutAll path parent context (next + sizeAll some) more := by
  induction some generalizing next with
  | nil => rfl
  | cons tree trees ih =>
      rw [List.cons_append, layoutAll, layoutAll, sizeAll, ih, List.append_assoc, Nat.add_assoc]

/-- The entries of two forests, one behind the other. -/
theorem entriesAll_append (path : Path) (some more : List Splice) :
    entriesAll path (some ++ more) = entriesAll path some ++ entriesAll path more := by
  induction some with
  | nil => rfl
  | cons tree trees ih => rw [List.cons_append, entriesAll, entriesAll, ih, List.append_assoc]

end Splice

/-- A definition stands at its number. -/
theorem getElem?_definitionsOf {forest : List Splice} {e : Definition}
    (he : e ∈ definitionsOf forest) : (definitionsOf forest)[e.id]? = some e := by
  -- The number of the definition at place `k` is `k`.
  obtain ⟨k, hk, rfl⟩ := List.mem_iff_getElem.1 he
  have hids := Splice.map_id_layoutAll .empty none [] 0 forest
  have hid : ((definitionsOf forest).map Definition.id)[k]? = some (0 + 1 * k) := by
    rw [definitionsOf, hids]
    refine List.getElem?_range' ?_
    have hlength := congrArg List.length hids
    rw [List.length_map, List.length_range'] at hlength
    rwa [← hlength]
  rw [List.getElem?_map, List.getElem?_eq_getElem hk, Option.map_some, Option.some.injEq] at hid
  rw [hid, Nat.zero_add, Nat.one_mul, List.getElem?_eq_getElem hk]

/-- A table lists what is entered. -/
theorem Table.definitions_foldl_push (t : Table) (ds : List Definition) :
    (ds.foldl Table.push t).definitions = t.definitions ++ ds := by
  induction ds generalizing t with
  | nil => rw [List.foldl_nil, List.append_nil]
  | cons d ds ih => rw [List.foldl_cons, ih, Table.push, List.append_assoc, List.singleton_append]

end DefIndex
