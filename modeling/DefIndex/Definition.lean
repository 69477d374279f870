import DefIndex.Splice

/-!
# `DefIndex.Definition`: declarations with their full names

A definition is one instance of a declaration in the spliced forest. Its
number is its place in that forest read from top to bottom, its context
is the full name of the definition above it.

`Splice.layout` numbers a tree: a declaration takes the next number, the
definitions below it the numbers right after.
-/

set_option autoImplicit false

namespace DefIndex

/-- One instance of a declaration. -/
structure Definition where
  id : Nat
  name : Text
  /-- The full name of the definition above, empty at the top. -/
  context : Text
  fullName : Text
  kind : Kind
  /-- Where the name stands; the file is the declaring one. -/
  location : Location
  /-- The names of the definitions directly below. -/
  children : List Text
  /-- The numbers of the definitions directly below. -/
  childEntries : List Nat
  /-- The files imported directly inside. -/
  imports : List Path
  /-- The number of the definition above. -/
  parent : Option Nat
  /-- The definition that an inherit statement names. -/
  target : Option Text
deriving DecidableEq, Repr

namespace Definition

/-- Whether nothing stands above. -/
def isTopLevel (d : Definition) : Bool := d.context.isEmpty

/-- An inherit statement whose full name is its own target. It names
nothing new, and no reference resolves to it. -/
def isSelfReference (d : Definition) : Bool :=
  d.kind == .inherit && d.target == some d.fullName

end Definition

namespace Splice

/-- The definition that an instance of a declaration is. -/
def instantiate (path : Path) (parent : Option Nat) (context : Text) (id : Nat)
    (d : Declaration) (parts : List Splice) : Definition :=
  { id := id
    name := d.name
    context := context
    fullName := qualify context d.name
    kind := d.kind
    location := ⟨path, d.line, d.column, d.line, d.endColumn⟩
    children := (topsAll parts).map Declaration.name
    childEntries := topIdsAll (id + 1) parts
    imports := d.imports.map Import.path
    parent := parent
    target := d.target }

mutual

/-- The definitions of a tree that stands in the file `path` under
`parent`, numbered from `next` on. -/
def layout (path : Path) (parent : Option Nat) (context : Text) (next : Nat) :
    Splice → List Definition
  | file path parts => layoutAll path parent context next parts
  | declaration d parts =>
    instantiate path parent context next d parts
      :: layoutAll path (some next) (qualify context d.name) (next + 1) parts

/-- The definitions of a forest, tree by tree. -/
def layoutAll (path : Path) (parent : Option Nat) (context : Text) (next : Nat) :
    List Splice → List Definition
  | [] => []
  | tree :: trees =>
    layout path parent context next tree
      ++ layoutAll path parent context (next + size tree) trees

end

end Splice

/-- The definitions of a whole forest of files. -/
def definitionsOf (forest : List Splice) : List Definition :=
  Splice.layoutAll .empty none [] 0 forest

end DefIndex
