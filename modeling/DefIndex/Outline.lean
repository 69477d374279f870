import DefIndex.Diagnostic
import DefIndex.Event
import DefIndex.Scope
import DefIndex.Statement

/-!
# `DefIndex.Outline`: the declarations of one file

Reading a file never fails. Its clean lines are cut into events, and the
events are taken one after the other: braces move the scope, and a
statement that starts outside parentheses may declare or import.

The outline lists the declarations in source order. A declaration knows
the declaration whose block it stands in by its index, and its context,
the dotted names of the blocks around it. An import belongs to the
declaration whose block it stands in; outside every block it is
reported and set aside.

* `Draft` is an outline in the making; `Draft.step` takes one event.
* `Outline.read` reads a file.
-/

set_option autoImplicit false

namespace DefIndex

/-- An import, resolved to a path. -/
structure Import where
  path : Path
  /-- Where the path token stands. -/
  location : Location
deriving DecidableEq, Repr

/-- A declaration of one file. -/
structure Declaration where
  name : Text
  kind : Kind
  /-- The line and column of the name. -/
  line : Nat
  column : Nat
  /-- The dotted names of the enclosing declarations. -/
  context : Text
  /-- The index of the enclosing declaration. -/
  parent : Option Nat
  /-- The indices of the declarations directly inside, in order. -/
  children : List Nat
  /-- The files imported directly inside, each once. -/
  imports : List Import
  /-- The definition that an inherit statement names. -/
  target : Option Text
  /-- The number of characters of the context, by which long contexts are
  told apart without a look at them. -/
  contextSize : Nat := context.length
  contextSize_eq : contextSize = context.length := by rfl
deriving DecidableEq, Repr

/-- The first column past the name. -/
def Declaration.endColumn (d : Declaration) : Nat := d.column + d.name.length

/-- What reading a file gives. -/
structure Outline where
  file : Path
  /-- The declarations in source order. -/
  declarations : List Declaration
  /-- Imports outside every declaration. -/
  unattached : List Import
  warnings : List Diagnostic
  lines : List CleanLine
  /-- The declarations whose blocks are still open at the end, outermost
  first. -/
  openScopes : List Nat
  /-- The declaration that still waits for its block at the end. -/
  pending : Option Nat
deriving DecidableEq, Repr

/-! ### Import paths -/

/-- The extension of a path that names none. -/
def sourceExtension : Text := "mql"

/-- The file that an import names, seen from the importing file.
Backslashes separate like slashes, and a name without an extension gets
the one of source files. -/
def importPath (importer : Path) (raw : Text) : Path :=
  let named := Path.parse (raw.map fun c => if c = '\\' then '/' else c)
  let joined := (importer.parent?.getD .empty).join named
  (if joined.extension?.isNone then joined.withExtension sourceExtension
    else joined).normalize

/-! ### Taking events -/

/-- An outline in the making. -/
structure Draft where
  file : Path
  declarations : List Declaration
  unattached : List Import
  warnings : List Diagnostic
  scope : Scope
deriving DecidableEq, Repr

namespace Draft

/-- Nothing read yet. -/
def start (file : Path) : Draft := ⟨file, [], [], [], .empty⟩

/-- Report a problem of `length` characters. -/
def warn (d : Draft) (problem : Problem) (line column length : Nat) : Draft :=
  { d with warnings := d.warnings ++ [problem.reportAt (.span d.file line column length)] }

/-- The first declaration of a name under a context. -/
def firstNamed? (d : Draft) (context name : Text) : Option Declaration :=
  let size := context.length
  d.declarations.find? fun e =>
    e.contextSize == size && decide (e.name = name) && decide (e.context = context)

/-- Declarations of other contexts and names are passed over. -/
theorem firstNamed?_eq_find? (d : Draft) (context name : Text) :
    d.firstNamed? context name
      = d.declarations.find? fun e => decide (e.context = context ∧ e.name = name) := by
  refine congrArg (List.find? · d.declarations) (funext fun e => ?_)
  by_cases h : e.context = context
  · simp [h, e.contextSize_eq]
  · simp [h]

/-- Report a name that its context has already. -/
def warnDuplicate (d : Draft) (line column : Nat) (name : Text) : Draft :=
  match d.firstNamed? d.scope.context name with
  | some first =>
    d.warn (.duplicate (qualify d.scope.context name) first.line) line column name.length
  | none => d

/-- Add a child to the declaration at an index. -/
def addChild (declarations : List Declaration) (child : Nat) : Option Nat → List Declaration
  | some parent =>
    declarations.modify parent fun e => { e with children := e.children ++ [child] }
  | none => declarations

/-- Declare a name in the current block. -/
def declare (d : Draft) (kind : Kind) (line column : Nat) (name : Text)
    (target : Option Text) : Draft :=
  let d := d.warnDuplicate line column name
  let parent := d.scope.current
  { d with
    declarations :=
      addChild d.declarations d.declarations.length parent
        ++ [{ name := name, kind := kind, line := line, column := column
              context := d.scope.context, parent := parent, children := [], imports := []
              target := target }] }

/-- Give an import to the declaration whose block it stands in, unless
that has the path already; report one that stands in no such block. -/
def attach (d : Draft) (found : Import) : Draft :=
  match d.scope.current with
  | some owner =>
    { d with
      declarations := d.declarations.modify owner fun e =>
        if e.imports.any fun i => i.path = found.path then e
        else { e with imports := e.imports ++ [found] } }
  | none =>
    { d with
      warnings := d.warnings ++ [Problem.strayImport.reportAt found.location]
      unattached := d.unattached ++ [found] }

/-- Take a statement that starts outside parentheses. -/
def takeStatement (d : Draft) (line column : Nat) (text : Text) : Draft :=
  match Statement.read text with
  | .imports token =>
    d.attach
      ⟨importPath d.file (Statement.pathText token.text),
        .span d.file line (column + token.offset) token.text.length⟩
  | .inherits found =>
    let d :=
      match found with
      | some (name, target) =>
        d.declare .inherit line (column + name.offset) name.text (some target)
      | none => d
    -- An inherit statement owns no block, and nobody else may own the next.
    { d with scope := d.scope.dismiss }
  | .declares kind name =>
    -- The declaration takes the next index and waits for a block.
    let key := d.declarations.length
    let d := d.declare kind line (column + name.offset) name.text none
    { d with scope := d.scope.await ⟨name.text, key⟩ }
  | .other => d

/-- Take one event of a line. -/
def step (d : Draft) : Nat × Event → Draft
  | (_, .opening _) => { d with scope := d.scope.enter }
  | (line, .closing column) =>
    let (closed, scope) := d.scope.leave
    let d := { d with scope := scope }
    if closed.isNone then d.warn .strayBrace line column 1 else d
  | (line, .statement text column depth terminated) =>
    let d := if depth = 0 then d.takeStatement line column text else d
    if terminated then { d with scope := d.scope.dismiss } else d

/-- The outline of what has been read. -/
def finish (d : Draft) (lines : List CleanLine) : Outline :=
  { file := d.file
    declarations := d.declarations
    unattached := d.unattached
    warnings := d.warnings
    lines := lines
    openScopes := d.scope.openKeys
    pending := d.scope.pending.map Owner.key }

end Draft

namespace Outline

/-- Read the source text of a file. -/
def read (file : Path) (source : Text) : Outline :=
  let lines := Comment.cleanLines source
  ((Event.ofLines 0 lines).foldl Draft.step (.start file.normalize)).finish lines

/-- The indices of the declarations outside every block. -/
def topLevel (o : Outline) : List Nat :=
  (List.range o.declarations.length).filter fun ix =>
    match o.declarations[ix]? with
    | some d => d.parent.isNone
    | none => false

/-- The imports that belong to declarations, declaration by declaration. -/
def imports (o : Outline) : List Import := o.declarations.flatMap Declaration.imports

end Outline

end DefIndex
