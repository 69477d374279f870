import DefIndex.Definition
import DefIndex.Pattern
import DefIndex.Suggestion
import Std.Data.TreeMap

/-!
# `DefIndex.Table`: the definitions of a workspace and their indexes

The table lists every definition by number and keeps two indexes beside
the list: from a full name to the numbers of the definitions that have
it, and from a key (context, name and file) to the first definition with
it. Self-references are in the list and under their key, and have no
entry under a full name.

* `Table.build` splices outlines in order of their paths, so the order
  they come in does not matter.
* `Table.lookup`, `Table.lookupAll`, `Table.byKey?` read the indexes;
  `Table.search` goes through the list.
-/

set_option autoImplicit false

namespace DefIndex

/-- What a definition is known by. -/
structure Key where
  context : Text
  name : Text
  file : Path
deriving DecidableEq, Repr

namespace Key

/-- The full name that a key stands for. -/
def fullName (k : Key) : Text := qualify k.context k.name

/-- Keys are ordered by context, then name, then file. -/
instance : Ord Key :=
  ⟨compareLex (compareOn context) (compareLex (compareOn name) (compareOn file))⟩

/-- The order of keys is a total preorder. -/
instance : Std.TransOrd Key :=
  inferInstanceAs (Std.TransCmp
    (compareLex (compareOn context) (compareLex (compareOn name) (compareOn file))))

/-- Keys that compare equal are equal. -/
instance : Std.LawfulEqOrd Key where
  compare_self := Std.ReflOrd.compare_self
  eq_of_compare := by
    intro k l h
    obtain ⟨hContext, hName, hFile⟩ : compare k.context l.context = .eq
        ∧ compare k.name l.name = .eq ∧ compare k.file l.file = .eq := by
      change compareLex _ (compareLex _ _) k l = .eq at h
      simpa only [compareLex_eq_eq, compareOn] using h
    cases k
    cases l
    rw [Key.mk.injEq]
    exact ⟨Std.LawfulEqOrd.eq_of_compare hContext, Std.LawfulEqOrd.eq_of_compare hName,
      Std.LawfulEqOrd.eq_of_compare hFile⟩

end Key

/-- The key of a definition. -/
def Definition.key (d : Definition) : Key := ⟨d.context, d.name, d.location.file⟩

/-- The definitions of a workspace. -/
structure Table where
  definitions : List Definition
  keys : Std.TreeMap Key Nat
  byFullName : Std.TreeMap Text (List Nat)
  /-- Every indexed file in order, also those that declare nothing. -/
  files : List Path

namespace Table

/-! ### Building -/

/-- The table without definitions. -/
def empty : Table := ⟨[], ∅, ∅, []⟩

/-- Enter a definition: first come, first served under its key, last in
line under its full name. -/
def push (t : Table) (d : Definition) : Table :=
  { t with
    definitions := t.definitions ++ [d]
    keys := t.keys.insertIfNew d.key d.id
    byFullName :=
      if d.isSelfReference then t.byFullName
      else t.byFullName.insert d.fullName (t.byFullName.getD d.fullName [] ++ [d.id]) }

/-- The distinct paths of outlines that stand in order. -/
def fileList (ordered : List Outline) : List Path :=
  dropRepeats (fun a b => a == b) (ordered.map Outline.file)

/-- Outlines in order of their paths. -/
def inOrder (outlines : List Outline) : List Outline :=
  sortBy (fun a b => Path.le a.file b.file) outlines

/-- Build the table of a workspace. -/
def build (outlines : List Outline) : Except ImportCycle Table := do
  let ordered := inOrder outlines
  let forest ← spliceAll ordered
  return (definitionsOf forest).foldl push { empty with files := fileList ordered }

/-! ### Asking -/

/-- The number of definitions. -/
def size (t : Table) : Nat := t.definitions.length

/-- The definition with a number. -/
def get? (t : Table) (id : Nat) : Option Definition := t.definitions[id]?

/-- The first definition under a key. -/
def byKey? (t : Table) (key : Key) : Option Definition := t.keys[key]?.bind t.get?

/-- The numbers under a full name. -/
def idsOf (t : Table) (fullName : Text) : List Nat := t.byFullName.getD fullName []

/-- The first definition with a full name. -/
def lookup (t : Table) (fullName : Text) : Option Definition :=
  (t.idsOf fullName).head?.bind t.get?

/-- Every definition with a full name, in order. -/
def lookupAll (t : Table) (fullName : Text) : List Definition :=
  (t.idsOf fullName).filterMap t.get?

/-- Whether a full name is defined. -/
def contains (t : Table) (fullName : Text) : Bool := t.byFullName.contains fullName

/-- Where a full name is first declared. -/
def locationOf? (t : Table) (fullName : Text) : Option Location :=
  (t.lookup fullName).map Definition.location

/-- The definitions directly below the first one with a full name. -/
def children (t : Table) (fullName : Text) : List Definition :=
  match t.lookup fullName with
  | some d => d.childEntries.filterMap t.get?
  | none => []

/-- The definitions at the top, self-references left out. -/
def roots (t : Table) : List Definition :=
  t.definitions.filter fun d => d.parent.isNone && !d.isSelfReference

/-- The definitions declared in a file, every instance. -/
def inFile (t : Table) (file : Path) : List Definition :=
  t.definitions.filter fun d => d.location.file = file

/-- Whether a file is indexed. -/
def containsFile (t : Table) (file : Path) : Bool := decide (file ∈ t.files)

/-- The defined full names in order. -/
def fullNames (t : Table) : List Text := t.byFullName.keys

/-- The definitions whose full name matches a pattern, in order of their
names; of several with one name the first. -/
def search (t : Table) (pattern : Text) : List Definition :=
  let found := t.definitions.filter fun d =>
    !d.isSelfReference && Pattern.holds pattern d.fullName
  (found.foldl (fun (seen : Std.TreeMap Text Definition) d =>
    seen.insertIfNew d.fullName d) ∅).values

/-- Defined full names close to a term. -/
def similarNames (t : Table) (term : Text) : List Suggestion :=
  Suggestion.findSimilar term t.fullNames Suggestion.defaultDistance Suggestion.defaultCount

end Table

end DefIndex
