import DefIndex.Proofs.Dotted
import DefIndex.Proofs.DraftStep
import DefIndex.Proofs.Instances
import DefIndex.Proofs.Sketch

/-!
# `DefIndex.Proofs.RoundTrip`: what was written is what is read

A forest of sketches says which declarations there are and how they are
nested. Reading its text gives these declarations back, in the order of
the text, and so does the table of the file alone.

* `Row` is what a declaration and a definition have in common;
  `Sketch.rowsAll` are the rows that a forest stands for.
* `Draft.Ready` is the state between two lines of a forest;
  `Draft.step_text` and `Draft.step_closing` are what a line does to it.
* `Draft.Ready.forest`: the lines of a forest add its rows and leave the
  scope as it was. The induction follows the nesting of the sketches.
* `Lists.map_row_layoutAll`: laying out the forest of a file gives the
  declarations of the file.
* `Table.build_singleton`: a file that imports nothing is its own table.
-/

set_option autoImplicit false

namespace DefIndex

/-! ### Rows -/

/-- A declaration or definition without its place in the text. -/
structure Row where
  kind : Kind
  name : Text
  context : Text
  fullName : Text
  /-- The number of the row around this one. -/
  parent : Option Nat
  /-- The numbers of the rows directly inside. -/
  children : List Nat
deriving DecidableEq, Repr

/-- The row of a declaration. -/
def Declaration.row (d : Declaration) : Row :=
  ⟨d.kind, d.name, d.context, qualify d.context d.name, d.parent, d.children⟩

/-- The row of a definition. -/
def Definition.row (e : Definition) : Row :=
  ⟨e.kind, e.name, e.context, e.fullName, e.parent, e.childEntries⟩

/-- The row of a heading under the names of the blocks around it. -/
def Heading.row (h : Heading) (above : List Text) (parent : Option Nat) (children : List Nat) :
    Row :=
  ⟨h.kind, h.name.text, Dotted.path above, Dotted.path (above ++ [h.name.text]), parent, children⟩

namespace Sketch

mutual

/-- The number of declarations in a sketch. -/
def size : Sketch → Nat
  | leaf _ _ => 1
  | hollow _ _ _ => 1
  | block _ _ children _ _ => sizeAll children + 1

/-- The number of declarations in a forest. -/
def sizeAll : List Sketch → Nat
  | [] => 0
  | sketch :: rest => size sketch + sizeAll rest

end

/-- The numbers of the outermost declarations of a forest whose
declarations are numbered from `next` on. -/
def idsAll (next : Nat) : List Sketch → List Nat
  | [] => []
  | sketch :: rest => next :: idsAll (next + size sketch) rest

mutual

/-- The rows of a sketch that stands under the names `above`, numbered from
`next` on. -/
def rows (above : List Text) (parent : Option Nat) (next : Nat) : Sketch → List Row
  | leaf heading _ => [heading.row above parent []]
  | hollow heading _ _ => [heading.row above parent []]
  | block heading _ children _ _ =>
    heading.row above parent (idsAll (next + 1) children)
      :: rowsAll (above ++ [heading.name.text]) (some next) (next + 1) children

/-- The rows of a forest. -/
def rowsAll (above : List Text) (parent : Option Nat) (next : Nat) : List Sketch → List Row
  | [] => []
  | sketch :: rest =>
    rows above parent next sketch ++ rowsAll above parent (next + size sketch) rest

end

mutual

/-- A sketch has as many rows as declarations. -/
theorem length_rows (above : List Text) (parent : Option Nat) (next : Nat) :
    (sketch : Sketch) → (rows above parent next sketch).length = size sketch
  | leaf _ _ => rfl
  | hollow _ _ _ => rfl
  | block heading _ children _ _ => by
      rw [rows, size, List.length_cons,
        length_rowsAll (above ++ [heading.name.text]) (some next) (next + 1) children]

/-- A forest has as many rows as declarations. -/
theorem length_rowsAll (above : List Text) (parent : Option Nat) (next : Nat) :
    (forest : List Sketch) → (rowsAll above parent next forest).length = sizeAll forest
  | [] => rfl
  | sketch :: rest => by
      rw [rowsAll, sizeAll, List.length_append, length_rows above parent next sketch,
        length_rowsAll above parent (next + size sketch) rest]

end

end Sketch

/-- Rows with more children at one of them. -/
def addChildren (ids : List Nat) (rs : List Row) : Option Nat → List Row
  | some p => rs.modify p fun r => { r with children := r.children ++ ids }
  | none => rs

/-- Children are added to a row in front of others. -/
theorem addChildren_append (ids : List Nat) {rs : List Row} {parent : Option Nat}
    (h : ∀ p, parent = some p → p < rs.length) (more : List Row) :
    addChildren ids (rs ++ more) parent = addChildren ids rs parent ++ more := by
  cases parent with
  | none => rfl
  | some p =>
      have hp := h p rfl
      rw [addChildren, addChildren, List.modify_eq_take_drop, List.modify_eq_take_drop,
        List.take_append_of_le_length (Nat.le_of_lt hp), List.append_assoc,
        List.drop_append_of_le_length (Nat.le_of_lt hp)]
      cases hdrop : rs.drop p with
      | nil => exact absurd (List.drop_eq_nil_iff.1 hdrop) (Nat.not_le_of_lt hp)
      | cons r rest => rfl

/-- Children are added to the last row. -/
theorem addChildren_concat (ids : List Nat) (rs : List Row) (r : Row) :
    addChildren ids (rs ++ [r]) (some rs.length)
      = rs ++ [{ r with children := r.children ++ ids }] := by
  rw [addChildren, List.modify_eq_take_drop, List.take_left, List.drop_left]
  rfl

/-- Children are added in turn. -/
theorem addChildren_addChildren (ids more : List Nat) (rs : List Row) (parent : Option Nat) :
    addChildren more (addChildren ids rs parent) parent = addChildren (ids ++ more) rs parent := by
  cases parent with
  | none => rfl
  | some p =>
      rw [addChildren, addChildren, addChildren, List.modify_modify_eq]
      simp [Function.comp_def]

/-- Adding no children changes nothing. -/
theorem addChildren_nil (rs : List Row) (parent : Option Nat) : addChildren [] rs parent = rs := by
  cases parent with
  | none => rfl
  | some p =>
      simp only [addChildren, List.append_nil]
      exact List.modify_id p rs

/-- Adding children adds no rows. -/
theorem length_addChildren (ids : List Nat) (rs : List Row) (parent : Option Nat) :
    (addChildren ids rs parent).length = rs.length := by
  cases parent with
  | none => rfl
  | some p => simp [addChildren]

/-! ### Taking a heading -/

/-- The names of the open blocks, outermost first. -/
def Scope.names (s : Scope) : List Text := (s.owners.map Owner.name).reverse

/-- The scope inside the block of a declaration. -/
def Scope.inside (s : Scope) (owner : Owner) : Scope := ⟨some owner :: s.frames, none⟩

/-- Inside its block a declaration is the current one. -/
theorem Scope.current_inside (s : Scope) (owner : Owner) :
    (s.inside owner).current = some owner.key := rfl

/-- Inside its block a declaration is the last of the names. -/
theorem Scope.names_inside (s : Scope) (owner : Owner) :
    (s.inside owner).names = s.names ++ [owner.name] := by
  simp [Scope.inside, Scope.names, Scope.owners]

namespace Draft

/-- The rows of the declarations read so far. -/
def rows (d : Draft) : List Row := d.declarations.map Declaration.row

/-- Nobody waits for a block, the open blocks belong to declarations with
names, nothing is imported, and no warning but those about repeated names
has come up. -/
structure Ready (d : Draft) : Prop where
  idle : d.scope.pending = none
  current : ∀ p, d.scope.current = some p → p < d.declarations.length
  named : ∀ t ∈ d.scope.names, t ≠ []
  unattached : d.unattached = []
  importless : ∀ e ∈ d.declarations, e.imports = []
  warnings : ∀ w ∈ d.warnings, ∃ fullName line location,
    w = (Problem.duplicate fullName line).reportAt location

/-- A child of a declaration is a child of its row. -/
theorem map_row_addChild (ds : List Declaration) (child : Nat) (parent : Option Nat) :
    (addChild ds child parent).map Declaration.row
      = addChildren [child] (ds.map Declaration.row) parent := by
  cases parent with
  | none => rfl
  | some p =>
      refine List.ext_getElem? fun i => ?_
      simp only [addChild, addChildren, List.getElem?_map, List.getElem?_modify]
      cases ds[i]? with
      | none => rfl
      | some d =>
          simp only [Option.map_some]
          split <;> rfl

/-- Declaring a name adds a row. -/
theorem rows_declare {d : Draft} (hnamed : ∀ t ∈ d.scope.names, t ≠ []) (h : Heading)
    (line column : Nat) (target : Option Text) :
    (d.declare h.kind line column h.name.text target).rows
      = addChildren [d.declarations.length] d.rows d.scope.current
        ++ [h.row d.scope.names d.scope.current []] := by
  rw [rows, (declare_fields d h.kind line column h.name.text target).1, grow, List.map_append,
    map_row_addChild, rows]
  refine congrArg _ (congrArg (fun row => [row]) ?_)
  rw [Heading.row, Dotted.path_concat hnamed]
  rfl

/-- A heading declares its name. In front of a semicolon that is all, in
front of a brace the declaration waits. -/
theorem step_text (d : Draft) (h : Heading) (line : Nat) (terminated : Bool) :
    ∃ column, d.step (line, .statement h.text 1 0 terminated)
      = { d.declare h.kind line column h.name.text none with
          scope := if terminated then d.scope.dismiss
            else d.scope.await ⟨h.name.text, d.declarations.length⟩ } := by
  obtain ⟨offset, hread⟩ := h.read_text
  have hscope := (declare_fields d h.kind line (1 + offset) h.name.text none).2
  refine ⟨1 + offset, ?_⟩
  simp only [step, if_true, takeStatement, hread, hscope]
  cases terminated <;> rfl

/-- A draft that is ready has a new declaration after a heading, and only
the scope may not be at rest. -/
theorem Ready.declare {d : Draft} (hd : d.Ready) (h : Heading) (line column : Nat) {scope : Scope}
    (hidle : scope.pending = none)
    (hcurrent : ∀ p, scope.current = some p → p < d.declarations.length + 1)
    (hnamed : ∀ t ∈ scope.names, t ≠ []) :
    Ready { d.declare h.kind line column h.name.text none with scope := scope } := by
  obtain ⟨hunattached, hwarnings⟩ := warnings_declare d h.kind line column h.name.text none
  have hds := (declare_fields d h.kind line column h.name.text none).1
  refine ⟨hidle, ?_, hnamed, hunattached.trans hd.unattached, ?_, fun w hw => ?_⟩
  · intro p hp
    show p < (d.declare h.kind line column h.name.text none).declarations.length
    rw [hds, length_grow]
    exact hcurrent p hp
  · intro e he
    replace he : e ∈ (d.declare h.kind line column h.name.text none).declarations := he
    rw [hds] at he
    rcases mem_grow he with rfl | ⟨old, hold, -, -, himports⟩
    · rfl
    · exact himports.trans (hd.importless old hold)
  · exact (hwarnings w hw).elim (hd.warnings w) id

/-! ### Taking a forest -/

/-- Reading has added rows under the current block and left the scope as
it was. -/
structure Adds (d d' : Draft) (ids : List Nat) (rs : List Row) : Prop where
  ready : d'.Ready
  scope : d'.scope = d.scope
  rows : d'.rows = addChildren ids d.rows d.scope.current ++ rs

/-- The number of declarations after rows have been added. -/
theorem length_of_rows {d d' : Draft} {ids : List Nat} {rs : List Row} {parent : Option Nat}
    (h : d'.rows = addChildren ids d.rows parent ++ rs) :
    d'.declarations.length = d.declarations.length + rs.length := by
  have hlength := congrArg List.length h
  rwa [List.length_append, length_addChildren, Draft.rows, Draft.rows, List.length_map,
    List.length_map] at hlength

/-- Nothing to read adds nothing. -/
theorem Ready.adds_nil {d : Draft} (hd : d.Ready) : d.Adds d [] [] :=
  ⟨hd, rfl, by rw [addChildren_nil, List.append_nil]⟩

/-- What is read in turn adds up. -/
theorem Adds.trans {d d' d'' : Draft} {ids ids' : List Nat} {rs rs' : List Row} (hd : d.Ready)
    (h : d.Adds d' ids rs) (h' : d'.Adds d'' ids' rs') : d.Adds d'' (ids ++ ids') (rs ++ rs') := by
  refine ⟨h'.ready, h'.scope.trans h.scope, ?_⟩
  -- The block that gets the children is older than the rows between.
  have hbound : ∀ p, d.scope.current = some p →
      p < (addChildren ids d.rows d.scope.current).length := by
    intro p hp
    rw [length_addChildren, Draft.rows, List.length_map]
    exact hd.current p hp
  rw [h'.rows, h.rows, h.scope, addChildren_append ids' hbound, addChildren_addChildren,
    List.append_assoc]

/-- A heading in front of a semicolon adds its row. -/
theorem Ready.leaf {d : Draft} (hd : d.Ready) (h : Heading) (line : Nat) :
    d.Adds (d.step (line, .statement h.text 1 0 true)) [d.declarations.length]
      [h.row d.scope.names d.scope.current []] := by
  obtain ⟨column, hstep⟩ := step_text d h line true
  have hscope : d.scope.dismiss = d.scope := by
    rw [Scope.dismiss, ← hd.idle]
  rw [hstep, if_pos rfl, hscope]
  refine ⟨hd.declare h line column hd.idle (fun p hp => ?_) hd.named, rfl, ?_⟩
  · exact Nat.lt_succ_of_lt (hd.current p hp)
  · exact rows_declare hd.named h line column none

/-- A heading and the brace behind it have opened a block. -/
structure Opens (d d' : Draft) (h : Heading) : Prop where
  ready : d'.Ready
  scope : d'.scope = d.scope.inside ⟨h.name.text, d.declarations.length⟩
  rows : d'.rows = addChildren [d.declarations.length] d.rows d.scope.current
    ++ [h.row d.scope.names d.scope.current []]

/-- A heading and the brace behind it add its row and open its block. -/
theorem Ready.opening {d : Draft} (hd : d.Ready) (h : Heading) (line column : Nat) :
    d.Opens ((d.step (line, .statement h.text 1 0 false)).step (line, .opening column)) h := by
  obtain ⟨start, hstep⟩ := step_text d h line false
  have hopened : (d.step (line, .statement h.text 1 0 false)).step (line, .opening column)
      = { d.declare h.kind line start h.name.text none with
          scope := d.scope.inside ⟨h.name.text, d.declarations.length⟩ } := by
    rw [hstep]
    rfl
  rw [hopened]
  refine ⟨hd.declare h line start rfl (fun p hp => ?_) ?_, rfl, ?_⟩
  · rw [Scope.current_inside] at hp
    exact Option.some.inj hp ▸ Nat.lt_succ_self _
  · rw [Scope.names_inside]
    intro t ht
    rcases List.mem_append.1 ht with ht | ht
    · exact hd.named t ht
    · exact List.mem_singleton.1 ht ▸ h.name.nonempty
  · exact rows_declare hd.named h line start none

/-- A closing brace leaves the block that was opened last. -/
theorem step_closing {d : Draft} {s : Scope} {owner : Owner} (h : d.scope = s.inside owner)
    (line column : Nat) :
    d.step (line, .closing column) = { d with scope := ⟨s.frames, none⟩ } := by
  simp [step, Scope.leave, h, Scope.inside]

/-- A block with all that is in it adds its rows. -/
theorem Opens.closing {d d' d'' : Draft} {h : Heading} (hopens : d.Opens d' h) (hd : d.Ready)
    {ids : List Nat} {rs : List Row} (hinside : d'.Adds d'' ids rs) (line column : Nat) :
    d.Adds (d''.step (line, .closing column)) [d.declarations.length]
      (h.row d.scope.names d.scope.current ids :: rs) := by
  have hlength : (addChildren [d.declarations.length] d.rows d.scope.current).length
      = d.declarations.length := by
    rw [length_addChildren, Draft.rows, List.length_map]
  have hrest : (⟨d.scope.frames, none⟩ : Scope) = d.scope := by rw [← hd.idle]
  have hready := hinside.ready
  rw [step_closing (hinside.scope.trans hopens.scope), hrest]
  have hrows : d''.rows = addChildren [d.declarations.length] d.rows d.scope.current
      ++ (h.row d.scope.names d.scope.current ids :: rs) := by
    -- The children of the block belong to the row that was added last.
    have hconcat := addChildren_concat ids
      (addChildren [d.declarations.length] d.rows d.scope.current)
      (h.row d.scope.names d.scope.current [])
    rw [hlength] at hconcat
    rw [hinside.rows, hopens.scope, Scope.current_inside, hopens.rows, hconcat, List.append_assoc]
    rfl
  refine ⟨⟨hd.idle, fun p hp => ?_, hd.named, hready.unattached, hready.importless,
    hready.warnings⟩, rfl, hrows⟩
  show p < d''.declarations.length
  rw [length_of_rows hrows]
  exact Nat.lt_of_lt_of_le (hd.current p hp) (Nat.le_add_right _ _)

mutual

/-- The lines of a sketch add its rows. -/
theorem Ready.sketch {d : Draft} (hd : d.Ready) (line : Nat) :
    (sketch : Sketch) →
      d.Adds ((Line.eventsFrom line (sketch.lines.map Prod.fst)).foldl step d)
        [d.declarations.length]
        (sketch.rows d.scope.names d.scope.current d.declarations.length)
  | .leaf heading _ => hd.leaf heading line
  | .hollow heading inside _ => by
      have hopens := hd.opening heading line (1 + heading.text.length)
      exact hopens.closing hd hopens.ready.adds_nil line
        (1 + heading.text.length + 1 + inside.text.length)
  | .block heading _ children indent _ => by
      have hopens := hd.opening heading line (1 + heading.text.length)
      have hinside := Ready.forest hopens.ready (line + 1) children
      rw [length_of_rows hopens.rows, hopens.scope, Scope.names_inside,
        Scope.current_inside] at hinside
      simp only [Sketch.lines, List.map_cons, List.map_append, List.map_nil, Line.eventsFrom,
        Line.eventsFrom_append, Line.events, List.foldl_append, List.foldl_cons, List.foldl_nil]
      exact hopens.closing hd hinside _ (1 + indent.text.length)

/-- The lines of a forest add its rows and leave the scope as it was. -/
theorem Ready.forest {d : Draft} (hd : d.Ready) (line : Nat) :
    (forest : List Sketch) →
      d.Adds ((Line.eventsFrom line ((Sketch.linesAll forest).map Prod.fst)).foldl step d)
        (Sketch.idsAll d.declarations.length forest)
        (Sketch.rowsAll d.scope.names d.scope.current d.declarations.length forest)
  | [] => hd.adds_nil
  | sketch :: rest => by
      have hfirst := Ready.sketch hd line sketch
      have hrest := Ready.forest hfirst.ready (line + (sketch.lines.map Prod.fst).length) rest
      rw [length_of_rows hfirst.rows, Sketch.length_rows, hfirst.scope] at hrest
      -- The two runs of `step` are one run over both lists of events.
      have htotal := hfirst.trans hd hrest
      rw [← List.foldl_append, ← Line.eventsFrom_append, ← List.map_append] at htotal
      exact htotal

end

/-- Before the first line everything is at rest. -/
theorem ready_start (file : Path) : (start file).Ready where
  idle := rfl
  current p hp := by cases hp
  named t ht := by cases ht
  unattached := rfl
  importless e he := by cases he
  warnings w hw := by cases hw

end Draft

/-! ### The table of one file -/

/-- Where nothing is imported nothing is spliced. -/
theorem Lists.graftAll_eq_self {ds : List Declaration} {first last : Nat} {parent : Option Nat}
    {trees : List Splice} (h : Lists ds first last parent trees)
    (hnone : ∀ d ∈ Splice.preorderAll trees, d.imports = []) (load : Path → List Splice) :
    Splice.graftAll load trees = trees := by
  induction h with
  | nil => rfl
  | @cons _ _ _ _ d parts trees _ _ _ _ _ ihInside ihBehind =>
      simp only [Splice.preorderAll, Splice.preorder, List.cons_append, List.forall_mem_cons,
        List.mem_append] at hnone
      obtain ⟨hown, hrest⟩ := hnone
      rw [Splice.graftAll, Splice.graft, ihInside fun e he => hrest e (Or.inl he),
        ihBehind fun e he => hrest e (Or.inr he), hown, List.flatMap_nil, List.append_nil]

/-- Laying out the forest of a file gives the rows of its declarations. -/
theorem Lists.map_row_layoutAll {ds : List Declaration} (hds : WellNested ds) {first last : Nat}
    {parent : Option Nat} {trees : List Splice} (h : Lists ds first last parent trees)
    (path : Path) :
    (Splice.layoutAll path parent (contextInside ds parent) first trees).map Definition.row
      = (Splice.preorderAll trees).map Declaration.row := by
  induction h with
  | nil => rfl
  | @cons first middle last parent d parts trees found enclosed children inside _ ihInside
      ihBehind =>
      have hcontext : contextInside ds parent = d.context := by
        rw [hds.context_eq found, enclosed]
      have hinside : contextInside ds (some first) = qualify d.context d.name := by
        rw [contextInside, found]
        rfl
      -- What stands behind starts where the numbers of the tree end.
      have hmiddle : first + Splice.size (.declaration d parts) = middle := by
        have := inside.add_sizeAll
        rw [Splice.size]
        omega
      have hrow : (Splice.instantiate path parent d.context first d parts).row = d.row := by
        rw [Declaration.row, enclosed, children]
        rfl
      rw [hinside] at ihInside
      rw [hcontext] at ihBehind ⊢
      rw [Splice.layoutAll, Splice.layout, hmiddle, Splice.preorderAll, Splice.preorder,
        List.map_append, List.map_append, List.map_cons, List.map_cons, hrow, ihInside, ihBehind]

/-- The table of a file that imports nothing holds its declarations. -/
theorem Table.build_singleton {o : Outline} (hnested : WellNested o.declarations)
    (hnone : ∀ d ∈ o.declarations, d.imports = []) :
    ∃ t, Table.build [o] = .ok t ∧
      t.definitions.map Definition.row = o.declarations.map Declaration.row := by
  have himports : o.imports = [] := List.flatMap_eq_nil_iff.2 hnone
  -- Entering the file can only unfold it, and nothing is grafted.
  have htree : expandFile [o] [] o = .ok (.file o.file o.forest) := by
    have henters := enters_expandFile [o] [] hnested
    generalize expandFile [o] [] o = result at henters ⊢
    cases henters with
    | closes mem => rw [himports] at mem; cases mem
    | fails mem => rw [himports] at mem; cases mem
    | unfolds trees _ =>
        have hself := hnested.lists_forest.graftAll_eq_self
          (hnested.preorderAll_forest.symm ▸ hnone) (spliced [o] trees)
        rw [hself]
  have hroots : rootsOf [o] = [o] := by
    simp [rootsOf, splicedFiles, himports]
  have hforest : spliceAll [o] = .ok [.file o.file o.forest] := by
    have heq : spliceAll [o] = ((rootsOf [o]).mapM (expandFile [o] []) >>=
        fun trees => expandMissing [o] trees [o]) := rfl
    have hmap : [o].mapM (expandFile [o] [])
        = .ok ([o].map fun _ => Splice.file o.file o.forest) := mapM_ok (by simpa using htree)
    rw [heq, hroots, hmap]
    show expandMissing [o] [.file o.file o.forest] [o] = _
    have hheld : o.file ∈ Splice.filesAll [.file o.file o.forest] := List.mem_cons_self
    rw [expandMissing, if_pos hheld]
    rfl
  have hbuild : Table.build [o] = .ok ((definitionsOf [.file o.file o.forest]).foldl push
      { empty with files := fileList [o] }) := by
    have hordered : inOrder [o] = [o] := rfl
    rw [Table.build, hordered, hforest]
    rfl
  refine ⟨_, hbuild, ?_⟩
  have hlayout := hnested.lists_forest.map_row_layoutAll hnested o.file
  rw [hnested.preorderAll_forest] at hlayout
  rw [Table.definitions_foldl_push, ← hlayout]
  simp [definitionsOf, Splice.layoutAll, Splice.layout, Table.empty, contextInside]

/-! ### Reading what was written -/

/-- The text of a forest reads as the forest: its declarations from top to
bottom, nested as they were written and without imports. No block stays
open, no declaration waits, and only repeated names are reported. The
table of the file lists the same. -/
theorem Sketch.read_source (file : Path) (forest : List Sketch) (ended : Bool) :
    (Outline.read file (source ended forest)).declarations.map Declaration.row
        = rowsAll [] none 0 forest ∧
      (∀ d ∈ (Outline.read file (source ended forest)).declarations, d.imports = []) ∧
      (Outline.read file (source ended forest)).unattached = [] ∧
      (Outline.read file (source ended forest)).openScopes = [] ∧
      (Outline.read file (source ended forest)).pending = none ∧
      (∀ w ∈ (Outline.read file (source ended forest)).warnings, ∃ fullName line location,
        w = (Problem.duplicate fullName line).reportAt location) ∧
      ∃ t, Table.build [Outline.read file (source ended forest)] = .ok t ∧
        t.definitions.map Definition.row = rowsAll [] none 0 forest := by
  have hadds := (Draft.ready_start file.normalize).forest 1 forest
  rw [← ofLines_source ended forest] at hadds
  have hrows : (Outline.read file (source ended forest)).declarations.map Declaration.row
      = rowsAll [] none 0 forest := hadds.rows
  have hscope := hadds.scope
  have himports : ∀ d ∈ (Outline.read file (source ended forest)).declarations, d.imports = [] :=
    hadds.ready.importless
  obtain ⟨t, hbuild, htable⟩ := Table.build_singleton (Outline.wellNested_read file _) himports
  refine ⟨hrows, himports, hadds.ready.unattached, ?_, ?_, hadds.ready.warnings, t, hbuild,
    htable.trans hrows⟩
  · exact congrArg Scope.openKeys hscope
  · exact congrArg (fun s => s.pending.map Owner.key) hscope

end DefIndex
