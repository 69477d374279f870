import DefIndex.Proofs.Declared
import DefIndex.Proofs.Slices

/-!
# `DefIndex.Proofs.LineEnd`: a cursor behind the end of its line

An editor may send a column that its line does not have. The word under such
a cursor is the one at the end of the line. The second look, for a declared
name, takes the column as it was sent, adds one to it in 32 bits, and compares
that with the columns of the names.

* `Position.within` is the cursor put back on its line.
* `Snapshot.ShowsLine` says that a text is a line of a file that was indexed.
  No name reaches behind its line (`Declaration.endColumn_le`), so behind it
  the second look finds nothing.
* `Snapshot.besideEnd` compares the answers at both cursors, for every line.
  They differ exactly if no word is taken for a name and the second look tells
  the two columns apart, and in an indexed file that is where a declared name
  ends the line.
* `Snapshot.overlooked_endSources` is a declaration that is found at the end
  of its line and not behind it.
-/

set_option autoImplicit false

namespace DefIndex

/-! ### Columns -/

/-- A cursor put back on its line: behind the end it is put at the end. -/
def Position.within (line : Text) (p : Position) : Position :=
  { p with character := .ofNat (min p.character.toNat line.length) }

/-- The column of a cursor that was put back. -/
theorem Position.toNat_character_within (line : Text) (p : Position) :
    (p.within line).character.toNat = min p.character.toNat line.length :=
  UInt32.toNat_ofNat_of_lt' (Nat.lt_of_le_of_lt (Nat.min_le_left _ _) p.character.toNat_lt)

/-- A cursor on its line stays where it is. -/
theorem Position.within_eq_self {line : Text} {p : Position}
    (h : p.character.toNat ≤ line.length) : p.within line = p := by
  rw [within, Nat.min_eq_left h, UInt32.ofNat_toNat]

/-- The word under a cursor is read from the cursor put back. -/
theorem Word.at?_min (line : Text) (character : Nat) :
    at? line (min character line.length) = at? line character := by
  rw [at?, at?, Nat.min_eq_left (Nat.min_le_right _ _)]

/-- One more in 32 bits is one more, and nothing for the largest number. -/
theorem Position.toNat_add_one (c : UInt32) :
    (c + 1).toNat = if c.toNat + 1 = 2 ^ 32 then 0 else c.toNat + 1 := by
  have hlt := c.toNat_lt
  have hone : (1 : UInt32).toNat = 1 := rfl
  rw [UInt32.toNat_add, hone]
  split
  next hlast => rw [hlast, Nat.mod_self]
  next hlast => exact Nat.mod_eq_of_lt (by omega)

/-! ### The end of a line -/

/-- What stands in the columns of a line ends on the line. -/
theorem Spells.endColumn_le {source t line : Text} {number column : Nat}
    (h : Spells source number column (column + t.length) t) (hne : t ≠ [])
    (hline : (Text.lines source)[number - 1]? = some line) :
    column + t.length ≤ line.length + 1 := by
  have htext := h.text
  rw [hline, Option.map_some, Option.some.injEq, slice] at htext
  have hlength := congrArg List.length htext
  have hpos := List.length_pos_iff.2 hne
  rw [List.length_drop, List.length_take] at hlength
  omega

/-- No name reaches behind its line. -/
theorem Declaration.endColumn_le {file : Path} {source line : Text} {e : Declaration}
    (he : e ∈ (Outline.read file source).declarations)
    (hline : (Text.lines source)[e.line - 1]? = some line) : e.endColumn ≤ line.length + 1 :=
  (spells_read he).endColumn_le ((Outline.wellNested_read file source).named e he) hline

namespace Snapshot

/-- A text is the line of a cursor in a file that a snapshot was built from. -/
def ShowsLine (s : Snapshot) (file : Path) (line : Text) (p : Position) : Prop :=
  ∃ (version limit : Nat) (sources : List (Path × Text)) (failures : List ReadFailure)
    (name : Path) (source : Text),
    ((outlinesOf sources).map Outline.file).Nodup ∧
      Snapshot.build version (outlinesOf sources) failures limit = .ok s ∧
      (name, source) ∈ sources ∧ name.normalize = file ∧
      (Text.lines source)[p.line.toNat]? = some line

section ShowsLine

variable {s : Snapshot} {file : Path} {line : Text} {p : Position}

/-- The names on a line that was indexed lie in its columns. -/
theorem ShowsLine.columns (h : s.ShowsLine file line p) {d : Definition}
    (hd : d ∈ s.table.definitions) (hfile : d.location.file = file)
    (hnumber : d.location.line = (p.line + 1).toNat) :
    0 < d.location.column ∧ d.location.column ≤ d.location.endColumn ∧
      d.location.endColumn ≤ line.length + 1 := by
  obtain ⟨version, limit, sources, failures, name, source, hdistinct, hbuild, hsource, rfl, hline⟩ :=
    h
  obtain ⟨htable, -⟩ := diagnostics_of_build hbuild
  obtain ⟨o, ho, f, hf, hinstance, -⟩ := Table.placed_of_mem_definitions hdistinct htable hd
  have houtline : o = Outline.read name source := by
    refine List.inj_on_of_nodup_map hdistinct ho (List.mem_map_of_mem hsource) ?_
    rw [Outline.file_read, ← hfile, hinstance.file_eq]
  subst houtline
  obtain ⟨-, -, hdline, hcolumn, hend⟩ := hinstance.fields
  have hspells := Declaration.spells_read hf
  -- The line after the last number of 32 bits is numbered zero, and no name
  -- stands there.
  have hpos := hspells.line_pos
  have hnumber' : f.line - 1 = p.line.toNat := by
    have hwrap := Position.toNat_add_one p.line
    split at hwrap <;> omega
  have hle := Declaration.endColumn_le hf (hnumber' ▸ hline)
  have hlong : f.endColumn = f.column + f.name.length := rfl
  exact ⟨hcolumn ▸ hspells.column_pos, by omega, by omega⟩

/-- Behind an indexed line the second look finds nothing. -/
theorem ShowsLine.find?_behind (h : s.ShowsLine file line p)
    (hbehind : line.length < p.character.toNat) :
    (s.table.inFile file).find? (Definition.touches p) = none := by
  rw [List.find?_eq_none]
  intro d hd htouches
  obtain ⟨hd, hfile⟩ := List.mem_filter.1 hd
  simp only [Definition.touches, Bool.and_eq_true, beq_iff_eq, decide_eq_true_eq] at htouches
  obtain ⟨⟨hnumber, hfirst⟩, hlast⟩ := htouches
  obtain ⟨hpos, -, hle⟩ := h.columns hd (by simpa using hfile) hnumber
  -- The largest column counts as zero, in front of every name, and any other
  -- one is behind the last column of the line.
  have hwrap := Position.toNat_add_one p.character
  split at hwrap <;> omega

/-- At its end the second look finds nothing but a name that ends there. -/
theorem ShowsLine.find?_within_eq_none_iff (h : s.ShowsLine file line p)
    (hbehind : line.length < p.character.toNat) :
    (s.table.inFile file).find? (Definition.touches (p.within line)) = none ↔
      ∀ d ∈ s.table.definitions, d.location.file = file →
        d.location.line = (p.line + 1).toNat → d.location.endColumn ≠ line.length + 1 := by
  -- A cursor is behind the line, so the end of the line is not the largest
  -- column.
  have hcharacter : ((p.within line).character + 1).toNat = line.length + 1 := by
    have hlt := p.character.toNat_lt
    rw [Position.toNat_add_one, Position.toNat_character_within, Nat.min_eq_right hbehind.le,
      if_neg (by omega)]
  have hnumber : ((p.within line).line + 1).toNat = (p.line + 1).toNat := rfl
  simp only [List.find?_eq_none, Table.inFile, List.mem_filter, decide_eq_true_eq, and_imp,
    Definition.touches, hcharacter, hnumber, Bool.and_eq_true, beq_iff_eq]
  refine forall_congr' fun d => imp_congr_right fun hd => imp_congr_right fun hfile => ?_
  constructor
  · intro hnone hline hend
    obtain ⟨-, hle, -⟩ := h.columns hd hfile hline
    exact hnone ⟨⟨hline, by omega⟩, by omega⟩
  · rintro hnone ⟨⟨hline, hfirst⟩, hlast⟩
    obtain ⟨-, -, hle⟩ := h.columns hd hfile hline
    exact hnone hline (by omega)

end ShowsLine

/-- What an editor finds at a cursor, next to what it finds at the cursor put
back on its line. -/
structure BesideEnd (s : Snapshot) (file : Path) (line : Text) (p : Position) : Prop where
  /-- On its line a cursor stays where it is. -/
  stays : p.character.toNat ≤ line.length → p.within line = p
  /-- The word is the same. -/
  word : Word.at? line (p.within line).character.toNat = Word.at? line p.character.toNat
  /-- Without one neither finds anything. -/
  wordless : Word.at? line p.character.toNat = none →
    s.definitionUnder? file line p = none ∧ s.definitionUnder? file line (p.within line) = none
  /-- A word that is taken for a name is the answer of both. -/
  named : ∀ w e, Word.at? line p.character.toNat = some w → s.named? file w = some e →
    s.definitionUnder? file line p = some e ∧
      s.definitionUnder? file line (p.within line) = some e
  /-- Any other word leaves it to the second look, which has two columns. -/
  unnamed : ∀ w, Word.at? line p.character.toNat = some w → s.named? file w = none →
    s.definitionUnder? file line p = (s.table.inFile file).find? (Definition.touches p) ∧
      s.definitionUnder? file line (p.within line)
        = (s.table.inFile file).find? (Definition.touches (p.within line))
  /-- The column as it was sent is counted in 32 bits. -/
  column : (p.character + 1).toNat
    = if p.character.toNat + 1 = 2 ^ 32 then 0 else p.character.toNat + 1
  /-- Behind a line that was indexed only the word counts. -/
  behind : s.ShowsLine file line p → line.length < p.character.toNat →
    s.definitionUnder? file line p = (Word.at? line p.character.toNat).bind (s.named? file)
  /-- So the answer is that at the end of the line unless a declared name ends
  there and the word is not taken for a name. -/
  same : s.ShowsLine file line p → line.length < p.character.toNat →
    (s.definitionUnder? file line p = s.definitionUnder? file line (p.within line) ↔
      ∀ w, Word.at? line p.character.toNat = some w → s.named? file w = none →
        ∀ d ∈ s.table.definitions, d.location.file = file →
          d.location.line = (p.line + 1).toNat → d.location.endColumn ≠ line.length + 1)

/-- A cursor and the same cursor put back on its line, whatever the line is. -/
theorem besideEnd (s : Snapshot) (file : Path) (line : Text) (p : Position) :
    s.BesideEnd file line p := by
  have hword : Word.at? line (p.within line).character.toNat
      = Word.at? line p.character.toNat := by
    rw [Position.toNat_character_within, Word.at?_min]
  have hsent := s.definitionUnder?_eq file line p
  have hback := s.definitionUnder?_eq file line (p.within line)
  rw [hword] at hback
  constructor
  case stays => exact Position.within_eq_self
  case word => exact hword
  case wordless =>
    intro hnone
    rw [hsent, hback, hnone]
    exact ⟨rfl, rfl⟩
  case named =>
    intro w e hw hnamed
    rw [hsent, hback, hw, Option.bind_some, Option.bind_some, hnamed]
    exact ⟨rfl, rfl⟩
  case unnamed =>
    intro w hw hnamed
    rw [hsent, hback, hw, Option.bind_some, Option.bind_some, hnamed]
    exact ⟨rfl, rfl⟩
  case column => exact Position.toNat_add_one p.character
  case behind =>
    intro hshows hbehind
    rw [hsent, hshows.find?_behind hbehind]
    exact congrArg _ (funext fun w => Option.or_none)
  case same =>
    intro hshows hbehind
    rw [hsent, hback, hshows.find?_behind hbehind]
    cases Word.at? line p.character.toNat with
    | none => simp
    | some w =>
        rw [Option.bind_some, Option.bind_some, Option.or_none]
        cases hnamed : s.named? file w with
        | some e => simp [hnamed]
        | none =>
            rw [Option.none_or, eq_comm, hshows.find?_within_eq_none_iff hbehind]
            simp [hnamed]

/-- A block with a name at the end of a line. -/
def endSource : Text := "CREATE BASE Shop \x7b\nCREATE TAG Price\n\x7d\n"

/-- The file with this text. -/
def endFile : Path := .parse "/ws/a.mql"

/-- The line of the name. -/
def endLine : Text := "CREATE TAG Price"

/-- The name is found at the end of its line and not behind it, and the largest
column counts as none. -/
theorem overlooked_endSources :
    ∃ s, Snapshot.build 1 (outlinesOf [(endFile, endSource)]) [] 100 = .ok s ∧
      s.ShowsLine endFile endLine ⟨1, 99⟩ ∧
      Position.within endLine ⟨1, 99⟩ = ⟨1, 16⟩ ∧
      (s.definitionUnder? endFile endLine ⟨1, 16⟩).map Definition.fullName
        = some ("Shop.Price" : Text) ∧
      s.definitionUnder? endFile endLine ⟨1, 99⟩ = none ∧
      ((4294967295 : UInt32) + 1).toNat = 0 := by
  have hfacts : (Snapshot.build 1 (outlinesOf [(endFile, endSource)]) [] 100).toOption.map
      (fun s => ((s.definitionUnder? endFile endLine ⟨1, 16⟩).map Definition.fullName,
        s.definitionUnder? endFile endLine ⟨1, 99⟩)) = some (some ("Shop.Price" : Text), none) := by
    decide +kernel
  obtain ⟨s, hbuild, hfacts⟩ := exists_ok_of_toOption hfacts
  obtain ⟨hend, hbehind⟩ := Prod.mk.inj hfacts
  refine ⟨s, hbuild, ?_, by decide, hend, hbehind, by decide⟩
  exact ⟨1, 100, [(endFile, endSource)], [], endFile, endSource, by decide +kernel, hbuild,
    List.mem_singleton_self _, by decide +kernel, by decide +kernel⟩

end Snapshot

end DefIndex
