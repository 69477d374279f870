import DefIndex.Session
import DefIndex.Proofs.Cursor
import DefIndex.Proofs.Indexes
import DefIndex.Proofs.Instances
import DefIndex.Proofs.Neighbours

/-!
# `DefIndex.Proofs.Declared`: a declared name under the cursor

`Snapshot.definitionUnder?` first reads the word under the cursor as a full
name and takes the definition with that name, if the word is marked as a
reference or the definition is of the same file. Only then it looks for a
declaration whose name the cursor touches. So a declared name is not always
answered by its own definition: inside a block the bare name may be the full
name of another definition of the file. And a name need not hold a character
of a word at all.

* `Word.at?_within` reads the word under a cursor off the name alone.
* `Snapshot.find?_touched` is the second look: in a file that nobody imports
  it finds the definition of the name under the cursor, and no other.
* `Definition.foundAt_of_holds` puts them together: the answer for every
  cursor on the name, when it is the definition of the name, and when there
  is none.
* `Definition.overlooked_twinSources` is a name whose definition is not found.
-/

set_option autoImplicit false

namespace DefIndex

/-! ### Words of a name -/

namespace Text

variable {p : Char → Bool} {front t back : Text}

/-- A run at the end of a text is not changed by what it cannot reach. -/
theorem takeEndWhile_append_of_stop (hfront : ∀ c ∈ front.getLast?, p c = false) :
    takeEndWhile p (front ++ t) = takeEndWhile p t ∧
      dropEndWhile p (front ++ t) = front ++ dropEndWhile p t := by
  have hparts := Statement.dropEndWhile_append_takeEndWhile p t
  have hrun : ∀ c ∈ takeEndWhile p t, p c = true := fun c hc => Statement.of_mem_takeEndWhile hc
  have hstop : ∀ c ∈ (front ++ dropEndWhile p t).getLast?, p c = false := by
    intro c hc
    rw [List.getLast?_append, Option.mem_def, Option.or_eq_some_iff] at hc
    rcases hc with hc | ⟨-, hc⟩
    · exact Statement.of_getLast?_dropEndWhile hc
    · exact hfront c hc
  have hsplit : front ++ t = (front ++ dropEndWhile p t) ++ takeEndWhile p t := by
    rw [List.append_assoc, hparts]
  rw [hsplit]
  exact ⟨takeEndWhile_append_run hrun hstop, dropEndWhile_append_run hrun hstop⟩

/-- Nor is a run at its start. -/
theorem takeWhile_append_of_stop (hback : ∀ c ∈ back.head?, p c = false) :
    (t ++ back).takeWhile p = t.takeWhile p := by
  have hrun : ∀ c ∈ t.takeWhile p, p c = true := fun c hc => List.mem_takeWhile_imp hc
  have hstop : ∀ c ∈ (t.dropWhile p ++ back).head?, p c = false := by
    intro c hc
    rw [List.head?_append, Option.mem_def, Option.or_eq_some_iff] at hc
    rcases hc with hc | ⟨-, hc⟩
    · have hhead := List.head?_dropWhile_not p t
      rw [hc] at hhead
      exact hhead
    · exact hback c hc
  have hsplit : t ++ back = t.takeWhile p ++ (t.dropWhile p ++ back) := by
    rw [← List.append_assoc, List.takeWhile_append_dropWhile]
  rw [hsplit, takeWhile_append_run hrun hstop]

end Text

namespace Word

/-- A word some columns further to the right. -/
def moved (n : Nat) (w : Word) : Word := { w with start := n + w.start, stop := n + w.stop }

/-- The word under a cursor in a bordered name is the word under it in the
name alone. -/
theorem at?_within {front name back : Text} {k : Nat}
    (hfront : ∀ c ∈ front.getLast?, isPart c = false ∧ c ≠ sigil)
    (hback : ∀ c ∈ back.head?, isPart c = false) (hk : k ≤ name.length) :
    at? (front ++ name ++ back) (front.length + k) = (at? name k).map (moved front.length) := by
  have hcursor : min (front.length + k) (front ++ name ++ back).length = front.length + k := by
    simp only [List.length_append]
    omega
  have htake : (front ++ name ++ back).take (front.length + k) = front ++ name.take k := by
    rw [List.append_assoc, List.take_length_add_append, List.take_append_of_le_length hk]
  have hdrop : (front ++ name ++ back).drop (front.length + k) = name.drop k ++ back := by
    rw [List.append_assoc, List.drop_length_add_append, List.drop_append_of_le_length hk]
  obtain ⟨hleft, hbefore⟩ := Text.takeEndWhile_append_of_stop (t := name.take k)
    fun c hc => (hfront c hc).1
  have hright := Text.takeWhile_append_of_stop (t := name.drop k) hback
  -- Where the word starts with the name, what precedes it is no mark.
  have hmark : ((front ++ Text.dropEndWhile isPart (name.take k)).getLast? == some sigil)
      = ((Text.dropEndWhile isPart (name.take k)).getLast? == some sigil) := by
    rw [List.getLast?_append]
    cases (Text.dropEndWhile isPart (name.take k)).getLast? with
    | some c => rfl
    | none =>
        cases hlast : front.getLast? with
        | none => rfl
        | some c => simpa using (hfront c hlast).2
  simp only [at?, hcursor, htake, hdrop, hleft, hbefore, hright, hmark, Nat.min_eq_left hk]
  split
  · rfl
  · have hparts := congrArg List.length
      (Statement.dropEndWhile_append_takeEndWhile isPart (name.take k))
    rw [List.length_append, List.length_take_of_le hk] at hparts
    simp only [Option.map_some, moved, Option.some.injEq, Word.mk.injEq, and_true, true_and]
    omega

/-- A text that is a word is the word under every cursor in it. -/
theorem at?_self {t : Text} {k : Nat} (hne : t ≠ []) (hpart : ∀ c ∈ t, isPart c = true)
    (hk : k ≤ t.length) : at? t k = some ⟨t, 0, t.length, false⟩ := by
  have hnothing : ∀ c ∈ ([] : Text).getLast?, isPart c = false := by simp
  have hnone : ∀ c ∈ ([] : Text).head?, isPart c = false := by simp
  have hleft : ∀ c ∈ t.take k, isPart c = true := fun c hc => hpart c (List.mem_of_mem_take hc)
  have hright : ∀ c ∈ t.drop k, isPart c = true := fun c hc => hpart c (List.mem_of_mem_drop hc)
  have hbefore := Text.takeEndWhile_append_run hleft hnothing
  have hrest := Text.dropEndWhile_append_run hleft hnothing
  have hbehind := Text.takeWhile_append_run hright hnone
  rw [List.nil_append] at hbefore hrest
  rw [List.append_nil] at hbehind
  simp only [at?, Nat.min_eq_left hk, hbefore, hrest, hbehind, if_neg (not_isEmpty_parts hne k),
    List.take_append_drop, List.length_take_of_le hk, List.length_drop, Option.some.injEq,
    Word.mk.injEq, true_and, Nat.sub_self]
  exact ⟨by omega, rfl⟩

end Word

/-! ### The name that a cursor touches -/

/-- A cursor stands on the name of a definition: in front of its first
character, behind its last one or between them. An editor counts from zero
and a location from one, and both numbers have 32 bits. -/
structure Definition.Holds (d : Definition) (p : Position) : Prop where
  line : d.location.line = p.line.toNat + 1
  first : d.location.column ≤ p.character.toNat + 1
  last : p.character.toNat + 1 ≤ d.location.endColumn
  line_lt : p.line.toNat + 1 < 2 ^ 32
  character_lt : p.character.toNat + 1 < 2 ^ 32

namespace Definition

instance (d : Definition) (p : Position) : Decidable (d.Holds p) :=
  decidable_of_iff (d.location.line = p.line.toNat + 1 ∧
      d.location.column ≤ p.character.toNat + 1 ∧ p.character.toNat + 1 ≤ d.location.endColumn ∧
      p.line.toNat + 1 < 2 ^ 32 ∧ p.character.toNat + 1 < 2 ^ 32)
    ⟨fun ⟨line, first, last, line_lt, lt⟩ => ⟨line, first, last, line_lt, lt⟩,
      fun h => ⟨h.line, h.first, h.last, h.line_lt, h.character_lt⟩⟩

/-- Whether the name of a definition touches a cursor, counted in 32 bits. -/
def touches (p : Position) (d : Definition) : Bool :=
  d.location.line == (p.line + 1).toNat
    && decide (d.location.column ≤ (p.character + 1).toNat)
    && decide ((p.character + 1).toNat ≤ d.location.endColumn)

/-- The number of characters of the name in front of a cursor. -/
def charactersBefore (d : Definition) (p : Position) : Nat :=
  p.character.toNat + 1 - d.location.column

/-- No count from one wraps around. -/
theorem Holds.touches_iff {d : Definition} {p : Position} (h : d.Holds p) (e : Definition) :
    e.touches p = true ↔ e.location.line = d.location.line ∧
      e.location.column ≤ p.character.toNat + 1 ∧ p.character.toNat + 1 ≤ e.location.endColumn := by
  have hone : (1 : UInt32).toNat = 1 := rfl
  have hline : (p.line + 1).toNat = p.line.toNat + 1 := by
    rw [UInt32.toNat_add, hone, Nat.mod_eq_of_lt h.line_lt]
  have hcharacter : (p.character + 1).toNat = p.character.toNat + 1 := by
    rw [UInt32.toNat_add, hone, Nat.mod_eq_of_lt h.character_lt]
  simp only [touches, hline, hcharacter, h.line, Bool.and_eq_true, beq_iff_eq, decide_eq_true_eq,
    and_assoc]

/-- A cursor on a name touches it. -/
theorem Holds.touches {d : Definition} {p : Position} (h : d.Holds p) : d.touches p = true :=
  (h.touches_iff d).2 ⟨rfl, h.first, h.last⟩

end Definition

/-- What an instance has from its declaration. -/
theorem Definition.InstanceOf.fields {e : Definition} {file : Path} {d : Declaration}
    (h : e.InstanceOf file d) : e.name = d.name ∧ e.kind = d.kind ∧ e.location.line = d.line ∧
      e.location.column = d.column ∧ e.location.endColumn = d.endColumn := by
  obtain ⟨hname, hrest⟩ := Prod.mk.inj h
  obtain ⟨hkind, hrest⟩ := Prod.mk.inj hrest
  obtain ⟨-, hplace⟩ := Prod.mk.inj hrest
  rw [hplace]
  exact ⟨hname, hkind, rfl, rfl, rfl⟩

/-- The one definition that fits is found. -/
theorem find?_eq_some_of_unique {α : Type} {q : α → Bool} {xs : List α} {x : α} (hx : x ∈ xs)
    (hq : q x = true) (hunique : ∀ y ∈ xs, q y = true → y = x) : xs.find? q = some x := by
  obtain ⟨y, hy⟩ := Option.isSome_iff_exists.1 (List.find?_isSome.2 ⟨x, hx, hq⟩)
  rw [hy, hunique y (List.mem_of_find?_eq_some hy) (List.find?_some hy)]

/-! ### The answer -/

/-- A definition that is declared by keyword and shares its full name with no
other one. -/
structure Table.Sole (t : Table) (d : Definition) : Prop where
  mem : d ∈ t.definitions
  keyword : d.kind ≠ .inherit
  only : ∀ e ∈ t.definitions, e.fullName = d.fullName → e = d

namespace Snapshot

/-- The definition that a word names, if an editor takes the word for a name:
it is marked as a reference, or it names a definition of the same file. -/
def named? (s : Snapshot) (file : Path) (w : Word) : Option Definition :=
  (s.table.lookup w.name).filter fun e => w.referenced || decide (e.location.file = file)

/-- What a look-up by full name finds has the name. -/
theorem of_lookup {version limit : Nat} {outlines : List Outline} {failures : List ReadFailure}
    {s : Snapshot} (h : Snapshot.build version outlines failures limit = .ok s) {n : Text}
    {e : Definition} (he : s.table.lookup n = some e) :
    e ∈ s.table.definitions ∧ e.fullName = n := by
  obtain ⟨table, htable, rfl⟩ := exists_of_build_ok h
  rw [(Table.indexed_build htable).lookup_eq_find?] at he
  exact ⟨List.mem_of_find?_eq_some he, (Definition.answers_iff.1 (List.find?_some he)).2⟩

/-- The two looks, one after the other. -/
theorem definitionUnder?_eq (s : Snapshot) (file : Path) (line : Text) (p : Position) :
    s.definitionUnder? file line p = (Word.at? line p.character.toNat).bind fun w =>
      (s.named? file w).or ((s.table.inFile file).find? (Definition.touches p)) := by
  rw [definitionUnder?]
  congr 1
  funext w
  simp only [named?]
  cases s.table.lookup w.name with
  | none => rfl
  | some e =>
      simp only [Option.filter_some]
      split <;> rfl

section Alone

variable {version limit : Nat} {sources : List (Path × Text)} {failures : List ReadFailure}
  {s : Snapshot} {file : Path} {source : Text} {d : Definition}
  (hdistinct : ((outlinesOf sources).map Outline.file).Nodup)
  (hbuild : Snapshot.build version (outlinesOf sources) failures limit = .ok s)
  (hsource : (file, source) ∈ sources)

include hdistinct hbuild hsource

/-- The definitions of a file that nobody imports are its declarations, in the
contexts that they have in the file. -/
theorem exists_declaration (halone : importSites (outlinesOf sources) file.normalize = [])
    {e : Definition} (he : e ∈ s.table.definitions) (hfile : e.location.file = file.normalize) :
    ∃ f ∈ (Outline.read file source).declarations, e.InstanceOf file.normalize f ∧
      e.context = f.context ∧ e.fullName = qualify f.context f.name := by
  obtain ⟨table, htable, rfl⟩ := exists_of_build_ok hbuild
  obtain ⟨o, ho, f, hf, hinstance, hplaced⟩ :=
    Table.placed_of_mem_definitions hdistinct htable he
  have hsame : o.file = file.normalize := hinstance.file_eq.symm.trans hfile
  have houtline : o = Outline.read file source := by
    refine List.inj_on_of_nodup_map hdistinct ho (List.mem_map_of_mem hsource) ?_
    rw [hsame, Outline.file_read]
  rw [hsame] at hinstance hplaced
  rw [Definition.PlacedAs, if_pos halone] at hplaced
  have hname := hinstance.fields.1
  refine ⟨f, houtline ▸ hf, hinstance, hplaced, ?_⟩
  obtain ⟨forest, -, rfl⟩ := Table.spliceAll_of_build_ok htable
  rw [Table.definitions_foldl_push] at he
  rw [fullName_of_mem_definitionsOf he, hplaced, hname]

/-- In a file that nobody imports, the second look finds the definition of the
name under the cursor. -/
theorem find?_touched (halone : importSites (outlinesOf sources) file.normalize = [])
    (hd : s.table.Sole d) (hfile : d.location.file = file.normalize) {p : Position}
    (hholds : d.Holds p) :
    (s.table.inFile file.normalize).find? (Definition.touches p) = some d := by
  refine find?_eq_some_of_unique ?_ hholds.touches ?_
  · exact List.mem_filter.2 ⟨hd.mem, by simpa using hfile⟩
  · intro e he htouches
    obtain ⟨he, hefile⟩ := List.mem_filter.1 he
    obtain ⟨f, hf, hdf, -, hdname⟩ :=
      exists_declaration hdistinct hbuild hsource halone hd.mem hfile
    obtain ⟨g, hg, heg, -, hename⟩ :=
      exists_declaration hdistinct hbuild hsource halone he (by simpa using hefile)
    obtain ⟨-, -, hdline, hdcolumn, hdend⟩ := hdf.fields
    obtain ⟨-, -, heline, hecolumn, heend⟩ := heg.fields
    obtain ⟨hline, hestart, hestop⟩ := (hholds.touches_iff e).1 htouches
    -- The names touch the same cursor, so they are one name.
    have hone : f = g := by
      refine Declaration.eq_of_touched hf hg ?_ ⟨hdcolumn ▸ hholds.first, hdend ▸ hholds.last⟩
        ⟨hecolumn ▸ hestart, heend ▸ hestop⟩
      omega
    exact hd.only e he (by rw [hename, hdname, hone])

end Alone

end Snapshot

/-- A name that is a dotted word. -/
structure Definition.Plain (d : Definition) : Prop where
  word : ∀ c ∈ d.name, Word.isPart c = true
  first : d.name.head? ≠ some '.'
  last : d.name.getLast? ≠ some '.'

/-- What an editor finds where a cursor stands on the name of a definition. -/
structure Definition.FoundAt (d : Definition) (s : Snapshot) (line : Text) (p : Position) :
    Prop where
  /-- The word under the cursor is the one under it in the name alone. -/
  word : Word.at? line p.character.toNat
    = (Word.at? d.name (d.charactersBefore p)).map (Word.moved (d.location.column - 1))
  /-- The answer is what the word names, if it is taken for a name, and else
  the definition. -/
  answer : s.definitionUnder? d.location.file line p
    = (Word.at? d.name (d.charactersBefore p)).map fun w =>
        (s.named? d.location.file w).getD d
  /-- It is the definition exactly if the cursor touches a word that is not
  taken for the name of another one. -/
  found : s.definitionUnder? d.location.file line p = some d ↔
    ∃ w, Word.at? d.name (d.charactersBefore p) = some w ∧
      ∀ e, s.named? d.location.file w = some e → e = d
  /-- There is no answer exactly if the cursor touches no word in the name. -/
  missed : s.definitionUnder? d.location.file line p = none ↔
    Word.at? d.name (d.charactersBefore p) = none
  /-- Where the name is a word, it is the definition exactly if the name alone
  does not lead to another definition of the file. -/
  plain : d.Plain → (s.definitionUnder? d.location.file line p = some d ↔
    ∀ e, s.table.lookup d.name = some e → e.location.file = d.location.file → e = d)
  /-- Outside all blocks nothing can get in front of such a name. -/
  top : d.Plain → d.context = [] → s.definitionUnder? d.location.file line p = some d

namespace Definition

/-- What a name that is a dotted word names, without a mark and with all its
dots. -/
theorem Plain.named?_eq_some_iff {d : Definition} (h : d.Plain) (s : Snapshot) {e : Definition} :
    s.named? d.location.file ⟨d.name, 0, d.name.length, false⟩ = some e ↔
      s.table.lookup d.name = some e ∧ e.location.file = d.location.file := by
  have hdots : Text.trimBy (· == '.') d.name = d.name := by
    refine Text.trimBy_eq_self ?_ ?_
    · intro c hc
      exact beq_false_of_ne fun hdot => h.first (hdot ▸ hc)
    · intro c hc
      exact beq_false_of_ne fun hdot => h.last (hdot ▸ hc)
  simp [Snapshot.named?, Word.name, hdots, Option.filter_eq_some_iff]

/-- The word under a cursor on a declared name is read off the name. -/
theorem Holds.at?_eq {d : Definition} {p : Position} {file : Path} {source line : Text}
    {f : Declaration} (hholds : d.Holds p) (hf : f.Bordered source)
    (hinstance : d.InstanceOf file f)
    (hline : (Text.lines source)[d.location.line - 1]? = some line) :
    d.charactersBefore p ≤ d.name.length ∧ Word.at? line p.character.toNat
      = (Word.at? d.name (d.charactersBefore p)).map (Word.moved (d.location.column - 1)) := by
  obtain ⟨front, back, hwritten, hcolumn, hfront, hback⟩ := hf
  obtain ⟨hname, -, hdline, hstart, hend⟩ := hinstance.fields
  rw [hdline] at hline
  obtain rfl : front ++ f.name ++ back = line := Option.some.inj (hwritten.symm.trans hline)
  have hfirst := hholds.first
  have hlast := hholds.last
  have hlength : f.endColumn = f.column + f.name.length := rfl
  have hcount : d.charactersBefore p = p.character.toNat + 1 - d.location.column := rfl
  have hcursor : p.character.toNat = front.length + d.charactersBefore p := by omega
  have hle : d.charactersBefore p ≤ f.name.length := by omega
  have hcolumns : d.location.column - 1 = front.length := by omega
  rw [hname, hcolumns, hcursor]
  exact ⟨hle, Word.at?_within hfront hback hle⟩

/-- In a file that nobody imports, a cursor on a name that is declared by
keyword finds what the word under it names there, and else the definition of
the name. -/
theorem foundAt_of_holds (version limit : Nat) (sources : List (Path × Text))
    (hdistinct : ((outlinesOf sources).map Outline.file).Nodup) (failures : List ReadFailure)
    (s : Snapshot) (hbuild : Snapshot.build version (outlinesOf sources) failures limit = .ok s)
    (file : Path) (source : Text) (hsource : (file, source) ∈ sources)
    (halone : importSites (outlinesOf sources) file.normalize = []) (d : Definition)
    (hd : s.table.Sole d) (hfile : d.location.file = file.normalize) (line : Text)
    (hline : (Text.lines source)[d.location.line - 1]? = some line) (p : Position)
    (hholds : d.Holds p) : d.FoundAt s line p := by
  obtain ⟨f, hf, hinstance, hcontext, hfull⟩ :=
    Snapshot.exists_declaration hdistinct hbuild hsource halone hd.mem hfile
  obtain ⟨hname, hkind, -⟩ := hinstance.fields
  have hbordered := Declaration.bordered_read hf (hkind ▸ hd.keyword)
  obtain ⟨hle, hword⟩ := hholds.at?_eq hbordered hinstance hline
  have hanswer : s.definitionUnder? d.location.file line p
      = (Word.at? d.name (d.charactersBefore p)).map fun w =>
          (s.named? d.location.file w).getD d := by
    rw [Snapshot.definitionUnder?_eq, hword, hfile,
      Snapshot.find?_touched hdistinct hbuild hsource halone hd hfile hholds]
    cases Word.at? d.name (d.charactersBefore p) with
    | none => rfl
    | some w => exact Option.or_some
  have hfound : s.definitionUnder? d.location.file line p = some d ↔
      ∃ w, Word.at? d.name (d.charactersBefore p) = some w ∧
        ∀ e, s.named? d.location.file w = some e → e = d := by
    rw [hanswer, Option.map_eq_some_iff]
    refine exists_congr fun w => and_congr_right fun _ => ?_
    cases s.named? d.location.file w <;> simp
  have hbare (hplain : d.Plain) : s.definitionUnder? d.location.file line p = some d ↔
      ∀ e, s.table.lookup d.name = some e → e.location.file = d.location.file → e = d := by
    have hne : d.name ≠ [] := hname ▸ (Outline.wellNested_read file source).named f hf
    rw [hfound, Word.at?_self hne hplain.word hle]
    simp only [Option.some.injEq, exists_eq_left', hplain.named?_eq_some_iff, and_imp]
  refine ⟨hword, hanswer, hfound, by rw [hanswer, Option.map_eq_none_iff], hbare, ?_⟩
  intro hplain htop
  refine (hbare hplain).2 fun e he _ => ?_
  -- What answers to the name alone has the full name of the definition.
  obtain ⟨hmem, hsame⟩ := Snapshot.of_lookup hbuild he
  refine hd.only e hmem ?_
  rw [hsame, hfull, ← hcontext, htop, hname]
  rfl

/-! ### A name in front of another one -/

/-- A name that is declared outside all blocks and again inside one. -/
def twinSource : Text :=
  "CREATE TAG Price;\nCREATE BASE Shop \x7b\n    CREATE TAG Price;\n\x7d\n"

/-- A workspace of one file that has the name. -/
def twinSources : List (Path × Text) := [(.parse "/ws/a.mql", twinSource)]

/-- The declaration outside. -/
def outerTwin : Definition :=
  { id := 0, name := "Price", context := [], fullName := "Price", kind := .tag
    location := .span (.parse "/ws/a.mql") 1 12 5, children := [], childEntries := []
    imports := [], parent := none, target := none }

/-- The declaration inside. -/
def innerTwin : Definition :=
  { id := 2, name := "Price", context := "Shop", fullName := "Shop.Price", kind := .tag
    location := .span (.parse "/ws/a.mql") 3 16 5, children := [], childEntries := []
    imports := [], parent := some 1, target := none }

/-- The line of the declaration inside. -/
def twinLine : Text := "    CREATE TAG Price;"

/-- A cursor between the second and the third character of its name. -/
def twinCursor : Position := ⟨2, 17⟩

/-- Nobody imports the file, and the cursor stands on the name of the declaration
inside. -/
theorem holds_twinCursor :
    ((outlinesOf twinSources).map Outline.file).Nodup ∧
      importSites (outlinesOf twinSources) innerTwin.location.file = [] ∧
      (Text.lines twinSource)[innerTwin.location.line - 1]? = some twinLine ∧
      innerTwin.Holds twinCursor :=
  ⟨by decide +kernel, by decide +kernel, by decide +kernel, by decide +kernel⟩

/-- The workspace is indexed. The declaration inside shares its full name with
no other one, and the cursor finds the declaration outside. -/
theorem exists_build_twinSources :
    ∃ s, Snapshot.build 1 (outlinesOf twinSources) [] 100 = .ok s ∧ s.table.Sole innerTwin ∧
      s.definitionUnder? innerTwin.location.file twinLine twinCursor = some outerTwin := by
  have hfacts : (Snapshot.build 1 (outlinesOf twinSources) [] 100).toOption.map
      (fun s => (decide (innerTwin ∈ s.table.definitions ∧
          ∀ e ∈ s.table.definitions, e.fullName = innerTwin.fullName → e = innerTwin),
        s.definitionUnder? innerTwin.location.file twinLine twinCursor))
      = some (true, some outerTwin) := by
    decide +kernel
  obtain ⟨s, hs, hfacts⟩ := exists_ok_of_toOption hfacts
  obtain ⟨hsole, hanswer⟩ := Prod.mk.inj hfacts
  obtain ⟨hmem, honly⟩ := of_decide_eq_true hsole
  exact ⟨s, hs, ⟨hmem, by decide, honly⟩, hanswer⟩

/-- The declaration inside is found at the cursor as far as the names of the
workspace let it. -/
theorem foundAt_twinSources :
    ((outlinesOf twinSources).map Outline.file).Nodup ∧
      importSites (outlinesOf twinSources) innerTwin.location.file = [] ∧
      (Text.lines twinSource)[innerTwin.location.line - 1]? = some twinLine ∧
      innerTwin.Holds twinCursor ∧
      ∃ s, Snapshot.build 1 (outlinesOf twinSources) [] 100 = .ok s ∧ s.table.Sole innerTwin ∧
        innerTwin.FoundAt s twinLine twinCursor := by
  obtain ⟨hdistinct, halone, hline, hholds⟩ := holds_twinCursor
  obtain ⟨s, hs, hsole, -⟩ := exists_build_twinSources
  have hfile : innerTwin.location.file = (Path.parse "/ws/a.mql").normalize := by decide +kernel
  refine ⟨hdistinct, halone, hline, hholds, s, hs, hsole, ?_⟩
  exact foundAt_of_holds 1 100 twinSources hdistinct [] s hs (.parse "/ws/a.mql") twinSource
    (List.mem_singleton_self _) (hfile ▸ halone) innerTwin hsole hfile twinLine hline twinCursor
    hholds

/-- Another definition is found there: the bare name is the full name of the
declaration outside. -/
theorem overlooked_twinSources :
    ((outlinesOf twinSources).map Outline.file).Nodup ∧
      importSites (outlinesOf twinSources) innerTwin.location.file = [] ∧
      (Text.lines twinSource)[innerTwin.location.line - 1]? = some twinLine ∧
      innerTwin.Holds twinCursor ∧
      ∃ s, Snapshot.build 1 (outlinesOf twinSources) [] 100 = .ok s ∧ s.table.Sole innerTwin ∧
        s.definitionUnder? innerTwin.location.file twinLine twinCursor = some outerTwin ∧
        outerTwin ≠ innerTwin := by
  obtain ⟨hdistinct, halone, hline, hholds⟩ := holds_twinCursor
  obtain ⟨s, hs, hsole, hanswer⟩ := exists_build_twinSources
  exact ⟨hdistinct, halone, hline, hholds, s, hs, hsole, hanswer, by decide⟩

end Definition

end DefIndex
