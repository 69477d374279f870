import DefIndex.CommandLine
import DefIndex.Proofs.Cursor
import DefIndex.Proofs.Matching
import DefIndex.Proofs.Verdict

/-!
# `DefIndex.Proofs.LooseSearch`: what a name is answered with

The command that shows a definition looks the name up first, and a look-up
passes over definitions that inherit their own full names. If nothing is
found there, it goes through the list of all definitions and ignores case,
and there nothing is passed over. So a command may show a definition whose
full name no reference resolves to.

* `Text.holds_iff_infix` says what the search for a text is.
* `Table.Finds` tells which definition is shown, and
  `CommandLine.findDefinition?_eq_some_iff` proves it, both ways.
* `CommandLine.defining_build` is the statement about the command: what it
  shows, and what becomes of references to the full name that it shows. They
  are reported exactly if every definition with that name inherits itself.
* `CommandLine.unresolved_answer_ownHost` is an answer of which a check says
  that it is invalid.
-/

set_option autoImplicit false

namespace DefIndex

/-! ### The first of a list -/

/-- The first in a list that has a property. -/
structure FirstWith {α : Type} (P : α → Prop) (as : List α) (a : α) : Prop where
  holds : P a
  first : ∃ before behind, as = before ++ a :: behind ∧ ∀ b ∈ before, ¬ P b

/-- A search finds the first one with the property. -/
theorem find?_eq_some_iff_firstWith {α : Type} {p : α → Bool} {P : α → Prop}
    (hp : ∀ a, p a = true ↔ P a) {as : List α} {a : α} :
    as.find? p = some a ↔ FirstWith P as a := by
  rw [List.find?_eq_some_iff_append]
  simp only [Bool.not_eq_true', Bool.eq_false_iff, ne_eq, hp]
  constructor
  · rintro ⟨hholds, hfirst⟩
    exact ⟨hholds, hfirst⟩
  · rintro ⟨hholds, hfirst⟩
    exact ⟨hholds, hfirst⟩

/-- A text holds another one if that stands somewhere in it. -/
theorem Text.holds_iff_infix {needle t : Text} : holds needle t = true ↔ needle <:+: t := by
  rw [holds, Option.isSome_iff_exists]
  constructor
  · rintro ⟨rest, hrest⟩
    obtain ⟨⟨before, hstands⟩, -⟩ := afterFirst?_eq_some hrest
    exact ⟨before, rest, hstands.symm⟩
  · rintro ⟨before, rest, hstands⟩
    cases hfirst : afterFirst? needle t with
    | some rest => exact ⟨rest, rfl⟩
    | none => exact absurd hstands.symm (afterFirst?_eq_none hfirst before rest)

/-! ### Which definition is found -/

namespace Table

/-- What loose search goes by: the input in upper case, without blanks at its
ends and without marks of a reference at its start. -/
def needle (input : Text) : Text := Text.toUpper (dropSigils (Text.trim input))

/-- Which definition a name is answered with. -/
inductive Finds (t : Table) (name : Text) (d : Definition) : Prop where
  /-- The first that a reference to the name may mean. -/
  | exact (first : FirstWith (fun e => e.answers name = true) t.definitions d)
  /-- If there is none, the first with the name for its own, ignoring case. -/
  | named (undefined : t.defines name = false) (sought : needle name ≠ [])
      (first : FirstWith (fun e => Text.toUpper e.name = needle name) t.definitions d)
  /-- If there is none either, the first with the name in its full name. -/
  | inside (undefined : t.defines name = false) (sought : needle name ≠ [])
      (unnamed : ∀ e ∈ t.definitions, Text.toUpper e.name ≠ needle name)
      (first : FirstWith (fun e => needle name <:+: Text.toUpper e.fullName) t.definitions d)

/-- Loose search goes through the list twice. -/
theorem searchNode_eq_some_iff {t : Table} {name : Text} {d : Definition} :
    t.searchNode name = some d ↔ needle name ≠ [] ∧
      (FirstWith (fun e => Text.toUpper e.name = needle name) t.definitions d ∨
        (∀ e ∈ t.definitions, Text.toUpper e.name ≠ needle name) ∧
          FirstWith (fun e => needle name <:+: Text.toUpper e.fullName) t.definitions d) := by
  have hsearch : t.searchNode name = if (needle name).isEmpty then none
      else (t.definitions.find? fun e => Text.toUpper e.name = needle name).or
        (t.definitions.find? fun e => Text.holds (needle name) (Text.toUpper e.fullName)) := rfl
  rw [hsearch]
  -- Nothing stands in every name, so a search for it is cut off.
  by_cases hneedle : needle name = []
  · simp [hneedle]
  · rw [if_neg (by simpa using hneedle), Option.or_eq_some_iff,
      find?_eq_some_iff_firstWith (fun e => decide_eq_true_iff), List.find?_eq_none,
      find?_eq_some_iff_firstWith (fun e => Text.holds_iff_infix)]
    simp [hneedle]

/-- A definition that is found is one of the table. -/
theorem Finds.mem {t : Table} {name : Text} {d : Definition} (h : t.Finds name d) :
    d ∈ t.definitions := by
  have hfirst {P : Definition → Prop} (hd : FirstWith P t.definitions d) : d ∈ t.definitions := by
    obtain ⟨-, before, behind, hds, -⟩ := hd
    rw [hds]
    exact List.mem_append_right _ List.mem_cons_self
  cases h with
  | exact first => exact hfirst first
  | named _ _ first => exact hfirst first
  | inside _ _ _ first => exact hfirst first

end Table

namespace CommandLine

/-- A look-up with loose search behind it answers as `Table.Finds` says. -/
theorem findDefinition?_eq_some_iff {s : Snapshot} (hindexed : s.table.Indexed) {name : Text}
    {d : Definition} : findDefinition? s name = some d ↔ s.table.Finds name d := by
  have hnone : s.table.lookup name = none ↔ s.table.defines name = false := by
    rw [hindexed.lookup_eq_find?, List.find?_eq_none, Table.defines, List.any_eq_false]
  rw [findDefinition?, Option.or_eq_some_iff, hnone, Table.searchNode_eq_some_iff,
    hindexed.lookup_eq_find?, find?_eq_some_iff_firstWith (fun e => Iff.rfl)]
  constructor
  · rintro (hfirst | ⟨hundefined, hsought, hfirst | ⟨hunnamed, hfirst⟩⟩)
    · exact .exact hfirst
    · exact .named hundefined hsought hfirst
    · exact .inside hundefined hsought hunnamed hfirst
  · rintro (hfirst | ⟨hundefined, hsought, hfirst⟩ | ⟨hundefined, hsought, hunnamed, hfirst⟩)
    · exact Or.inl hfirst
    · exact Or.inr ⟨hundefined, hsought, Or.inl hfirst⟩
    · exact Or.inr ⟨hundefined, hsought, Or.inr ⟨hunnamed, hfirst⟩⟩

/-! ### References to what is shown -/

/-- The definition that is found is shown. -/
theorem runDefine_of_some {s : Snapshot} {name : Text} {d : Definition}
    (hd : findDefinition? s (dropSigils name) = some d) (h : Host) (context : Bool)
    (out : OutputOptions) :
    runDefine h s name context out = ⟨0, showDefinition h d context out, []⟩ := by
  simp only [runDefine, hd]

/-- If none is found, the command fails. -/
theorem code_runDefine_of_none {s : Snapshot} {name : Text}
    (hnone : findDefinition? s (dropSigils name) = none) (h : Host) (context : Bool)
    (out : OutputOptions) : (runDefine h s name context out).code = 1 := by
  simp only [runDefine, hnone]
  split <;> rfl

/-- How the command that shows a definition answers a name, and what becomes
of references to the full name of what it shows. -/
structure Defining (h : Host) (s : Snapshot) (sources : List (Path × Text)) (name : Text)
    (context : Bool) (out : OutputOptions) : Prop where
  /-- The code is 0 if a definition is found, and 1 if none is. -/
  succeeds : (runDefine h s name context out).code = 0 ↔ ∃ d, s.table.Finds (dropSigils name) d
  fails : (runDefine h s name context out).code = 0 ∨ (runDefine h s name context out).code = 1
  /-- The definition that is found is shown. -/
  shows : ∀ d, s.table.Finds (dropSigils name) d →
    runDefine h s name context out = ⟨0, showDefinition h d context out, []⟩
  /-- No name has two answers. -/
  unique : ∀ d e, s.table.Finds (dropSigils name) d → s.table.Finds (dropSigils name) e → d = e
  /-- A name that resolves is answered with a definition of this full name. -/
  exact : s.table.contains (dropSigils name) = true →
    ∃ d, s.table.Finds (dropSigils name) d ∧ d.fullName = dropSigils name
  /-- The full name of an answer resolves if a definition with it does not
  inherit itself. -/
  resolves : ∀ d, s.table.Finds (dropSigils name) d →
    (s.table.contains d.fullName = true ↔ ∃ e ∈ s.table.definitions, e.fullName = d.fullName ∧
      ¬ (e.kind = .inherit ∧ e.target = some e.fullName))
  /-- Then the references to it are recorded. -/
  recorded : ∀ d, s.table.Finds (dropSigils name) d → s.table.contains d.fullName = true →
    ∀ source ∈ sources, ∀ t ∈ Term.ofLines source.1.normalize (Comment.cleanLines source.2),
      t.text = d.fullName → t.location ∈ s.references.find d.fullName
  /-- If it does not resolve, the answer inherits itself, and the references to
  it are reported. -/
  rejected : ∀ d, s.table.Finds (dropSigils name) d → s.table.contains d.fullName = false →
    (d.kind = .inherit ∧ d.target = some d.fullName) ∧
      ∀ source ∈ sources, ∀ t ∈ Term.ofLines source.1.normalize (Comment.cleanLines source.2),
        t.text = d.fullName → t.report ∈ ReferenceIndex.unresolved s.table source.1.normalize
          (Comment.cleanLines source.2)

/-- The answers of the command in every workspace that is indexed. -/
theorem defining_build (version limit : Nat) (sources : List (Path × Text))
    (failures : List ReadFailure) (s : Snapshot)
    (hbuild : Snapshot.build version (outlinesOf sources) failures limit = .ok s)
    (h : Host) (name : Text) (context : Bool) (out : OutputOptions) :
    Defining h s sources name context out := by
  have hindexed : s.table.Indexed := Table.indexed_build (Snapshot.diagnostics_of_build hbuild).1
  have hfinds {d : Definition} : findDefinition? s (dropSigils name) = some d
      ↔ s.table.Finds (dropSigils name) d := findDefinition?_eq_some_iff hindexed
  have hresolved {source : Path × Text} (hsource : source ∈ sources) {t : Term}
      (ht : t ∈ Term.ofLines source.1.normalize (Comment.cleanLines source.2)) :=
    Term.resolved_of_mem_ofLines ht hbuild (List.mem_map_of_mem hsource)
  constructor
  case succeeds =>
    constructor
    · intro hcode
      cases hanswer : findDefinition? s (dropSigils name) with
      | some d => exact ⟨d, hfinds.1 hanswer⟩
      | none =>
          rw [code_runDefine_of_none hanswer] at hcode
          cases hcode
    · rintro ⟨d, hd⟩
      rw [runDefine_of_some (hfinds.2 hd)]
  case fails =>
    cases hanswer : findDefinition? s (dropSigils name) with
    | some d => exact Or.inl (by rw [runDefine_of_some hanswer])
    | none => exact Or.inr (code_runDefine_of_none hanswer h context out)
  case shows => exact fun d hd => runDefine_of_some (hfinds.2 hd) h context out
  case unique => exact fun d e hd he => Option.some.inj ((hfinds.2 hd).symm.trans (hfinds.2 he))
  case exact =>
    intro hthere
    rw [← hindexed.isSome_lookup, Option.isSome_iff_exists] at hthere
    obtain ⟨d, hd⟩ := hthere
    refine ⟨d, hfinds.1 (by rw [findDefinition?, hd, Option.some_or]), ?_⟩
    rw [hindexed.lookup_eq_find?] at hd
    exact (Definition.answers_iff.1 (List.find?_some hd)).2
  case resolves => exact fun d _ => hindexed.contains_iff
  case recorded =>
    intro d _ hthere source hsource t ht htext
    rw [← htext]
    rw [← htext, ← hindexed.isSome_lookup] at hthere
    exact (hresolved hsource ht).1.1 hthere
  case rejected =>
    intro d hd hmissed
    constructor
    · -- Any other definition would resolve by itself.
      by_contra hother
      rw [hindexed.contains_iff.2 ⟨d, hd.mem, rfl, hother⟩] at hmissed
      exact Bool.noConfusion hmissed
    · intro source hsource t ht htext
      rw [← htext, ← hindexed.isSome_lookup] at hmissed
      exact (hresolved hsource ht).2.1 (by rw [Option.isNone_iff_eq_none]; simpa using hmissed)

/-- A tag in a block, and inherit statements with and without a definition
behind them. -/
def ownText : Text := "CREATE BASE Shop \x7b CREATE TAG Price; \x7d\n?Lib.Shape;\n?Shop.Price;\n"

/-- The file with this text. -/
def ownFile : Path := .parse "/ws/a.mql"

/-- A machine with a workspace of this file. -/
def ownHost : Host :=
  { disk := ⟨.folder [("ws", .folder [("a.mql", .file (.text ownText))])]⟩
    environment := []
    folder := ⟨true, []⟩ }

/-- The name of the tag, in capitals, is answered with the tag. -/
theorem defining_build_ownText :
    ∃ s, Snapshot.build 1 (outlinesOf [(ownFile, ownText)]) [] 100 = .ok s ∧
      (∃ d, s.table.Finds "PRICE" d ∧ d.fullName = "Shop.Price" ∧ d.kind = .tag) ∧
      Defining ownHost s [(ownFile, ownText)] "?PRICE" false ⟨.json, false, false⟩ := by
  have hfacts : (Snapshot.build 1 (outlinesOf [(ownFile, ownText)]) [] 100).toOption.map
      (fun s => (findDefinition? s "PRICE").map fun d => (d.fullName, d.kind))
        = some (some (("Shop.Price" : Text), Kind.tag)) := by
    decide +kernel
  obtain ⟨s, hbuild, hfacts⟩ := exists_ok_of_toOption hfacts
  obtain ⟨d, hd, hfields⟩ := Option.map_eq_some_iff.1 hfacts
  obtain ⟨hname, hkind⟩ := Prod.mk.inj hfields
  have hindexed : s.table.Indexed := Table.indexed_build (Snapshot.diagnostics_of_build hbuild).1
  refine ⟨s, hbuild, ⟨d, (findDefinition?_eq_some_iff hindexed).1 hd, hname, hkind⟩, ?_⟩
  exact defining_build 1 100 [(ownFile, ownText)] [] s hbuild ownHost "?PRICE" false _

/-- The inherit statement that has no definition behind it is the answer to its
own full name, and a reference to that name, the statement itself, is reported
as invalid. -/
theorem unresolved_answer_ownHost :
    (∃ s, (ownHost.rebuild (ownHost.openWorkspace (.parse "/ws"))).1 = .ok s ∧
      (findDefinition? s "Lib.Shape").map Definition.fullName = some ("Lib.Shape" : Text) ∧
      s.table.contains "Lib.Shape" = false ∧
      (ReferenceIndex.unresolved s.table ownFile (Comment.cleanLines ownText)).map
        Diagnostic.display = [("/ws/a.mql:2:2: error: Term: Lib.Shape is invalid!" : Text)]) ∧
    run ownHost ["def", "Lib.Shape", "--root", "/ws", "--format", "text"]
      = ⟨0, "/ws/a.mql:2:2\n", []⟩ ∧
    run ownHost ["refs", "Lib.Shape", "--root", "/ws", "--format", "text"]
      = ⟨1, [], "Definition not found: Lib.Shape\n"⟩ := by
  have hfacts : (ownHost.rebuild (ownHost.openWorkspace (.parse "/ws"))).1.toOption.map
      (fun s => ((findDefinition? s "Lib.Shape").map Definition.fullName,
        s.table.contains "Lib.Shape",
        (ReferenceIndex.unresolved s.table ownFile (Comment.cleanLines ownText)).map
          Diagnostic.display))
      = some (some ("Lib.Shape" : Text), false,
          [("/ws/a.mql:2:2: error: Term: Lib.Shape is invalid!" : Text)]) := by
    decide +kernel
  obtain ⟨s, hrebuild, hfacts⟩ := exists_ok_of_toOption hfacts
  obtain ⟨hfound, hfacts⟩ := Prod.mk.inj hfacts
  obtain ⟨hcontains, hreport⟩ := Prod.mk.inj hfacts
  exact ⟨⟨s, hrebuild, hfound, hcontains, hreport⟩, by decide +kernel, by decide +kernel⟩

end CommandLine

end DefIndex
