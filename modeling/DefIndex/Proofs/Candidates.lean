import Mathlib.Data.List.TakeWhile
import DefIndex.Completion
import DefIndex.Proofs.Dotted
import DefIndex.Proofs.FirstPerKey
import DefIndex.Proofs.Indexes

/-!
# `DefIndex.Proofs.Candidates`: what completion offers

Completion goes down the links of the tree: everything before the last dot
names a definition, and the candidates are the definitions directly below
it. A reference is resolved by the index of full names, which leaves
self-references out. So a candidate can be offered, be accepted, and still
not resolve.

* `Completion.owner?_eq` says what is read of typed text, without cutting.
* `Completion.offered_build` is the statement about candidates. The label
  behind the place that was typed is the full name of a definition, and it
  fails to resolve only if every definition with that name inherits itself.
* `Completion.unresolved_offer_ownSources` is a candidate that does not
  resolve.
-/

set_option autoImplicit false

namespace DefIndex

/-! ### The tree of a table -/

namespace Table

variable {outlines : List Outline} {t : Table}

/-- What is directly below a name is directly under its first definition. -/
theorem children_build (h : Table.build outlines = .ok t) {n : Text} {d : Definition}
    (hd : t.lookup n = some d) : t.children n = directlyUnder (some d.id) t.definitions := by
  have hindexed := indexed_build h
  have hmem : d ∈ t.definitions := by
    rw [hindexed.lookup_eq_find?] at hd
    exact List.mem_of_find?_eq_some hd
  have hentries : d.childEntries = (directlyUnder (some d.id) t.definitions).map Definition.id := by
    obtain ⟨forest, -, rfl⟩ := spliceAll_of_build_ok h
    rw [definitions_foldl_push] at hmem ⊢
    exact childEntries_of_mem_definitionsOf hmem
  rw [children, hd]
  show d.childEntries.filterMap t.get? = _
  rw [hentries]
  exact hindexed.filterMap_get? fun e he => (List.mem_filter.1 he).1

/-- A definition is qualified by what it stands under. -/
theorem fullName_build (h : Table.build outlines = .ok t) {d : Definition}
    (hd : d ∈ t.definitions) :
    d.parent = none ∧ d.fullName = qualify [] d.name ∨
      ∃ e, t.get? e.id = some e ∧ d.parent = some e.id ∧
        d.fullName = qualify e.fullName d.name := by
  obtain ⟨forest, -, rfl⟩ := spliceAll_of_build_ok h
  rw [definitions_foldl_push] at hd
  rw [fullName_of_mem_definitionsOf hd]
  rcases above_of_mem_definitionsOf hd with ⟨hparent, hcontext⟩ | ⟨e, he, -, hparent, hcontext⟩
  · exact Or.inl ⟨hparent, by rw [hcontext]⟩
  · refine Or.inr ⟨e, ?_, hparent, by rw [hcontext]⟩
    rw [get?, definitions_foldl_push]
    exact he

end Table

/-! ### Typed text -/

namespace Completion

/-- What typed text says about the place of a name: everything before the
last dot, without one mark of a reference at its start. It is empty where
no dot was typed. -/
def place (typed : Text) : Text :=
  dropSigil (Text.dropEndWhile (· != '.') typed).dropLast

/-- The characters behind the last dot, from the right. -/
theorem ne_dot_of_mem_reverse {last : Text} (h : '.' ∉ last) :
    ∀ c ∈ last.reverse, (c != '.') = true := by
  intro c hc
  rw [bne_iff_ne]
  rintro rfl
  exact h (List.mem_reverse.1 hc)

/-- The place is what stands in front of the last dot. -/
theorem place_append (front : Text) {last : Text} (h : '.' ∉ last) :
    place (front ++ '.' :: last) = dropSigil front := by
  have hdrop : (last.reverse ++ '.' :: front.reverse).dropWhile (· != '.')
      = '.' :: front.reverse := by
    rw [List.dropWhile_append_of_pos (ne_dot_of_mem_reverse h)]
    rfl
  simp [place, Text.dropEndWhile, hdrop]

/-- Without a dot the place is empty. -/
theorem place_of_notMem {typed : Text} (h : '.' ∉ typed) : place typed = [] := by
  have hdrop : typed.reverse.dropWhile (· != '.') = [] :=
    List.dropWhile_eq_nil_iff.2 (ne_dot_of_mem_reverse h)
  simp [place, Text.dropEndWhile, hdrop, dropSigil]

/-- The mark of a reference is dropped from the first piece or from all. -/
theorem join_dropSigil (first : Text) (rest : List Text) :
    Text.join ['.'] (dropSigil first :: rest) = dropSigil (Text.join ['.'] (first :: rest)) := by
  cases rest with
  | nil => rfl
  | cons piece pieces =>
      cases first with
      | nil => rfl
      | cons c cs =>
          by_cases hc : c = '?'
          · subst hc
            rfl
          · simp [dropSigil, Text.join, hc]

/-- A name is looked up exactly where a dot was typed, and it is the place. -/
theorem owner?_eq (typed : Text) :
    owner? typed = if '.' ∈ typed then some (place typed) else none := by
  split
  next hdot =>
    obtain ⟨front, last, rfl, hlast⟩ := Text.exists_last_of_mem hdot
    rw [place_append front hlast, owner?, Text.cut_append_cons, Text.cut_of_notMem hlast,
      List.dropLast_concat]
    cases hfront : Text.cut '.' front with
    | nil => exact absurd hfront (Text.cut_ne_nil '.' front)
    | cons first rest =>
        simp only
        rw [join_dropSigil, ← hfront, Text.join_cut]
  next hdot => rw [owner?, Text.cut_of_notMem hdot]; rfl

/-! ### Candidates -/

section Offered

variable {outlines : List Outline} {t : Table}

/-- The definitions that typed text is about: those directly below the place,
or at the top where no dot was typed. -/
def StandsBelow (t : Table) (typed : Text) (d : Definition) : Prop :=
  if '.' ∈ typed then ∃ e, t.lookup (place typed) = some e ∧ d.parent = some e.id
  else d.parent = none ∧ d.isSelfReference = false

/-- The definitions that candidates are made of. -/
theorem mem_candidates_iff (h : Table.build outlines = .ok t) {typed : Text} {d : Definition} :
    (d ∈ match owner? typed with
      | none => t.roots
      | some owner => t.children owner) ↔ d ∈ t.definitions ∧ StandsBelow t typed d := by
  rw [owner?_eq, StandsBelow]
  split_ifs with hdot
  · simp only
    constructor
    · intro hd
      cases hfound : t.lookup (place typed) with
      | none => simp [Table.children, hfound] at hd
      | some e =>
          rw [Table.children_build h hfound] at hd
          obtain ⟨hmem, hparent⟩ := List.mem_filter.1 hd
          exact ⟨hmem, e, rfl, of_decide_eq_true hparent⟩
    · rintro ⟨hmem, e, hfound, hparent⟩
      rw [Table.children_build h hfound]
      exact List.mem_filter.2 ⟨hmem, decide_eq_true hparent⟩
  · simp [Table.roots]

/-- A definition that is offered has the place in front of its name. -/
theorem StandsBelow.fullName_eq (h : Table.build outlines = .ok t) {typed : Text}
    {d : Definition} (hd : d ∈ t.definitions) (hbelow : StandsBelow t typed d) :
    d.fullName = qualify (place typed) d.name := by
  rw [StandsBelow] at hbelow
  split_ifs at hbelow with hdot
  · obtain ⟨e, hfound, hparent⟩ := hbelow
    have hindexed := Table.indexed_build h
    rw [hindexed.lookup_eq_find?] at hfound
    have he := hindexed.get?_id (List.mem_of_find?_eq_some hfound)
    have hname := (Definition.answers_iff.1 (List.find?_some hfound)).2
    rcases Table.fullName_build h hd with ⟨hnone, -⟩ | ⟨f, hf, hparent', hfull⟩
    · rw [hnone] at hparent
      cases hparent
    · -- Both are the definition with the number of the parent.
      rw [Option.some.inj (hparent'.symm.trans hparent), he, Option.some.injEq] at hf
      rw [hfull, ← hf, hname]
  · rcases Table.fullName_build h hd with ⟨-, hfull⟩ | ⟨e, -, hparent, -⟩
    · rw [hfull, place_of_notMem hdot]
    · rw [hbelow.1] at hparent
      cases hparent

/-- What completion offers for typed text. -/
structure Offered (t : Table) (typed : Text) : Prop where
  /-- No label is offered twice. -/
  once : ((members t typed).map Candidate.label).Nodup
  /-- The labels are the names of the definitions that the text is about. -/
  labels : ∀ n, n ∈ (members t typed).map Candidate.label ↔
    ∃ d ∈ t.definitions, StandsBelow t typed d ∧ d.name = n
  /-- The detail is the label behind the place. -/
  detail : ∀ c ∈ members t typed, c.detail = some (qualify (place typed) c.label)
  /-- It resolves, unless every definition with that full name inherits
  itself. -/
  resolves : ∀ c ∈ members t typed,
    t.contains (qualify (place typed) c.label) = true ↔
      ∃ d ∈ t.definitions, d.fullName = qualify (place typed) c.label ∧
        ¬ (d.kind = .inherit ∧ d.target = some d.fullName)
  /-- Without a dot it resolves. -/
  top : '.' ∉ typed → ∀ c ∈ members t typed,
    t.contains (qualify (place typed) c.label) = true
  /-- What is declared by keyword resolves. -/
  keyword : ∀ c ∈ members t typed, c.kind ≠ .definition .inherit →
    t.contains (qualify (place typed) c.label) = true

/-- Every candidate is a definition that the text is about. -/
theorem exists_of_mem_members (h : Table.build outlines = .ok t) {typed : Text} {c : Candidate}
    (hc : c ∈ members t typed) :
    ∃ d ∈ t.definitions, StandsBelow t typed d ∧ c = Candidate.ofDefinition d := by
  obtain ⟨d, hd, rfl⟩ := List.mem_map.1 hc
  obtain ⟨hmem, hbelow⟩ := (mem_candidates_iff h).1 (mem_of_mem_firstPerKey hd)
  exact ⟨d, hmem, hbelow, rfl⟩

/-- Whatever is typed, the candidates are the definitions below it, each name
once, and they resolve unless all that could answer inherits itself. -/
theorem offered_build (outlines : List Outline) (t : Table) (h : Table.build outlines = .ok t)
    (typed : Text) : Offered t typed := by
  have hindexed := Table.indexed_build h
  have hlabels : (members t typed).map Candidate.label
      = (firstPerKey Definition.name (match owner? typed with
        | none => t.roots
        | some owner => t.children owner)).map Definition.name := by
    rw [members, List.map_map]
    rfl
  -- A candidate resolves if the definition it was made of is none of these.
  have hplain {c : Candidate} {d : Definition} (hd : d ∈ t.definitions)
      (hbelow : StandsBelow t typed d) (hc : c = Candidate.ofDefinition d)
      (hself : d.isSelfReference = false) : t.contains (qualify (place typed) c.label) = true := by
    subst hc
    refine hindexed.contains_iff.2 ⟨d, hd, hbelow.fullName_eq h hd, ?_⟩
    rw [← Definition.isSelfReference_iff, hself]
    exact Bool.false_ne_true
  refine ⟨?_, fun n => ?_, fun c hc => ?_, fun c _ => hindexed.contains_iff,
    fun hdot c hc => ?_, fun c hc hkind => ?_⟩
  · rw [hlabels]
    exact nodup_map_firstPerKey _
  · rw [hlabels, mem_map_firstPerKey, List.mem_map]
    simp only [mem_candidates_iff h, and_assoc]
  · obtain ⟨d, hd, hbelow, rfl⟩ := exists_of_mem_members h hc
    exact congrArg some (hbelow.fullName_eq h hd)
  · obtain ⟨d, hd, hbelow, hcandidate⟩ := exists_of_mem_members h hc
    have htop := hbelow
    rw [StandsBelow, if_neg hdot] at htop
    exact hplain hd hbelow hcandidate htop.2
  · obtain ⟨d, hd, hbelow, hcandidate⟩ := exists_of_mem_members h hc
    refine hplain hd hbelow hcandidate ?_
    rw [Bool.eq_false_iff, ne_eq, Definition.isSelfReference_iff]
    rintro ⟨hinherit, -⟩
    rw [hcandidate] at hkind
    exact hkind (congrArg CandidateKind.definition hinherit)

/-- A declaration, an import, and three inherit statements, one of which gives
the last name of its target to what it declares. -/
def ownSources : List (Path × Text) :=
  [(.parse "/ws/a.mql", "CREATE BASE A { ?A.B AS B; CREATE TAG C; ?D AS C; IMPORT b; }"),
    (.parse "/ws/b.mql", "?E AS F;")]

/-- What the table of these files says. -/
theorem exists_build_ownSources :
    ∃ t, Table.build (outlinesOf ownSources) = .ok t ∧
      members t "?A.x" = [⟨"B", .definition .inherit, some "A.B"⟩,
        ⟨"C", .definition .tag, some "A.C"⟩, ⟨"F", .definition .inherit, some "A.F"⟩] ∧
      t.contains "A.B" = false := by
  have hfacts : (Table.build (outlinesOf ownSources)).toOption.map
      (fun t => (members t "?A.x", t.contains "A.B"))
        = some ([⟨"B", .definition .inherit, some "A.B"⟩, ⟨"C", .definition .tag, some "A.C"⟩,
          ⟨"F", .definition .inherit, some "A.F"⟩], false) := by decide +kernel
  obtain ⟨t, hbuild, hfacts⟩ := exists_ok_of_toOption hfacts
  obtain ⟨hmembers, hcontains⟩ := Prod.mk.inj hfacts
  exact ⟨t, hbuild, hmembers, hcontains⟩

/-- Below `A` three names are offered. -/
theorem offered_build_ownSources :
    ∃ t, Table.build (outlinesOf ownSources) = .ok t ∧
      (members t "?A.x").map Candidate.label = [['B'], ['C'], ['F']] ∧ Offered t "?A.x" := by
  obtain ⟨t, hbuild, hmembers, -⟩ := exists_build_ownSources
  exact ⟨t, hbuild, by rw [hmembers]; rfl, offered_build _ t hbuild "?A.x"⟩

/-- One of them does not resolve: `A.B` inherits `A.B`. -/
theorem unresolved_offer_ownSources :
    ∃ t, Table.build (outlinesOf ownSources) = .ok t ∧
      ∃ c ∈ members t "?A.x", c.detail = some "A.B" ∧ t.contains "A.B" = false := by
  obtain ⟨t, hbuild, hmembers, hcontains⟩ := exists_build_ownSources
  refine ⟨t, hbuild, ⟨"B", .definition .inherit, some "A.B"⟩, ?_, rfl, hcontains⟩
  rw [hmembers]
  exact List.mem_cons_self

end Offered

end Completion

end DefIndex
