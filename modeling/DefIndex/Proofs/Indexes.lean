import DefIndex.Proofs.Arena

/-!
# `DefIndex.Proofs.Indexes`: the indexes of a table say what its list says

A table keeps two indexes beside its list of definitions, and both grow
with every definition that is entered. The one by key keeps the first
definition of a key, whatever it is. The one by full name keeps all
definitions of a name and leaves self-references out.

* `Definition.answers` tells which definitions a reference may mean.
* `Table.Indexed` ties the indexes to the list. `Table.Indexed.push` is the
  step and `Table.indexed_foldl_push` the run.
* `Table.Scanned` says that every look-up is a scan of the list from its
  start, and `Table.scanned_build` proves it for every table that is built.
-/

set_option autoImplicit false

namespace DefIndex

/-- Where a view of a result is known there is a result. -/
theorem exists_ok_of_toOption {ε α β : Type} {e : Except ε α} {f : α → β} {b : β}
    (h : e.toOption.map f = some b) : ∃ a, e = .ok a ∧ f a = b := by
  cases e with
  | error error => cases h
  | ok a => exact ⟨a, rfl, Option.some.inj h⟩

/-- Whether a reference to a full name may mean a definition: it has the
name and is no reference itself. -/
def Definition.answers (n : Text) (d : Definition) : Bool :=
  !d.isSelfReference && decide (d.fullName = n)

/-- A definition is a self-reference if it inherits its own full name. -/
theorem Definition.isSelfReference_iff {d : Definition} :
    d.isSelfReference = true ↔ d.kind = .inherit ∧ d.target = some d.fullName := by
  simp [isSelfReference]

/-- The definitions that a reference to a name may mean. -/
theorem Definition.answers_iff {n : Text} {d : Definition} :
    d.answers n = true ↔ d.isSelfReference = false ∧ d.fullName = n := by
  simp [answers]

namespace Table

/-- Whether a text is a full name of a table: a definition answers to it. -/
def defines (t : Table) (n : Text) : Bool := t.definitions.any (Definition.answers n)

/-! ### Entering definitions -/

/-- The indexes of a table are those of its list. -/
structure Indexed (t : Table) : Prop where
  /-- The definitions are numbered by their places. -/
  numbered : t.definitions.map Definition.id = List.range t.definitions.length
  /-- A full name has the numbers of all definitions that answer to it. -/
  ids : ∀ n, t.idsOf n = (t.definitions.filter (Definition.answers n)).map Definition.id
  /-- A full name is there if a definition answers to it. -/
  names : ∀ n, n ∈ t.byFullName ↔ t.defines n = true
  /-- A key has the number of the first definition with it. -/
  keys : ∀ k, t.keys[k]? = (t.definitions.find? fun d => d.key = k).map Definition.id

/-- The table without definitions. -/
theorem indexed_empty (files : List Path) : Indexed { empty with files := files } where
  numbered := rfl
  ids n := by simp [idsOf, empty]
  names n := by simp [empty, defines]
  keys k := by simp [empty]

/-- Under its name a definition is last in line, unless it answers to none. -/
theorem idsOf_push (t : Table) (d : Definition) (n : Text) :
    (t.push d).idsOf n = t.idsOf n ++ if d.answers n then [d.id] else [] := by
  simp only [idsOf, push]
  by_cases hself : d.isSelfReference = true
  · simp [Definition.answers, hself]
  · rw [if_neg hself, Std.TreeMap.getD_insert]
    by_cases hname : d.fullName = n
    · simp [Definition.answers, hself, hname]
    · simp [Definition.answers, hname]

/-- A definition adds the name that it answers to. -/
theorem mem_byFullName_push (t : Table) (d : Definition) (n : Text) :
    n ∈ (t.push d).byFullName ↔ n ∈ t.byFullName ∨ d.answers n = true := by
  simp only [push, Definition.answers_iff]
  by_cases hself : d.isSelfReference = true
  · simp [hself]
  · rw [if_neg hself, Std.TreeMap.mem_insert]
    simp [hself, or_comm]

/-- A definition is put under its key unless an earlier one is there. -/
theorem getElem?_keys_push (t : Table) (d : Definition) (k : Key) :
    (t.push d).keys[k]? = t.keys[k]?.or (if d.key = k then some d.id else none) := by
  simp only [push, Std.TreeMap.getElem?_insertIfNew, Std.compare_eq_iff_eq]
  by_cases hkey : d.key = k
  · subst hkey
    by_cases hthere : d.key ∈ t.keys
    · simp [hthere]
    · simp [hthere]
  · simp [hkey]

/-- Entering a definition of the next number keeps the indexes right. -/
theorem Indexed.push {t : Table} (h : t.Indexed) {d : Definition}
    (hid : d.id = t.definitions.length) : (t.push d).Indexed where
  numbered := by
    simp only [Table.push, List.map_append, List.map_cons, List.map_nil, List.length_append,
      List.length_singleton, List.range_succ, h.numbered, hid]
  ids n := by
    rw [idsOf_push, h.ids, Table.push, List.filter_append, List.map_append]
    by_cases hanswers : d.answers n = true <;> simp [hanswers]
  names n := by
    rw [mem_byFullName_push, h.names]
    simp [Table.push, defines]
  keys k := by
    rw [getElem?_keys_push, h.keys, Table.push, List.find?_append, Option.map_or]
    by_cases hkey : d.key = k <;> simp [hkey]

/-- Entering definitions that are numbered on keeps the indexes right. -/
theorem Indexed.foldl_push {t : Table} (h : t.Indexed) {ds : List Definition}
    (hids : ds.map Definition.id = List.range' t.definitions.length ds.length) :
    (ds.foldl Table.push t).Indexed := by
  induction ds generalizing t with
  | nil => exact h
  | cons d ds ih =>
      rw [List.map_cons, List.length_cons, List.range'_succ, List.cons.injEq] at hids
      refine ih (h.push hids.1) ?_
      rw [hids.2, Table.push, List.length_append, List.length_singleton]

/-- The indexes of a table that is built are right. -/
theorem indexed_build {outlines : List Outline} {t : Table}
    (h : Table.build outlines = .ok t) : t.Indexed := by
  obtain ⟨forest, -, rfl⟩ := spliceAll_of_build_ok h
  refine (indexed_empty _).foldl_push ?_
  have hids := Splice.map_id_layoutAll .empty none [] 0 forest
  have hlength := congrArg List.length hids
  rw [List.length_map, List.length_range'] at hlength
  rw [definitionsOf, hids, hlength]
  rfl

/-! ### Looking up -/

section Lookup

variable {t : Table}

/-- The number of a definition leads to it. -/
theorem Indexed.get?_id (h : t.Indexed) {d : Definition} (hd : d ∈ t.definitions) :
    t.get? d.id = some d := by
  obtain ⟨i, hi⟩ := List.getElem?_of_mem hd
  have hid : (t.definitions.map Definition.id)[i]? = some d.id := by
    rw [List.getElem?_map, hi, Option.map_some]
  rw [h.numbered, List.getElem?_range (List.getElem?_eq_some_iff.1 hi).1,
    Option.some.injEq] at hid
  rw [get?, ← hid, hi]

/-- The numbers of definitions lead to them. -/
theorem Indexed.filterMap_get? (h : t.Indexed) {ds : List Definition}
    (hds : ∀ d ∈ ds, d ∈ t.definitions) : (ds.map Definition.id).filterMap t.get? = ds := by
  rw [List.filterMap_map]
  have hget : ∀ d ∈ ds, (t.get? ∘ Definition.id) d = some d := fun d hd => h.get?_id (hds d hd)
  rw [List.filterMap_congr hget, List.filterMap_some]

/-- A look-up by name finds the first definition that answers to it. -/
theorem Indexed.lookup_eq_find? (h : t.Indexed) (n : Text) :
    t.lookup n = t.definitions.find? (Definition.answers n) := by
  rw [lookup, h.ids, List.head?_map, List.head?_filter]
  cases hfound : t.definitions.find? (Definition.answers n) with
  | none => rfl
  | some d => exact h.get?_id (List.mem_of_find?_eq_some hfound)

/-- A look-up by key finds the first definition with it. -/
theorem Indexed.byKey?_eq_find? (h : t.Indexed) (k : Key) :
    t.byKey? k = t.definitions.find? fun d => d.key = k := by
  rw [byKey?, h.keys]
  cases hfound : t.definitions.find? fun d => d.key = k with
  | none => rfl
  | some d => exact h.get?_id (List.mem_of_find?_eq_some hfound)

/-- A full name is one that a definition answers to. -/
theorem Indexed.contains_eq_defines (h : t.Indexed) (n : Text) :
    t.contains n = t.defines n := by
  rw [Bool.eq_iff_iff, ← h.names n]
  rfl

/-- A full name is one that a look-up finds something for. -/
theorem Indexed.isSome_lookup (h : t.Indexed) (n : Text) :
    (t.lookup n).isSome = t.contains n := by
  rw [h.lookup_eq_find?, List.isSome_find?, h.contains_eq_defines]
  rfl

/-- A full name is there if a definition with it does not inherit itself. -/
theorem Indexed.contains_iff (h : t.Indexed) {n : Text} :
    t.contains n = true ↔ ∃ d ∈ t.definitions, d.fullName = n ∧
      ¬ (d.kind = .inherit ∧ d.target = some d.fullName) := by
  rw [h.contains_eq_defines, defines, List.any_eq_true]
  refine exists_congr fun d => and_congr_right fun _ => ?_
  rw [Definition.answers_iff, ← Definition.isSelfReference_iff, Bool.not_eq_true, and_comm]

/-- The full names of a table are those that definitions answer to. -/
theorem Indexed.mem_fullNames (h : t.Indexed) {n : Text} :
    n ∈ t.fullNames ↔ t.defines n = true := by
  rw [fullNames, Std.TreeMap.mem_keys, h.names n]

/-- The full names of a table go up. -/
theorem pairwise_fullNames (t : Table) :
    t.fullNames.Pairwise fun a b => compare a b = .lt :=
  Std.TreeMap.ordered_keys

/-! ### Searching -/

/-- The definitions that are left when each full name keeps its first one. -/
theorem getElem?_firsts (ds : List Definition) (seen : Std.TreeMap Text Definition) (n : Text) :
    (ds.foldl (fun (seen : Std.TreeMap Text Definition) d =>
        seen.insertIfNew d.fullName d) seen)[n]?
      = seen[n]?.or (ds.find? fun d => d.fullName = n) := by
  induction ds generalizing seen with
  | nil => simp
  | cons d ds ih =>
      simp only [List.foldl_cons, ih, Std.TreeMap.getElem?_insertIfNew, List.find?_cons,
        Std.compare_eq_iff_eq]
      by_cases hname : d.fullName = n
      · subst hname
        by_cases hthere : d.fullName ∈ seen <;> simp [hthere]
      · simp [hname]

/-- The values of a map in order are what its keys lead to. -/
theorem map_some_values {κ α : Type} {cmp : κ → κ → Ordering} [Std.TransCmp cmp]
    [Std.LawfulEqCmp cmp] (m : Std.TreeMap κ α cmp) :
    m.values.map some = m.keys.map fun k => m[k]? := by
  -- Keys and values are the two sides of the entries.
  have hvalues : m.values = m.toList.map Prod.snd := by
    have hfold : m.values = m.foldr (fun _ a as => a :: as) [] := rfl
    rw [hfold, Std.TreeMap.foldr_eq_foldr_toList]
    induction m.toList with
    | nil => rfl
    | cons entry entries ih => rw [List.foldr_cons, ih, List.map_cons]
  rw [hvalues, ← Std.TreeMap.map_fst_toList_eq_keys, List.map_map, List.map_map]
  refine List.map_congr_left fun entry hentry => ?_
  exact (Std.TreeMap.mem_toList_iff_getElem?_eq_some.1 hentry).symm

/-- Texts that go up are known by which texts they are. -/
theorem eq_of_pairwise_lt {ns ms : List Text} (hns : ns.Pairwise fun a b => compare a b = .lt)
    (hms : ms.Pairwise fun a b => compare a b = .lt) (hmem : ∀ n, n ∈ ns ↔ n ∈ ms) :
    ns = ms := by
  have hnodup {ts : List Text} (hts : ts.Pairwise fun a b => compare a b = .lt) : ts.Nodup :=
    hts.imp fun {a b} hlt heq => by simp [heq] at hlt
  refine List.Perm.eq_of_pairwise (fun a b _ _ hab hba => ?_) hns hms
    ((List.perm_ext_iff_of_nodup (hnodup hns) (hnodup hms)).2 hmem)
  exact absurd hba (Std.OrientedCmp.not_lt_of_lt hab)

/-- A search is a look-up of every full name that matches. -/
theorem Indexed.map_some_search (h : t.Indexed) (p : Text) :
    (t.search p).map some = (t.fullNames.filter (Pattern.holds p)).map t.lookup := by
  let found := t.definitions.filter fun d =>
    !d.isSelfReference && Pattern.holds p d.fullName
  let firsts := found.foldl (fun (seen : Std.TreeMap Text Definition) d =>
    seen.insertIfNew d.fullName d) ∅
  -- A name that matches keeps the definition that a look-up finds, any other
  -- name none.
  have hfirsts (n : Text) : firsts[n]? = if Pattern.holds p n then t.lookup n else none := by
    rw [getElem?_firsts, Std.TreeMap.getElem?_emptyc, Option.none_or, List.find?_filter,
      h.lookup_eq_find?]
    split
    next hholds =>
      refine congrArg (List.find? · t.definitions) (funext fun d => ?_)
      by_cases hname : d.fullName = n
      · simp [Definition.answers, hname, hholds]
      · simp [Definition.answers, hname]
    next hholds =>
      rw [List.find?_eq_none]
      rintro d - hd
      simp only [Bool.and_eq_true, decide_eq_true_eq] at hd
      exact hholds (hd.2 ▸ hd.1.2)
  have hkeys : firsts.keys = t.fullNames.filter (Pattern.holds p) := by
    refine eq_of_pairwise_lt Std.TreeMap.ordered_keys ((pairwise_fullNames t).filter _) fun n => ?_
    rw [Std.TreeMap.mem_keys, Std.TreeMap.mem_iff_isSome_getElem?, hfirsts, List.mem_filter,
      h.mem_fullNames, h.lookup_eq_find?]
    by_cases hholds : Pattern.holds p n = true <;> simp [hholds, defines]
  show firsts.values.map some = _
  rw [map_some_values, hkeys]
  refine List.map_congr_left fun n hn => ?_
  rw [hfirsts, if_pos (List.mem_filter.1 hn).2]

end Lookup

/-! ### Tables that are built -/

/-- Every look-up in a table is a scan of its list from the start. -/
structure Scanned (t : Table) : Prop where
  /-- The list is in order of the numbers. -/
  numbered : t.definitions.map Definition.id = List.range t.definitions.length
  /-- A name means the first definition that answers to it. -/
  lookup : ∀ n, t.lookup n = t.definitions.find? (Definition.answers n)
  /-- All meanings of a name are the definitions that answer to it. -/
  lookupAll : ∀ n, t.lookupAll n = t.definitions.filter (Definition.answers n)
  /-- A name is defined if a definition answers to it. -/
  contains : ∀ n, t.contains n = true ↔ ∃ d ∈ t.definitions, d.answers n = true
  /-- The full names are those that definitions answer to. -/
  fullNames : ∀ n, n ∈ t.fullNames ↔ ∃ d ∈ t.definitions, d.answers n = true
  /-- Each stands once, and they go up. -/
  ordered : t.fullNames.Pairwise fun a b => compare a b = .lt
  /-- A key means the first definition with its context, name and file,
  also a self-reference. -/
  byKey : ∀ k, t.byKey? k = t.definitions.find? fun d =>
    d.context = k.context ∧ d.name = k.name ∧ d.location.file = k.file
  /-- A search looks up the full names that match, in their order, and each
  look-up finds a definition. -/
  search : ∀ p, (t.search p).map some = (t.fullNames.filter (Pattern.holds p)).map t.lookup

/-- Whatever a table is built from, its indexes and its list agree. -/
theorem scanned_build (outlines : List Outline) (t : Table)
    (h : Table.build outlines = .ok t) : t.Scanned := by
  have hindexed := indexed_build h
  refine ⟨hindexed.numbered, hindexed.lookup_eq_find?, fun n => ?_, fun n => ?_, fun n => ?_,
    pairwise_fullNames t, fun k => ?_, hindexed.map_some_search⟩
  · rw [lookupAll, hindexed.ids]
    exact hindexed.filterMap_get? fun d hd => (List.mem_filter.1 hd).1
  · rw [hindexed.contains_eq_defines, defines, List.any_eq_true]
  · rw [hindexed.mem_fullNames, defines, List.any_eq_true]
  · rw [hindexed.byKey?_eq_find?]
    refine congrArg (List.find? · t.definitions) (funext fun d => decide_eq_decide.2 ?_)
    rw [Key.mk.injEq .., Definition.key]

/-- A name that two files declare, another one that a file declares twice,
and inherit statements with and without an alias. -/
def aliasSources : List (Path × Text) :=
  [(.parse "/ws/a.mql", "CREATE BASE Shop { CREATE TAG Price; }\n?Shop.Price;\n?Shop AS Store;"),
    (.parse "/ws/b.mql", "CREATE BASE Shop { CREATE TAG Price; CREATE INT Price; }")]

/-- Where a name has three definitions and a reference to itself, the
look-ups are scans. -/
theorem scanned_build_aliasSources :
    ∃ t, Table.build (outlinesOf aliasSources) = .ok t ∧
      (t.lookupAll "Shop.Price").map Definition.id = [1, 5, 6] ∧ t.definitions.length = 7 ∧
        t.Scanned := by
  have hfacts : (Table.build (outlinesOf aliasSources)).toOption.map
      (fun t => ((t.lookupAll "Shop.Price").map Definition.id, t.definitions.length))
        = some ([1, 5, 6], 7) := by decide +kernel
  obtain ⟨t, hbuild, hfacts⟩ := exists_ok_of_toOption hfacts
  obtain ⟨hall, hlength⟩ := Prod.mk.inj hfacts
  exact ⟨t, hbuild, hall, hlength, scanned_build _ t hbuild⟩

end Table

end DefIndex
