import DefIndex.Proofs.Instances

/-!
# `DefIndex.Proofs.Arena`: the definitions of a table are a tree in a list

A table keeps its definitions in one list, and a definition names those
around it by their places in that list. `Arena` says that the links fit:
numbers are places, a definition stands behind the one above it and has
its full name as the context, the children of a definition are exactly
those that name it as their parent, and all that stands below a
definition stands right behind it.

* `Splice.Subtree` is one definition of a layout with what is laid out
  below it. `Splice.exists_subtree` finds it for every definition, and
  every field of `Arena` but the last is read off it.
* `Splice.parent_layoutAll`: what is directly above a definition.
* `Splice.tops_layoutAll`: what stands directly under the place that a
  forest is laid out at.
* `Unfolds.nodes`: what the parts of a declaration are in an unfolding.
  This gives the order of the children: first those of the file, then
  those of each imported file.
* `Table.arena_build` puts it together for a table.
-/

set_option autoImplicit false

namespace DefIndex

/-- The definitions of a list directly under a place. -/
def directlyUnder (up : Option Nat) (ds : List Definition) : List Definition :=
  ds.filter fun e => e.parent = up

/-- The definition at `p` stands directly above the one at `i`. -/
def StandsOver (ds : List Definition) (p i : Nat) : Prop :=
  ∃ e, ds[i]? = some e ∧ e.parent = some p

namespace Splice

/-! ### One definition of a layout -/

/-- The numbers of a layout. -/
theorem id_of_mem_layoutAll {path : Path} {up : Option Nat} {context : Text} {next : Nat}
    {trees : List Splice} {e : Definition} (he : e ∈ layoutAll path up context next trees) :
    next ≤ e.id ∧ e.id < next + sizeAll trees := by
  have hid : e.id ∈ (layoutAll path up context next trees).map Definition.id :=
    List.mem_map_of_mem he
  rw [map_id_layoutAll] at hid
  exact List.mem_range'_1.1 hid

/-- What stands directly above a definition of a layout: the place that is
laid out at, or an earlier definition of the layout. The context is the
full name of what is above. -/
def RisesTo (up : Option Nat) (context : Text) (ds : List Definition) (e : Definition) : Prop :=
  e.parent = up ∧ e.context = context ∨
    ∃ f ∈ ds, f.id < e.id ∧ e.parent = some f.id ∧ e.context = f.fullName

/-- More definitions change nothing about what is above. -/
theorem RisesTo.mono {up : Option Nat} {context : Text} {ds more : List Definition}
    {e : Definition} (h : RisesTo up context ds e) (hsub : ds ⊆ more) :
    RisesTo up context more e := by
  rcases h with htop | ⟨f, hf, habove⟩
  · exact Or.inl htop
  · exact Or.inr ⟨f, hsub hf, habove⟩

mutual

/-- What stands directly above a definition of a tree. -/
theorem parent_layout (path : Path) (up : Option Nat) (context : Text) (next : Nat) :
    (tree : Splice) → ∀ e ∈ layout path up context next tree,
      RisesTo up context (layout path up context next tree) e
  | file path parts => by
      rw [layout]
      exact parent_layoutAll path up context next parts
  | declaration d parts => by
      rw [layout]
      refine List.forall_mem_cons.2 ⟨Or.inl ⟨rfl, rfl⟩, fun e he => ?_⟩
      -- At the top inside is what stands directly under the declaration.
      rcases parent_layoutAll path (some next) (qualify context d.name) (next + 1) parts e he with
        ⟨hparent, hcontext⟩ | ⟨f, hf, habove⟩
      · exact Or.inr ⟨_, List.mem_cons_self, (id_of_mem_layoutAll he).1, hparent, hcontext⟩
      · exact Or.inr ⟨f, List.mem_cons_of_mem _ hf, habove⟩

/-- What stands directly above a definition of a forest. -/
theorem parent_layoutAll (path : Path) (up : Option Nat) (context : Text) (next : Nat) :
    (trees : List Splice) → ∀ e ∈ layoutAll path up context next trees,
      RisesTo up context (layoutAll path up context next trees) e
  | [] => by
      intro e he
      cases he
  | tree :: trees => by
      rw [layoutAll]
      intro e he
      rcases List.mem_append.1 he with he | he
      · exact (parent_layout path up context next tree e he).mono (List.subset_append_left _ _)
      · exact (parent_layoutAll path up context (next + size tree) trees e he).mono
          (List.subset_append_right _ _)

end

/-- The definition above one of a layout stands before the layout or in
it. -/
theorem parent_of_mem_layoutAll {path : Path} {up : Option Nat} {context : Text} {next : Nat}
    {trees : List Splice} {e : Definition} (he : e ∈ layoutAll path up context next trees) :
    e.parent = up ∨ ∃ p, e.parent = some p ∧ next ≤ p ∧ p < e.id := by
  rcases parent_layoutAll path up context next trees e he with ⟨hparent, -⟩ | ⟨f, hf, hlt, h, -⟩
  · exact Or.inl hparent
  · exact Or.inr ⟨f.id, h, (id_of_mem_layoutAll hf).1, hlt⟩

/-- A definition of a list with all that is laid out below it: the forest
of its declaration stands right behind it, and what follows stands under
none of these. -/
structure Subtree (ds : List Definition) (e : Definition) (path : Path) (d : Declaration)
    (parts : List Splice) : Prop where
  /-- It is the instance of the declaration. -/
  eq_instantiate : e = instantiate path e.parent e.context e.id d parts
  /-- What is below it, and what follows. -/
  split : ∃ before after,
    ds = before ++ e :: (layoutAll path (some e.id) e.fullName (e.id + 1) parts ++ after) ∧
      ∀ x ∈ after, ∀ p, x.parent = some p → p < e.id ∨ e.id + 1 + sizeAll parts ≤ p

namespace Subtree

variable {ds : List Definition} {e : Definition} {path : Path} {d : Declaration}
  {parts : List Splice}

/-- Definitions in front do not matter. -/
theorem append_left (h : Subtree ds e path d parts) (front : List Definition) :
    Subtree (front ++ ds) e path d parts := by
  obtain ⟨before, after, hds, hafter⟩ := h.split
  exact ⟨h.eq_instantiate, front ++ before, after, by rw [hds, List.append_assoc], hafter⟩

/-- Definitions behind do not matter if they stand under none of those
below. -/
theorem append_right (h : Subtree ds e path d parts) {more : List Definition}
    (hmore : ∀ x ∈ more, ∀ p, x.parent = some p → p < e.id ∨ e.id + 1 + sizeAll parts ≤ p) :
    Subtree (ds ++ more) e path d parts := by
  obtain ⟨before, after, hds, hafter⟩ := h.split
  refine ⟨h.eq_instantiate, before, after ++ more, ?_, fun x hx => ?_⟩
  · simp only [hds, List.append_assoc, List.cons_append]
  · exact (List.mem_append.1 hx).elim (hafter x) (hmore x)

/-- A definition ends with what is below it inside the list. -/
theorem lt_of_ids (h : Subtree ds e path d parts) {next size : Nat}
    (hids : ds.map Definition.id = List.range' next size) :
    next ≤ e.id ∧ e.id + 1 + sizeAll parts ≤ next + size := by
  obtain ⟨before, after, hds, -⟩ := h.split
  have hlength := congrArg List.length hids
  have hinside := congrArg List.length
    (map_id_layoutAll path (some e.id) e.fullName (e.id + 1) parts)
  simp only [List.length_map, List.length_range'] at hlength hinside
  -- The number of the definition at place `before.length`.
  have hplace : e.id = next + before.length := by
    have hid : (ds.map Definition.id)[before.length]? = some e.id := by
      rw [hds, List.getElem?_map, List.getElem?_append_right (Nat.le_refl _), Nat.sub_self]
      rfl
    have hlt : before.length < size := by
      rw [← hlength, hds]
      simp only [List.length_append, List.length_cons]
      omega
    rw [hids, List.getElem?_range' hlt, Option.some.injEq] at hid
    omega
  rw [hds] at hlength
  simp only [List.length_append, List.length_cons, hinside] at hlength
  omega

end Subtree

mutual

/-- The declarations of a tree that stands in the file `path`, each with
its own file and its parts. -/
def nodes (path : Path) : Splice → List (Path × Declaration × List Splice)
  | file path parts => nodesAll path parts
  | declaration d parts => (path, d, parts) :: nodesAll path parts

/-- The declarations of a forest, each with its own file and its parts. -/
def nodesAll (path : Path) : List Splice → List (Path × Declaration × List Splice)
  | [] => []
  | tree :: trees => nodes path tree ++ nodesAll path trees

end

mutual

/-- Every definition of a tree stands with what is laid out below it. -/
theorem exists_subtree_layout (path : Path) (up : Option Nat) (context : Text) (next : Nat)
    (hup : ∀ q, up = some q → q < next) :
    (tree : Splice) → ∀ e ∈ layout path up context next tree, ∃ node ∈ nodes path tree,
      Subtree (layout path up context next tree) e node.1 node.2.1 node.2.2
  | file path parts => by
      rw [layout, nodes]
      exact exists_subtree path up context next hup parts
  | declaration d parts => by
      rw [layout, nodes]
      refine List.forall_mem_cons.2 ⟨⟨_, List.mem_cons_self, rfl, [], [], ?_, ?_⟩, fun e he => ?_⟩
      · rw [List.append_nil]
        rfl
      · intro x hx
        cases hx
      · obtain ⟨node, hnode, hsub⟩ := exists_subtree path (some next) (qualify context d.name)
          (next + 1) (by rintro q ⟨⟩; exact Nat.lt_succ_self next) parts e he
        exact ⟨node, List.mem_cons_of_mem _ hnode, hsub.append_left [_]⟩

/-- Every definition of a forest stands with what is laid out below it. -/
theorem exists_subtree (path : Path) (up : Option Nat) (context : Text) (next : Nat)
    (hup : ∀ q, up = some q → q < next) :
    (trees : List Splice) → ∀ e ∈ layoutAll path up context next trees,
      ∃ node ∈ nodesAll path trees,
        Subtree (layoutAll path up context next trees) e node.1 node.2.1 node.2.2
  | [] => by
      intro e he
      cases he
  | tree :: trees => by
      rw [layoutAll, nodesAll]
      intro e he
      rcases List.mem_append.1 he with he | he
      · obtain ⟨node, hnode, hsub⟩ := exists_subtree_layout path up context next hup tree e he
        refine ⟨node, List.mem_append_left _ hnode, hsub.append_right fun x hx p hp => ?_⟩
        obtain ⟨hfirst, hlast⟩ := hsub.lt_of_ids (map_id_layout path up context next tree)
        -- What follows the tree stands under its place or behind the tree.
        rcases parent_of_mem_layoutAll hx with hparent | ⟨q, hparent, hq, -⟩
        · exact Or.inl (Nat.lt_of_lt_of_le (hup p (hparent.symm.trans hp)) hfirst)
        · obtain rfl : q = p := Option.some.inj (hparent.symm.trans hp)
          exact Or.inr (Nat.le_trans hlast hq)
      · obtain ⟨node, hnode, hsub⟩ := exists_subtree path up context (next + size tree)
          (fun q hq => Nat.lt_of_lt_of_le (hup q hq) (Nat.le_add_right _ _)) trees e he
        exact ⟨node, List.mem_append_right _ hnode, hsub.append_left _⟩

end

/-! ### What stands directly under a place -/

mutual

/-- The outermost declarations of a tree that stands in the file `path`,
each with its own file. -/
def topEntries (path : Path) : Splice → List (Path × Declaration)
  | file path parts => topEntriesAll path parts
  | declaration d _ => [(path, d)]

/-- The outermost declarations of a forest, each with its own file. -/
def topEntriesAll (path : Path) : List Splice → List (Path × Declaration)
  | [] => []
  | tree :: trees => topEntries path tree ++ topEntriesAll path trees

end

mutual

/-- The outermost declarations without their files. -/
theorem map_snd_topEntries (path : Path) :
    (tree : Splice) → (topEntries path tree).map Prod.snd = tops tree
  | file path parts => by rw [topEntries, tops, map_snd_topEntriesAll path parts]
  | declaration d _ => rfl

/-- The outermost declarations of a forest without their files. -/
theorem map_snd_topEntriesAll (path : Path) :
    (trees : List Splice) → (topEntriesAll path trees).map Prod.snd = topsAll trees
  | [] => rfl
  | tree :: trees => by
      rw [topEntriesAll, topsAll, List.map_append, map_snd_topEntries path tree,
        map_snd_topEntriesAll path trees]

end

mutual

/-- The definitions of a tree directly under its place are those of its
outermost declarations. -/
theorem tops_layout (path : Path) (up : Option Nat) (context : Text) (next : Nat)
    (hup : ∀ q, up = some q → q < next) :
    (tree : Splice) →
      (directlyUnder up (layout path up context next tree)).map Definition.id
          = topIds next tree ∧
        (directlyUnder up (layout path up context next tree)).map Definition.origin
          = (topEntries path tree).map fun entry => entry.2.originIn entry.1
  | file path parts => by
      rw [layout, topIds, topEntries]
      exact tops_layoutAll path up context next hup parts
  | declaration d parts => by
      -- Everything inside stands under the declaration or further in.
      have hinside : directlyUnder up
          (layoutAll path (some next) (qualify context d.name) (next + 1) parts) = [] := by
        refine List.filter_eq_nil_iff.2 fun e he hparent => ?_
        have hparent : e.parent = up := of_decide_eq_true hparent
        rcases parent_of_mem_layoutAll he with hown | ⟨p, hown, hp, -⟩
        · exact Nat.lt_irrefl _ (hup next (hparent.symm.trans hown))
        · exact absurd (hup p (hparent.symm.trans hown)) (by omega)
      have hself : directlyUnder up (layout path up context next (declaration d parts))
          = [instantiate path up context next d parts] := by
        have hkept : decide ((instantiate path up context next d parts).parent = up) = true :=
          decide_eq_true rfl
        rw [layout, directlyUnder, List.filter_cons, if_pos hkept]
        exact congrArg _ hinside
      rw [hself]
      exact ⟨rfl, rfl⟩

/-- The definitions of a forest directly under its place are those of its
outermost declarations. -/
theorem tops_layoutAll (path : Path) (up : Option Nat) (context : Text) (next : Nat)
    (hup : ∀ q, up = some q → q < next) :
    (trees : List Splice) →
      (directlyUnder up (layoutAll path up context next trees)).map Definition.id
          = topIdsAll next trees ∧
        (directlyUnder up (layoutAll path up context next trees)).map Definition.origin
          = (topEntriesAll path trees).map fun entry => entry.2.originIn entry.1
  | [] => ⟨rfl, rfl⟩
  | tree :: trees => by
      obtain ⟨hids, horigins⟩ := tops_layout path up context next hup tree
      obtain ⟨hidsAll, horiginsAll⟩ := tops_layoutAll path up context (next + size tree)
        (fun q hq => Nat.lt_of_lt_of_le (hup q hq) (Nat.le_add_right _ _)) trees
      have hsplit : directlyUnder up (layoutAll path up context next (tree :: trees))
          = directlyUnder up (layout path up context next tree)
            ++ directlyUnder up (layoutAll path up context (next + size tree) trees) := by
        rw [layoutAll, directlyUnder, List.filter_append]
        rfl
      rw [hsplit, List.map_append, List.map_append, hids, hidsAll, horigins, horiginsAll,
        topIdsAll, topEntriesAll, List.map_append]
      exact ⟨rfl, rfl⟩

end

end Splice

/-! ### Links in the list -/

section Links

variable {forest : List Splice}

/-- The definitions of a forest are numbered by their places. -/
theorem id_of_getElem?_definitionsOf {i : Nat} {e : Definition}
    (he : (definitionsOf forest)[i]? = some e) : e.id = i := by
  have hids := Splice.map_id_layoutAll .empty none [] 0 forest
  have hid : ((definitionsOf forest).map Definition.id)[i]? = some e.id := by
    rw [List.getElem?_map, he, Option.map_some]
  rw [definitionsOf, hids] at hid
  obtain ⟨hlt, hid⟩ := List.getElem?_eq_some_iff.1 hid
  rw [List.getElem_range'] at hid
  omega

/-- Every definition of a forest stands with what is laid out below it. -/
theorem exists_subtree_definitionsOf {e : Definition} (he : e ∈ definitionsOf forest) :
    ∃ node ∈ Splice.nodesAll .empty forest,
      Splice.Subtree (definitionsOf forest) e node.1 node.2.1 node.2.2 :=
  Splice.exists_subtree .empty none [] 0 (by rintro q ⟨⟩) forest e he

/-- The definition above another one of a forest comes first and gives its
full name as the context. -/
theorem above_of_mem_definitionsOf {e : Definition} (he : e ∈ definitionsOf forest) :
    e.parent = none ∧ e.context = [] ∨
      ∃ f : Definition, (definitionsOf forest)[f.id]? = some f ∧ f.id < e.id ∧
        e.parent = some f.id ∧
        e.context = f.fullName := by
  rcases Splice.parent_layoutAll .empty none [] 0 forest e he with htop | ⟨f, hf, habove⟩
  · exact Or.inl htop
  · exact Or.inr ⟨f, getElem?_definitionsOf hf, habove⟩

/-- Only earlier definitions stand above one. -/
theorem lt_of_parent_definitionsOf {e : Definition} (he : e ∈ definitionsOf forest) {p : Nat}
    (hp : e.parent = some p) : p < e.id := by
  rcases above_of_mem_definitionsOf he with ⟨hnone, -⟩ | ⟨f, -, hlt, hparent, -⟩
  · rw [hnone] at hp
    cases hp
  · obtain rfl : f.id = p := Option.some.inj (hparent.symm.trans hp)
    exact hlt

namespace Splice.Subtree

variable {e : Definition} {path : Path} {d : Declaration} {parts : List Splice}

/-- Where the definitions of a forest stand, seen from one of them: before
it, below it, or behind all that is below it. -/
theorem places (h : Subtree (definitionsOf forest) e path d parts) :
    ∃ before after, definitionsOf forest
        = before ++ e :: (layoutAll path (some e.id) e.fullName (e.id + 1) parts ++ after) ∧
      (∀ x ∈ before, x.id < e.id) ∧
      ∀ x ∈ after, e.id + 1 + sizeAll parts ≤ x.id ∧
        ∀ p, x.parent = some p → p < e.id ∨ e.id + 1 + sizeAll parts ≤ p := by
  obtain ⟨before, after, hds, hafter⟩ := h.split
  -- Numbers grow along the list.
  have hsorted : (definitionsOf forest).Pairwise fun a b => a.id < b.id := by
    rw [← List.pairwise_map (f := Definition.id), definitionsOf, map_id_layoutAll]
    exact List.pairwise_lt_range'
  rw [hds] at hsorted
  obtain ⟨-, hrest, hbefore⟩ := List.pairwise_append.1 hsorted
  obtain ⟨hself, hbehind⟩ := List.pairwise_cons.1 hrest
  obtain ⟨-, -, hinside⟩ := List.pairwise_append.1 hbehind
  refine ⟨before, after, hds, fun x hx => hbefore x hx e List.mem_cons_self, fun x hx =>
    ⟨Nat.le_of_not_lt fun hlt => ?_, hafter x hx⟩⟩
  -- The numbers right behind the definition are taken by what is below it.
  have htaken : x.id ∈ (layoutAll path (some e.id) e.fullName (e.id + 1) parts).map
      Definition.id := by
    rw [map_id_layoutAll, List.mem_range'_1]
    exact ⟨hself x (List.mem_append_right _ hx), hlt⟩
  obtain ⟨y, hy, hsame⟩ := List.mem_map.1 htaken
  exact absurd (hinside y hy x hx) (by omega)

/-- All definitions directly under one of a forest are laid out below it. -/
theorem directlyUnder_eq (h : Subtree (definitionsOf forest) e path d parts) :
    directlyUnder (some e.id) (definitionsOf forest)
      = directlyUnder (some e.id)
          (layoutAll path (some e.id) e.fullName (e.id + 1) parts) := by
  obtain ⟨before, after, hds, hbefore, hafter⟩ := h.places
  have hlater {x : Definition} (hx : x ∈ definitionsOf forest) (hp : x.parent = some e.id) :
      e.id < x.id := lt_of_parent_definitionsOf hx hp
  rw [hds] at hlater
  have hnone : directlyUnder (some e.id) before = [] := by
    refine List.filter_eq_nil_iff.2 fun x hx hp => ?_
    have hlt := hlater (List.mem_append_left _ hx) (of_decide_eq_true hp)
    exact absurd (hbefore x hx) (by omega)
  have hself : ¬ decide (e.parent = some e.id) = true := by
    intro hp
    exact Nat.lt_irrefl _ (hlater (by simp) (of_decide_eq_true hp))
  have hbehind : directlyUnder (some e.id) after = [] := by
    refine List.filter_eq_nil_iff.2 fun x hx hp => ?_
    rcases (hafter x hx).2 e.id (of_decide_eq_true hp) with hlt | hle
    · omega
    · omega
  rw [hds, directlyUnder, List.filter_append, List.filter_cons, if_neg hself, List.filter_append]
  show directlyUnder (some e.id) before ++ (_ ++ directlyUnder (some e.id) after) = _
  rw [hnone, hbehind, List.nil_append, List.append_nil]
  rfl

/-- What is below a definition, at any depth, stands right behind it
without a gap. -/
theorem reflTransGen_iff (h : Subtree (definitionsOf forest) e path d parts) (j : Nat) :
    Relation.ReflTransGen (StandsOver (definitionsOf forest)) e.id j
      ↔ e.id ≤ j ∧ j < e.id + 1 + sizeAll parts := by
  obtain ⟨before, after, hds, hbefore, hafter⟩ := h.places
  constructor
  · -- No link leads out of the stretch.
    intro hway
    induction hway with
    | refl => omega
    | @tail p j _ hlink ih =>
        obtain ⟨x, hx, hparent⟩ := hlink
        have hmem := List.mem_of_getElem? hx
        have hlt := lt_of_parent_definitionsOf hmem hparent
        have hid := id_of_getElem?_definitionsOf hx
        rw [hds] at hmem
        rcases List.mem_append.1 hmem with hmem | hmem
        · have := hbefore x hmem
          omega
        rcases List.mem_cons.1 hmem with rfl | hmem
        · omega
        rcases List.mem_append.1 hmem with hmem | hmem
        · have := id_of_mem_layoutAll hmem
          omega
        · rcases (hafter x hmem).2 p hparent with hp | hp
          · omega
          · omega
  · -- Inside the stretch the way up leads to its first definition.
    induction j using Nat.strong_induction_on with
    | _ j ih =>
        rintro ⟨hle, hlt⟩
        rcases Nat.eq_or_lt_of_le hle with rfl | hgt
        · exact .refl
        · have htaken : j ∈ (layoutAll path (some e.id) e.fullName (e.id + 1) parts).map
              Definition.id := by
            rw [map_id_layoutAll, List.mem_range'_1]
            exact ⟨hgt, hlt⟩
          obtain ⟨x, hx, rfl⟩ := List.mem_map.1 htaken
          have hmem : x ∈ definitionsOf forest := by
            rw [hds]
            simp [hx]
          have hfound := getElem?_definitionsOf hmem
          rcases parent_of_mem_layoutAll hx with hparent | ⟨p, hparent, hp, hpx⟩
          · exact .single ⟨x, hfound, hparent⟩
          · exact (ih p hpx ⟨by omega, by omega⟩).tail ⟨x, hfound, hparent⟩

end Splice.Subtree

end Links

/-! ### The order of the children -/

/-- The declarations of a file directly inside one of them, or outside all,
in source order, each with the file. -/
def Outline.inside (o : Outline) (parent : Option Nat) : List (Path × Declaration) :=
  (o.declarations.filter fun c => c.parent = parent).map fun c => (o.file, c)

/-- What an import puts under its declaration: the outermost declarations
of the file that it names, if that is indexed. -/
def importedTops (outlines : List Outline) (i : Import) : List (Path × Declaration) :=
  match outlineAt? outlines i.path with
  | some imported => imported.inside none
  | none => []

/-- What stands directly under an instance of the declaration at an index
of a file: the declarations directly inside it, then what each of its
imports puts there. -/
def childrenOf (outlines : List Outline) (o : Outline) (ix : Nat) (d : Declaration) :
    List (Path × Declaration) :=
  o.inside (some ix) ++ d.imports.flatMap (importedTops outlines)

/-- A list, read off place by place. -/
theorem filterMap_range_getElem? {α : Type} (xs : List α) :
    (List.range xs.length).filterMap (fun j => xs[j]?) = xs := by
  induction xs using List.reverseRecOn with
  | nil => rfl
  | append_singleton xs x ih =>
      have hfront : (List.range xs.length).filterMap (fun j => (xs ++ [x])[j]?)
          = (List.range xs.length).filterMap fun j => xs[j]? :=
        List.filterMap_congr fun j hj => List.getElem?_append_left (List.mem_range.1 hj)
      rw [List.length_append, List.length_singleton, List.range_succ, List.filterMap_append, hfront,
        ih]
      simp

/-- The declarations at the roots of a list. -/
theorem filterMap_rootsIn (ds : List Declaration) (parent : Option Nat) :
    (rootsIn ds 0 ds.length parent).filterMap (fun j => ds[j]?)
      = ds.filter fun c => c.parent = parent := by
  conv_rhs => rw [← filterMap_range_getElem? ds]
  rw [rootsIn, Nat.sub_zero, ← List.range_eq_range', List.filterMap_filter, List.filter_filterMap]
  refine List.filterMap_congr fun j hj => ?_
  rw [parentAt, List.getElem?_eq_getElem (List.mem_range.1 hj)]
  simp [Option.filter]

namespace Lists

variable {ds : List Declaration} {first last : Nat} {parent : Option Nat} {trees : List Splice}

/-- The outermost declarations of a stretch stand at the numbers of its
trees. -/
theorem topsAll_eq (h : Lists ds first last parent trees) :
    Splice.topsAll trees = (Splice.topIdsAll first trees).filterMap fun j => ds[j]? := by
  induction h with
  | nil => rfl
  | @cons first middle _ _ d parts trees found _ _ inside _ _ ihBehind =>
      have hmiddle : first + Splice.size (.declaration d parts) = middle := by
        have := inside.add_sizeAll
        rw [Splice.size]
        omega
      rw [Splice.topsAll, Splice.tops, Splice.topIdsAll, Splice.topIds, hmiddle, ihBehind,
        List.filterMap_append, List.filterMap_cons, found]
      rfl

/-- Grafting leaves the outermost declarations alone. -/
theorem topEntriesAll_graftAll (h : Lists ds first last parent trees)
    (load : Path → List Splice) (path : Path) :
    Splice.topEntriesAll path (Splice.graftAll load trees)
      = (Splice.topsAll trees).map fun d => (path, d) := by
  induction h with
  | nil => rfl
  | cons _ _ _ _ _ _ ihBehind =>
      rw [Splice.graftAll, Splice.graft, Splice.topEntriesAll, Splice.topEntries, ihBehind,
        Splice.topsAll, Splice.tops, List.map_append]
      rfl

end Lists

/-- The outermost declarations of the forest of a file. -/
theorem WellNested.topsAll_forest {o : Outline} (h : WellNested o.declarations) :
    Splice.topsAll o.forest = o.declarations.filter fun c => c.parent = none := by
  have hids : Splice.topIdsAll 0 o.forest
      = rootsIn o.declarations 0 o.declarations.length none := by
    rw [Outline.forest, Outline.topLevel_eq]
    exact ((WellNested.region _).lists h (by omega)).2
  rw [h.lists_forest.topsAll_eq, hids, filterMap_rootsIn]

/-- An unfolded file stands for its outermost declarations. -/
theorem Unfolds.topEntries_eq {outlines : List Outline} {o : Outline} {tree : Splice}
    (h : Unfolds outlines o tree) (hnested : WellNested o.declarations) (path : Path) :
    tree.topEntries path = o.inside none := by
  cases h with
  | enter trees below =>
      rw [Splice.topEntries, hnested.lists_forest.topEntriesAll_graftAll, hnested.topsAll_forest]
      rfl

/-- A node is that of a declaration of an indexed file, and its outermost
parts are the children of that declaration. -/
def NodeOf (outlines : List Outline) (node : Path × Declaration × List Splice) : Prop :=
  ∃ o ∈ outlines, ∃ ix, o.file = node.1 ∧ o.declarations[ix]? = some node.2.1 ∧
    Splice.topEntriesAll node.1 node.2.2 = childrenOf outlines o ix node.2.1

namespace Splice

/-- The outermost declarations of two forests, one behind the other. -/
theorem topEntriesAll_append (path : Path) (some more : List Splice) :
    topEntriesAll path (some ++ more) = topEntriesAll path some ++ topEntriesAll path more := by
  induction some with
  | nil => rfl
  | cons tree trees ih =>
      rw [List.cons_append, topEntriesAll, topEntriesAll, ih, List.append_assoc]

/-- The outermost declarations of several forests. -/
theorem topEntriesAll_flatMap {α : Type} (path : Path) (load : α → List Splice) (xs : List α) :
    topEntriesAll path (xs.flatMap load) = xs.flatMap fun x => topEntriesAll path (load x) := by
  induction xs with
  | nil => rfl
  | cons x xs ih => rw [List.flatMap_cons, List.flatMap_cons, topEntriesAll_append, ih]

/-- The nodes of a forest are those of its trees. -/
theorem mem_nodesAll {path : Path} {node : Path × Declaration × List Splice}
    {trees : List Splice} :
    node ∈ nodesAll path trees ↔ ∃ tree ∈ trees, node ∈ nodes path tree := by
  induction trees with
  | nil => simp [nodesAll]
  | cons tree trees ih => simp [nodesAll, ih]

end Splice

/-- The nodes of a grafted forest are those of the declarations of its file
and those of what is grafted. -/
theorem Lists.nodes {outlines : List Outline} {o : Outline} (ho : o ∈ outlines)
    (hnested : WellNested o.declarations) {load : Path → List Splice}
    (hload : ∀ i ∈ o.imports, Splice.topEntriesAll o.file (load i.path)
      = importedTops outlines i)
    (hbelow : ∀ i ∈ o.imports, ∀ node ∈ Splice.nodesAll o.file (load i.path),
      NodeOf outlines node)
    {first last : Nat} {parent : Option Nat} {trees : List Splice}
    (h : Lists o.declarations first last parent trees) :
    ∀ node ∈ Splice.nodesAll o.file (Splice.graftAll load trees), NodeOf outlines node := by
  induction h with
  | nil => simp [Splice.graftAll, Splice.nodesAll]
  | @cons first middle last parent d parts trees found _ children inside _ ihInside ihBehind =>
      have himports : ∀ i ∈ d.imports, i ∈ o.imports := fun i hi =>
        List.mem_flatMap.2 ⟨d, List.mem_of_getElem? found, hi⟩
      intro node hnode
      simp only [Splice.graftAll, Splice.graft, Splice.nodesAll, Splice.nodes, List.cons_append,
        List.mem_cons, List.mem_append] at hnode
      rcases hnode with rfl | hnode | hnode
      · refine ⟨o, ho, first, rfl, found, ?_⟩
        have htops : Splice.topsAll parts
            = o.declarations.filter fun c => c.parent = some first := by
          rw [inside.topsAll_eq, ← children, hnested.children_eq_rootsIn found, filterMap_rootsIn]
        rw [Splice.topEntriesAll_append, inside.topEntriesAll_graftAll, htops,
          Splice.topEntriesAll_flatMap]
        refine congrArg _ (List.flatMap_congr fun i hi => hload i (himports i hi))
      · rw [Splice.mem_nodesAll] at hnode
        obtain ⟨tree, htree, hnode⟩ := hnode
        rcases List.mem_append.1 htree with htree | htree
        · exact ihInside node (Splice.mem_nodesAll.2 ⟨tree, htree, hnode⟩)
        · obtain ⟨i, hi, htree⟩ := List.mem_flatMap.1 htree
          exact hbelow i (himports i hi) node (Splice.mem_nodesAll.2 ⟨tree, htree, hnode⟩)
      · exact ihBehind node hnode

/-- The nodes of an unfolding are those of declarations of indexed files. -/
theorem Unfolds.nodes {outlines : List Outline}
    (hnested : ∀ o ∈ outlines, WellNested o.declarations) {o : Outline} {tree : Splice}
    (h : Unfolds outlines o tree) (ho : o ∈ outlines) (path : Path) :
    ∀ node ∈ tree.nodes path, NodeOf outlines node := by
  induction h generalizing path with
  | enter o trees below ih =>
      rw [Splice.nodes]
      refine Lists.nodes ho (hnested o ho) (fun i hi => ?_) (fun i hi => ?_)
        (hnested o ho).lists_forest
      · cases hfound : outlineAt? outlines i.path with
        | none => simp [spliced, importedTops, hfound, Splice.topEntriesAll]
        | some m =>
            have htops := (below i hi m hfound).topEntries_eq
              (hnested m (file_of_outlineAt? hfound).1) o.file
            simp [spliced, importedTops, hfound, Splice.topEntriesAll, htops]
      · cases hfound : outlineAt? outlines i.path with
        | none => simp [spliced, hfound, Splice.nodesAll]
        | some m =>
            have hinside := ih i hi m hfound (file_of_outlineAt? hfound).1 o.file
            simpa [spliced, hfound, Splice.nodesAll] using hinside

/-- The nodes of a workspace that splices are those of declarations of
indexed files. -/
theorem nodeOf_of_spliceAll {outlines : List Outline}
    (hnested : ∀ o ∈ outlines, WellNested o.declarations) {forest : List Splice}
    (h : spliceAll outlines = .ok forest) :
    ∀ node ∈ Splice.nodesAll .empty forest, NodeOf outlines node := by
  intro node hnode
  obtain ⟨tree, htree, hnode⟩ := Splice.mem_nodesAll.1 hnode
  obtain ⟨o, ho, hentered⟩ := entered_of_mem_spliceAll h htree
  exact (unfolds_of_expandFile hnested ho hentered).nodes hnested ho .empty node hnode

/-! ### Tables -/

/-- The definitions are a forest in a list, spliced from outlines. -/
structure Arena (outlines : List Outline) (ds : List Definition) : Prop where
  /-- A definition stands at its number. -/
  numbered : ∀ (i : Nat) (e : Definition), ds[i]? = some e → e.id = i
  /-- The definition above another one comes first, and its full name is
  the context. -/
  above : ∀ e ∈ ds, ∀ p, e.parent = some p →
    p < e.id ∧ ∃ f, ds[p]? = some f ∧ e.context = f.fullName
  /-- The context is empty at the top and nowhere else. -/
  top : ∀ e ∈ ds, e.context = [] ↔ e.parent = none
  /-- A full name is the context and the name. -/
  fullName : ∀ e ∈ ds, e.fullName = qualify e.context e.name
  /-- The child entries are the numbers of the definitions directly under
  one, in order. -/
  childEntries : ∀ e ∈ ds, e.childEntries = (directlyUnder (some e.id) ds).map Definition.id
  /-- The children are their names. -/
  children : ∀ e ∈ ds, e.children = (directlyUnder (some e.id) ds).map Definition.name
  /-- A definition and all that is below it, at any depth, stand in one
  stretch without a gap. -/
  block : ∀ i < ds.length, ∃ last, ∀ j,
    Relation.ReflTransGen (StandsOver ds) i j ↔ i ≤ j ∧ j < last
  /-- A definition is an instance of a declaration, and those directly under
  it are the instances of what is directly inside the declaration, then of
  what its imports put there. -/
  ordered : ∀ e ∈ ds, ∃ o ∈ outlines, ∃ ix d, o.declarations[ix]? = some d ∧
    e.InstanceOf o.file d ∧
    List.Forall₂ (fun c entry => c.InstanceOf entry.1 entry.2) (directlyUnder (some e.id) ds)
      (childrenOf outlines o ix d)

/-- The definitions directly under one are those of the outermost parts of
its declaration. -/
theorem Splice.Subtree.tops {forest : List Splice} {e : Definition} {path : Path}
    {d : Declaration} {parts : List Splice} (h : Subtree (definitionsOf forest) e path d parts) :
    (directlyUnder (some e.id) (definitionsOf forest)).map Definition.id
        = topIdsAll (e.id + 1) parts ∧
      (directlyUnder (some e.id) (definitionsOf forest)).map Definition.origin
        = (topEntriesAll path parts).map fun entry => entry.2.originIn entry.1 := by
  rw [h.directlyUnder_eq]
  exact tops_layoutAll path (some e.id) e.fullName (e.id + 1)
    (by rintro q ⟨⟩; exact Nat.lt_succ_self _) parts

/-- A full name is the context and the name. -/
theorem fullName_of_mem_definitionsOf {forest : List Splice} {e : Definition}
    (he : e ∈ definitionsOf forest) : e.fullName = qualify e.context e.name := by
  obtain ⟨node, -, hsub⟩ := exists_subtree_definitionsOf he
  rw [hsub.eq_instantiate]
  rfl

/-- The child entries of a definition are the numbers of those directly
under it. -/
theorem childEntries_of_mem_definitionsOf {forest : List Splice} {e : Definition}
    (he : e ∈ definitionsOf forest) :
    e.childEntries = (directlyUnder (some e.id) (definitionsOf forest)).map Definition.id := by
  obtain ⟨node, -, hsub⟩ := exists_subtree_definitionsOf he
  rw [hsub.tops.1, hsub.eq_instantiate]
  rfl

/-- Every definition has a full name, since every declaration has a name. -/
theorem fullName_ne_nil_of_spliceAll {outlines : List Outline}
    (hnested : ∀ o ∈ outlines, WellNested o.declarations) {forest : List Splice}
    (h : spliceAll outlines = .ok forest) {e : Definition} (he : e ∈ definitionsOf forest) :
    e.fullName ≠ [] := by
  obtain ⟨node, hnode, hsub⟩ := exists_subtree_definitionsOf he
  obtain ⟨o, ho, ix, -, hfound, -⟩ := nodeOf_of_spliceAll hnested h node hnode
  have hname : e.name = node.2.1.name := by
    rw [hsub.eq_instantiate]
    rfl
  rw [fullName_of_mem_definitionsOf he, hname]
  exact Dotted.qualify_ne_nil _ ((hnested o ho).named _ (List.mem_of_getElem? hfound))

/-- A workspace that splices gives an arena. -/
theorem arena_spliceAll {outlines : List Outline}
    (hnested : ∀ o ∈ outlines, WellNested o.declarations) {forest : List Splice}
    (h : spliceAll outlines = .ok forest) : Arena outlines (definitionsOf forest) := by
  have hnodes := nodeOf_of_spliceAll hnested h
  have hnamed {e : Definition} (he : e ∈ definitionsOf forest) : e.fullName ≠ [] :=
    fullName_ne_nil_of_spliceAll hnested h he
  refine ⟨fun i e he => id_of_getElem?_definitionsOf he, ?_, ?_,
    fun e he => fullName_of_mem_definitionsOf he,
    fun e he => childEntries_of_mem_definitionsOf he, ?_, ?_, ?_⟩
  · intro e he p hp
    rcases above_of_mem_definitionsOf he with ⟨hnone, -⟩ | ⟨f, hf, hlt, hparent, hcontext⟩
    · rw [hnone] at hp
      cases hp
    · obtain rfl : f.id = p := Option.some.inj (hparent.symm.trans hp)
      exact ⟨hlt, f, hf, hcontext⟩
  · intro e he
    rcases above_of_mem_definitionsOf he with ⟨hnone, hcontext⟩ | ⟨f, hf, -, hparent, hcontext⟩
    · simp [hnone, hcontext]
    · simp [hparent, hcontext, hnamed (List.mem_of_getElem? hf)]
  · intro e he
    obtain ⟨node, -, hsub⟩ := exists_subtree_definitionsOf he
    have hnames := congrArg (List.map Prod.fst) hsub.tops.2
    rw [List.map_map, List.map_map] at hnames
    have hchildren : e.children = (Splice.topsAll node.2.2).map Declaration.name := by
      rw [hsub.eq_instantiate]
      rfl
    rw [hchildren, ← Splice.map_snd_topEntriesAll node.1, List.map_map]
    exact hnames.symm
  · intro i hi
    have hfound := List.getElem?_eq_getElem hi
    have hid := id_of_getElem?_definitionsOf hfound
    obtain ⟨node, -, hsub⟩ := exists_subtree_definitionsOf (List.getElem_mem hi)
    exact ⟨_, fun j => hid ▸ hsub.reflTransGen_iff j⟩
  · intro e he
    obtain ⟨node, hnode, hsub⟩ := exists_subtree_definitionsOf he
    obtain ⟨o, ho, ix, hfile, hfound, htops⟩ := hnodes node hnode
    refine ⟨o, ho, ix, node.2.1, hfound, ?_, ?_⟩
    · rw [hsub.eq_instantiate, hfile]
      exact Splice.instanceOf_instantiate ..
    · have horigins := hsub.tops.2
      rw [htops] at horigins
      exact List.forall₂_map_left_iff.1 (List.forall₂_map_right_iff.1
        (horigins ▸ List.forall₂_refl _))

/-- The order of the outlines does not matter for the outline of a path. -/
theorem outlineAt?_perm {outlines others : List Outline}
    (hdistinct : (outlines.map Outline.file).Nodup) (h : outlines.Perm others) (path : Path) :
    outlineAt? outlines path = outlineAt? others path := by
  have hothers : (others.map Outline.file).Nodup := (h.map Outline.file).nodup_iff.1 hdistinct
  cases hfound : outlineAt? others path with
  | some o =>
      obtain ⟨ho, rfl⟩ := file_of_outlineAt? hfound
      exact outlineAt?_of_mem hdistinct (h.mem_iff.2 ho)
  | none =>
      cases hfound' : outlineAt? outlines path with
      | none => rfl
      | some o =>
          obtain ⟨ho, rfl⟩ := file_of_outlineAt? hfound'
          rw [outlineAt?_of_mem hothers (h.mem_iff.1 ho)] at hfound
          cases hfound

/-- The order of the outlines does not matter for an arena. -/
theorem Arena.perm {outlines others : List Outline} {ds : List Definition}
    (hds : Arena outlines ds) (hdistinct : (outlines.map Outline.file).Nodup)
    (h : outlines.Perm others) : Arena others ds where
  numbered := hds.numbered
  above := hds.above
  top := hds.top
  fullName := hds.fullName
  childEntries := hds.childEntries
  children := hds.children
  block := hds.block
  ordered e he := by
    have hchildren (o : Outline) (ix : Nat) (d : Declaration) :
        childrenOf outlines o ix d = childrenOf others o ix d := by
      rw [childrenOf, childrenOf]
      refine congrArg _ (List.flatMap_congr fun i _ => ?_)
      rw [importedTops, importedTops, outlineAt?_perm hdistinct h]
    obtain ⟨o, ho, ix, d, hfound, hinstance, hordered⟩ := hds.ordered e he
    exact ⟨o, h.mem_iff.1 ho, ix, d, hfound, hinstance, hchildren o ix d ▸ hordered⟩

/-- The definitions of a table that is built from files with distinct paths
are a forest in a list. -/
theorem Table.arena_build (sources : List (Path × Text))
    (hdistinct : ((outlinesOf sources).map Outline.file).Nodup) (t : Table)
    (hbuild : Table.build (outlinesOf sources) = .ok t) :
    Arena (outlinesOf sources) t.definitions := by
  have hperm := Table.inOrder_perm (outlinesOf sources)
  have hordered := (hperm.map Outline.file).nodup_iff.2 hdistinct
  obtain ⟨forest, hforest, rfl⟩ := Table.spliceAll_of_build_ok hbuild
  rw [Table.definitions_foldl_push]
  exact (arena_spliceAll (fun o ho => wellNested_of_mem_outlinesOf (hperm.mem_iff.1 ho))
    hforest).perm hordered hperm

/-- No full name of a table is empty. -/
theorem Table.fullName_ne_nil_build {sources : List (Path × Text)} {t : Table}
    (hbuild : Table.build (outlinesOf sources) = .ok t) {d : Definition} (hd : d ∈ t.definitions) :
    d.fullName ≠ [] := by
  obtain ⟨forest, hforest, rfl⟩ := spliceAll_of_build_ok hbuild
  rw [definitions_foldl_push] at hd
  exact fullName_ne_nil_of_spliceAll wellNested_of_mem_inOrder hforest hd

/-- Outlines that are read are those of their paths in shortest form. -/
theorem map_file_outlinesOf (sources : List (Path × Text)) :
    (outlinesOf sources).map Outline.file = sources.map fun source => source.1.normalize := by
  rw [outlinesOf, List.map_map]
  exact List.map_congr_left fun source _ => Outline.file_read source.1 source.2

/-- A file with declarations and imports in one block, another import
further in, and an import of a file that is not there. -/
def nestedSources : List (Path × Text) :=
  [(.parse "/ws/a.mql", "CREATE BASE A { IMPORT c; CREATE BASE X { IMPORT b; } IMPORT gone; }"),
    (.parse "/ws/b.mql", "CREATE TAG B;\nCREATE BASE D { IMPORT c; CREATE TAG E; }"),
    (.parse "/ws/c.mql", "CREATE TAG C;\nCREATE TAG T;")]

/-- Nested imports give a forest in a list. -/
theorem Table.arena_build_nestedSources :
    ((outlinesOf nestedSources).map Outline.file).Nodup ∧
      ∃ t, Table.build (outlinesOf nestedSources) = .ok t ∧ t.definitions.length = 9 ∧
        Arena (outlinesOf nestedSources) t.definitions := by
  have hdistinct : ((outlinesOf nestedSources).map Outline.file).Nodup := by
    rw [map_file_outlinesOf]
    decide +kernel
  have hsize : (Table.build (outlinesOf nestedSources)).toOption.map
      (fun t => t.definitions.length) = some 9 := by decide +kernel
  cases hbuild : Table.build (outlinesOf nestedSources) with
  | error c => rw [hbuild] at hsize; cases hsize
  | ok t =>
      rw [hbuild] at hsize
      exact ⟨hdistinct, t, rfl, Option.some.inj hsize,
        Table.arena_build nestedSources hdistinct t hbuild⟩

end DefIndex
