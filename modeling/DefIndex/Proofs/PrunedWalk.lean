import DefIndex.Proofs.NameGlobs

/-!
# `DefIndex.Proofs.PrunedWalk`: a walk that turns back

`IgnoreWalk.walker` turns back at every entry that it leaves out, so it visits an
entry only if nothing on the way down to it is left out. `Entry.Reaches` says
this of one entry and the names on the way to it, without the walk.

* `Entry.reaches_concat_iff`: an entry is reached over the folder that holds it.
* `IgnoreWalk.Guide.leavesOut_ofRequest` is one step of the walk, for a plain
  request.
* `IgnoreWalk.mem_walk_iff` and `IgnoreWalk.nodup_walk` are the whole walk: it
  visits what is reached, each entry once.
* `IgnoreWalk.descends`, `IgnoreWalk.skipsHidden`, `IgnoreWalk.skipsOverridden`
  and `IgnoreWalk.takesNames`: this walker keeps to the rules that discovery
  relies on.
-/

set_option autoImplicit false

namespace DefIndex

namespace Entry

/-! ### Reaching an entry -/

/-- The names lead down to an entry, and nothing on the way is left out. -/
inductive Reaches (leftOut : Bool → Segment → Prop) : Entry → List Segment → Prop where
  | here (e : Entry) : Reaches leftOut e []
  | inside {entries : List (Segment × Entry)} {name : Segment} {e : Entry} {rest : List Segment}
    (held : (name, e) ∈ entries) (stays : ¬leftOut e.isFolder name)
    (reaches : Reaches leftOut e rest) : Reaches leftOut (.folder entries) (name :: rest)

variable {leftOut : Bool → Segment → Prop}

/-- The way down starts with an entry of the folder. -/
theorem reaches_cons_iff {e : Entry} (hproper : e.Proper) {name : Segment}
    {rest : List Segment} :
    Reaches leftOut e (name :: rest) ↔
      ∃ e', e.child? name = some e' ∧ ¬leftOut e'.isFolder name ∧ Reaches leftOut e' rest := by
  cases hproper with
  | file content =>
      constructor
      · intro h
        cases h
      · rintro ⟨e', hchild, -⟩
        cases hchild
  | folder distinct named inside =>
      constructor
      · intro h
        cases h with
        | inside held stays reaches =>
            exact ⟨_, (lookup_eq_some_iff_mem distinct).2 held, stays, reaches⟩
      · rintro ⟨e', hchild, hstays, hrest⟩
        exact .inside (mem_of_lookup hchild) hstays hrest

/-- An entry is reached over the folder that holds it. -/
theorem reaches_concat_iff {e : Entry} (hproper : e.Proper) {front : List Segment}
    {name : Segment} :
    Reaches leftOut e (front ++ [name]) ↔
      Reaches leftOut e front ∧
        ∃ e', e.find? (front ++ [name]) = some e' ∧ ¬leftOut e'.isFolder name := by
  induction front generalizing e with
  | nil =>
      rw [List.nil_append, reaches_cons_iff hproper]
      simp [find?, Reaches.here]
  | cons first front ih =>
      have hchild {child : Entry} (h : e.child? first = some child) : child.Proper := by
        have hfind : e.find? [first] = some child := by simp [find?, h]
        exact hproper.find? hfind
      rw [List.cons_append, reaches_cons_iff hproper, reaches_cons_iff hproper, find?]
      constructor
      · rintro ⟨child, hfirst, hstays, hrest⟩
        obtain ⟨hfront, e', he', hname⟩ := (ih (hchild hfirst)).1 hrest
        exact ⟨⟨child, hfirst, hstays, hfront⟩, e', by rw [hfirst, Option.bind_some, he'], hname⟩
      · rintro ⟨⟨child, hfirst, hstays, hfront⟩, e', he', hname⟩
        rw [hfirst, Option.bind_some] at he'
        exact ⟨child, hfirst, hstays, (ih (hchild hfirst)).2 ⟨hfront, e', he', hname⟩⟩

/-- What is reached is there. -/
theorem Reaches.isSome_find? {e : Entry} (hproper : e.Proper) {below : List Segment}
    (h : Reaches leftOut e below) : (e.find? below).isSome = true := by
  rcases List.eq_nil_or_concat' below with rfl | ⟨front, name, rfl⟩
  · rfl
  · obtain ⟨-, e', he', -⟩ := (reaches_concat_iff hproper).1 h
    rw [he', Option.isSome_some]

end Entry

namespace IgnoreWalk

/-! ### The walk -/

/-- No ignore file counts, and of each folder the same entries are left out. -/
structure Guide.LeavesOut (g : Guide) (leftOut : Bool → Segment → Prop) : Prop where
  unignored : g.respectsIgnore = false
  skips_iff : ∀ (isFolder : Bool) (front : List Segment) (name : Segment), name.ProperName →
    (g.skips [] isFolder (front ++ [name]) name = true ↔ leftOut isFolder name)

variable {g : Guide} {leftOut : Bool → Segment → Prop}

/-- What is visited below a folder is visited below its entries. -/
theorem walkAll_eq_flatMap (g : Guide) (levels : List RuleLevel) (below : List Segment)
    (entries : List (Segment × Entry)) :
    walkAll g levels below entries = entries.flatMap fun entry =>
      if g.skips levels entry.2.isFolder (below ++ [entry.1]) entry.1 then []
      else walk g levels (below ++ [entry.1]) entry.2 := by
  induction entries with
  | nil => rfl
  | cons entry entries ih => rw [walkAll, ih, List.flatMap_cons]

/-- Where no ignore file counts, a folder is visited and what its entries give. -/
theorem walk_folder (hunignored : g.respectsIgnore = false) (levels : List RuleLevel)
    (below : List Segment) (entries : List (Segment × Entry)) :
    walk g levels below (.folder entries) = below :: entries.flatMap fun entry =>
      if g.skips [] entry.2.isFolder (below ++ [entry.1]) entry.1 then []
      else walk g [] (below ++ [entry.1]) entry.2 := by
  rw [walk, hunignored, walkAll_eq_flatMap]
  rfl

/-- The walk visits exactly what is reached. -/
theorem mem_walk_iff (hg : g.LeavesOut leftOut) {e : Entry} (hproper : e.Proper)
    (levels : List RuleLevel) (front : List Segment) {found : List Segment} :
    found ∈ walk g levels front e ↔ ∃ below, found = front ++ below ∧ e.Reaches leftOut below := by
  induction hproper generalizing levels front with
  | file content =>
      rw [walk, List.mem_singleton]
      constructor
      · rintro rfl
        exact ⟨[], (List.append_nil _).symm, .here _⟩
      · rintro ⟨below, rfl, h⟩
        cases h
        exact List.append_nil _
  | folder distinct named inside ih =>
      rw [walk_folder hg.unignored, List.mem_cons, List.mem_flatMap]
      constructor
      · rintro (rfl | ⟨entry, hentry, hfound⟩)
        · exact ⟨[], (List.append_nil _).symm, .here _⟩
        · split at hfound
          · cases hfound
          next hstays =>
            rw [hg.skips_iff _ _ _ (named entry hentry)] at hstays
            obtain ⟨rest, rfl, hrest⟩ := (ih entry hentry [] _).1 hfound
            exact ⟨entry.1 :: rest, by simp, .inside hentry hstays hrest⟩
      · rintro ⟨below, rfl, h⟩
        cases h with
        | here => exact .inl (List.append_nil _)
        | inside held stays reaches =>
            refine .inr ⟨_, held, ?_⟩
            rw [if_neg ((hg.skips_iff _ _ _ (named _ held)).not.2 stays)]
            exact (ih _ held [] _).2 ⟨_, by simp, reaches⟩

/-- Nothing is visited twice. -/
theorem nodup_walk (hg : g.LeavesOut leftOut) {e : Entry} (hproper : e.Proper)
    (levels : List RuleLevel) (front : List Segment) : (walk g levels front e).Nodup := by
  induction hproper generalizing levels front with
  | file content =>
      rw [walk]
      exact List.nodup_singleton _
  | @folder entries distinct named inside ih =>
      -- What is visited by way of an entry has its name behind that of the folder.
      have hbelow {entry : Segment × Entry} (hentry : entry ∈ entries) {found : List Segment}
          (hfound : found ∈ if g.skips [] entry.2.isFolder (front ++ [entry.1]) entry.1 then []
            else walk g [] (front ++ [entry.1]) entry.2) :
          ∃ rest, found = front ++ entry.1 :: rest := by
        split at hfound
        · cases hfound
        · obtain ⟨rest, rfl, -⟩ := (mem_walk_iff hg (inside entry hentry) [] _).1 hfound
          exact ⟨rest, by simp⟩
      rw [walk_folder hg.unignored, List.nodup_cons, List.nodup_flatMap]
      refine ⟨?_, ?_, ?_⟩
      · intro hmem
        obtain ⟨entry, hentry, hfound⟩ := List.mem_flatMap.1 hmem
        obtain ⟨rest, heq⟩ := hbelow hentry hfound
        simp at heq
      · intro entry hentry
        split
        · exact List.nodup_nil
        · exact ih entry hentry _ _
      · refine (List.pairwise_map.1 distinct).imp_of_mem ?_
        intro entry other hentry hother hne found hfound hfound'
        obtain ⟨rest, rfl⟩ := hbelow hentry hfound
        obtain ⟨rest', heq⟩ := hbelow hother hfound'
        exact hne (List.cons.inj (List.append_cancel_left heq)).1

/-! ### The rules of a walker -/

section

variable {disk : Disk} {q : WalkRequest}

/-- In a plain request hidden entries are left out and folders of the names that
the overrides give. -/
theorem Guide.leavesOut_ofRequest (hq : q.PlainOn disk) :
    (Guide.ofRequest q).LeavesOut fun isFolder name =>
      isFolder = true ∧ q.Excludes name ∨ q.Hides name := by
  refine ⟨hq.unignored, fun isFolder front name hname => ?_⟩
  have hrules {r : IgnoreRule} (hr : r ∈ (Guide.ofRequest q).overrides) :
      ∃ dir, Discovery.exclusion dir ∈ q.overrides ∧ Ignore.TakesBackFolders r dir := by
    obtain ⟨line, hline, hread⟩ := List.mem_filterMap.1 hr
    obtain ⟨dir, hplain, rfl⟩ := hq.named line hline
    obtain ⟨r', hread', hfolders⟩ := Ignore.exists_rule?_exclusion hplain
    obtain rfl := Option.some.inj (hread.symm.trans hread')
    exact ⟨dir, hline, hfolders⟩
  have hback : ∀ r ∈ (Guide.ofRequest q).overrides, r.takesBack = true := by
    intro r hr
    obtain ⟨dir, -, hfolders⟩ := hrules hr
    exact hfolders.takesBack
  have hnone : (Guide.ofRequest q).overrides.any (fun r => !r.takesBack) = false := by
    rw [List.any_eq_false]
    intro r hr
    simp [hback r hr]
  have happlies : (∃ r ∈ (Guide.ofRequest q).overrides,
      Ignore.applies r isFolder (bytesOf (front ++ [name])) = true) ↔
        isFolder = true ∧ q.Excludes name := by
    constructor
    · rintro ⟨r, hr, happlies⟩
      obtain ⟨dir, hline, hfolders⟩ := hrules hr
      obtain ⟨hfolder, rfl⟩ := (hfolders.applies_iff isFolder front name hname).1 happlies
      exact ⟨hfolder, dir, rfl, hline⟩
    · rintro ⟨hfolder, dir, rfl, hline⟩
      obtain ⟨dir', hplain, hsame⟩ := hq.named _ hline
      rw [hsame] at hline
      obtain ⟨r, hread, hfolders⟩ := Ignore.exists_rule?_exclusion hplain
      obtain rfl : dir = dir' := by simpa [Discovery.exclusion] using hsame
      refine ⟨r, List.mem_filterMap.2 ⟨_, hline, hread⟩, ?_⟩
      exact (hfolders.applies_iff isFolder front _ hname).2 ⟨hfolder, rfl⟩
  have hsilent : judge [] isFolder ((Guide.ofRequest q).root ++ (front ++ [name])) = .silent := rfl
  rw [Guide.skips, Ignore.judge_of_takesBack hback, hnone, hsilent]
  by_cases hexcluded : isFolder = true ∧ q.Excludes name
  · rw [if_pos (happlies.2 hexcluded)]
    simp [hexcluded]
  · rw [if_neg (happlies.not.2 hexcluded)]
    simp [hexcluded, WalkRequest.Hides, Guide.ofRequest]

/-- A plain request visits what is reached. -/
theorem mem_visits_iff (hq : q.PlainOn disk) {below : List Segment} :
    below ∈ visits disk q ↔ ∃ start, disk.root.find? q.root = some start ∧ start.Proper ∧
      start.Reaches (fun isFolder name => isFolder = true ∧ q.Excludes name ∨ q.Hides name)
        below := by
  obtain ⟨entries, hfolder⟩ := hq.folder
  have hproper := hq.proper.find? hfolder
  rw [visits, hfolder]
  simp only [mem_walk_iff (Guide.leavesOut_ofRequest hq) hproper, List.nil_append,
    exists_eq_left', Option.some.injEq, hproper, true_and]

end

/-- The walk goes down from its folder. -/
theorem descends : walker.Descends where
  nodup {disk q} hq := by
    obtain ⟨entries, hfolder⟩ := hq.folder
    show (visits disk q).Nodup
    rw [visits, hfolder]
    exact nodup_walk (Guide.leavesOut_ofRequest hq) (hq.proper.find? hfolder) _ _
  start hq := by
    obtain ⟨entries, hfolder⟩ := hq.folder
    exact (mem_visits_iff hq).2 ⟨_, hfolder, hq.proper.find? hfolder, .here _⟩
  there hq below h := by
    obtain ⟨start, hstart, hproper, hreaches⟩ := (mem_visits_iff hq).1 h
    rw [Entry.find?_append, hstart, Option.bind_some]
    exact hreaches.isSome_find? hproper
  through hq _ _ h := by
    obtain ⟨start, hstart, hproper, hreaches⟩ := (mem_visits_iff hq).1 h
    have hfront := ((Entry.reaches_concat_iff hproper).1 hreaches).1
    exact (mem_visits_iff hq).2 ⟨start, hstart, hproper, hfront⟩
  onward hq _ _ e hfront he hvisible hstays := by
    obtain ⟨start, hstart, hproper, hreaches⟩ := (mem_visits_iff hq).1 hfront
    rw [Entry.find?_append, hstart, Option.bind_some] at he
    refine (mem_visits_iff hq).2 ⟨start, hstart, hproper, ?_⟩
    exact (Entry.reaches_concat_iff hproper).2 ⟨hreaches, e, he, not_or.2 ⟨hstays, hvisible⟩⟩

/-- Hidden entries are left out. -/
theorem skipsHidden : walker.SkipsHidden := by
  intro disk q hq front name hhides h
  obtain ⟨start, -, hproper, hreaches⟩ := (mem_visits_iff hq).1 h
  obtain ⟨-, e, -, hstays⟩ := (Entry.reaches_concat_iff hproper).1 hreaches
  exact hstays (.inr hhides)

/-- Folders that an override names are left out. -/
theorem skipsOverridden : walker.SkipsOverridden := by
  intro disk q hq front name entries hexcludes hfolder h
  obtain ⟨start, hstart, hproper, hreaches⟩ := (mem_visits_iff hq).1 h
  rw [Entry.find?_append, hstart, Option.bind_some] at hfolder
  obtain ⟨-, e, he, hstays⟩ := (Entry.reaches_concat_iff hproper).1 hreaches
  obtain rfl := Option.some.inj (he.symm.trans hfolder)
  exact hstays (.inl ⟨rfl, hexcludes⟩)

/-- Overrides that name folders are taken. -/
theorem takesNames : walker.TakesNames where
  accepts {dir} hplain := by
    obtain ⟨r, hread, -⟩ := Ignore.exists_rule?_exclusion hplain
    show (Ignore.rule? false (Discovery.exclusion dir)).isSome = true
    rw [hread, Option.isSome_some]
  fault? _ := rfl

end IgnoreWalk

end DefIndex
