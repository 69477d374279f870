import Mathlib.Data.List.Basic
import DefIndex.Workspace

/-!
# `DefIndex.Proofs.Rebuilds`: rebuilds of one workspace, interleaved

Several rebuilds of a workspace may be under way at once. Each one takes a
version number, indexes the files and publishes what it built, or fails
while indexing. `Rebuilds` is a workspace together with every rebuild that
has begun; an action is the next of these three steps of one of them, and
any list of actions is an interleaving. The files may change between two
steps, so every indexing step has a source of its own.

* `Rebuilds.step` takes one action. An action whose turn has not come, or
  has passed, changes nothing.
* `Rebuilds.Change` lists what an action can do, and `step_change` proves
  that the list is complete. No other proof opens `Rebuilds.step`.
* `Rebuilds.Sound` is the invariant: numbers go up by one with every
  rebuild, and the current snapshot is the newest of those published.
  `sound_run` carries it through every interleaving.
* `versioned_run` is the statement about versions.
-/

set_option autoImplicit false

namespace DefIndex

/-! ### What indexing gives -/

/-- A snapshot that is built, spelled out. -/
theorem Snapshot.exists_of_build_ok {version limit : Nat} {outlines : List Outline}
    {failures : List ReadFailure} {s : Snapshot}
    (h : Snapshot.build version outlines failures limit = .ok s) :
    ∃ table, Table.build outlines = .ok table ∧ s =
      { version := version
        table := table
        references := .build table (outlines.map fun o => (o.file, o.lines))
        diagnostics := table.files.map fun file =>
          (file, Diagnostic.sortAndCap limit (problemsOf table outlines file))
        readFailures := failures } := by
  simp only [Snapshot.build] at h
  cases htable : Table.build outlines with
  | error c => rw [htable] at h; cases h
  | ok table =>
      rw [htable] at h
      exact ⟨table, rfl, (Except.ok.inj h).symm⟩

/-- A workspace that is indexed has found its files and built a snapshot of
what they read as. -/
theorem Workspace.exists_of_index_ok {w : Workspace} {source : Source} {version : Nat}
    {s : Snapshot} (h : w.index source version = .ok s) :
    ∃ files, source.discover w.root w.settings = .ok files ∧
      Snapshot.build version
          (Loaded.ofReads (files.map fun p => (p, source.read p))).outlines
          (Loaded.ofReads (files.map fun p => (p, source.read p))).failures
          w.settings.maxDiagnostics = .ok s := by
  rw [Workspace.index] at h
  cases hfiles : source.discover w.root w.settings with
  | error message => rw [hfiles] at h; cases h
  | ok files =>
      simp only [hfiles] at h
      refine ⟨files, rfl, ?_⟩
      cases hbuild : Snapshot.build version
          (Loaded.ofReads (files.map fun p => (p, source.read p))).outlines
          (Loaded.ofReads (files.map fun p => (p, source.read p))).failures
          w.settings.maxDiagnostics with
      | error c => rw [hbuild] at h; cases h
      | ok built =>
          rw [hbuild] at h
          exact congrArg Except.ok (Except.ok.inj h)

/-- A snapshot has the version that it is built for. -/
theorem Workspace.version_of_index {w : Workspace} {source : Source} {version : Nat}
    {s : Snapshot} (h : w.index source version = .ok s) : s.version = version := by
  obtain ⟨files, -, hbuild⟩ := Workspace.exists_of_index_ok h
  obtain ⟨table, -, rfl⟩ := Snapshot.exists_of_build_ok hbuild
  rfl

/-! ### Steps -/

/-- How far a rebuild has come. -/
inductive Progress where
  /-- It has its number. -/
  | started
  /-- It could not index the files. -/
  | failed (reason : IndexError)
  /-- It has built a snapshot. -/
  | indexed (own : Snapshot)
  /-- It has published its own snapshot and was given the current one. -/
  | published (own given : Snapshot)

/-- One rebuild. -/
structure Rebuild where
  version : Nat
  progress : Progress

/-- What a rebuild returns, once it does. -/
def Rebuild.result? (b : Rebuild) : Option (Except IndexError Snapshot) :=
  match b.progress with
  | .started => none
  | .failed reason => some (.error reason)
  | .indexed _ => none
  | .published _ given => some (.ok given)

/-- A workspace and its rebuilds, in the order in which they began. -/
structure Rebuilds where
  workspace : Workspace
  all : List Rebuild

namespace Rebuilds

/-- The next step of a rebuild, which is known by its place. -/
inductive Action where
  /-- A rebuild begins and takes a version number. -/
  | start
  /-- A rebuild finds, reads and indexes the files. -/
  | index (which : Nat) (source : Source)
  /-- A rebuild publishes its snapshot. -/
  | publish (which : Nat)

/-- A workspace before its first rebuild. -/
def fresh (root : Path) (settings : Settings) : Rebuilds := ⟨.start root settings, []⟩

/-- How far indexing brings a rebuild. -/
def indexing (w : Workspace) (source : Source) (version : Nat) : Progress :=
  match w.index source version with
  | .error reason => .failed reason
  | .ok own => .indexed own

/-- Take one action. -/
def step (r : Rebuilds) : Action → Rebuilds
  | .start =>
    let (version, workspace) := r.workspace.nextVersion
    ⟨workspace, r.all ++ [⟨version, .started⟩]⟩
  | .index which source =>
    match r.all[which]? with
    | some ⟨version, .started⟩ =>
      { r with all := r.all.set which ⟨version, indexing r.workspace source version⟩ }
    | _ => r
  | .publish which =>
    match r.all[which]? with
    | some ⟨version, .indexed own⟩ =>
      let workspace := r.workspace.publish own
      ⟨workspace, r.all.set which ⟨version, .published own workspace.current⟩⟩
    | _ => r

/-- Take actions one after the other. -/
def run (r : Rebuilds) (actions : List Action) : Rebuilds := actions.foldl step r

/-! ### What an action can do -/

/-- What an action can do to a workspace and its rebuilds. -/
inductive Change (r : Rebuilds) : Action → Rebuilds → Prop where
  /-- Nothing. -/
  | idle {action : Action} : Change r action r
  /-- A rebuild takes the next number. -/
  | started : Change r .start
      ⟨{ r.workspace with sequence := r.workspace.sequence + 1 },
        r.all ++ [⟨r.workspace.sequence + 1, .started⟩]⟩
  /-- A rebuild fails, and the workspace does not notice. -/
  | failed {which version : Nat} {source : Source} {reason : IndexError}
      (found : r.all[which]? = some ⟨version, .started⟩)
      (fails : r.workspace.index source version = .error reason) :
      Change r (.index which source) { r with all := r.all.set which ⟨version, .failed reason⟩ }
  /-- A rebuild has a snapshot, and the workspace does not know it yet. -/
  | indexed {which version : Nat} {source : Source} {own : Snapshot}
      (found : r.all[which]? = some ⟨version, .started⟩)
      (built : r.workspace.index source version = .ok own) :
      Change r (.index which source) { r with all := r.all.set which ⟨version, .indexed own⟩ }
  /-- A rebuild publishes its snapshot, and the workspace takes it if it is
  newer than the current one. -/
  | published {which version : Nat} {own : Snapshot}
      (found : r.all[which]? = some ⟨version, .indexed own⟩) :
      Change r (.publish which) ⟨r.workspace.publish own,
        r.all.set which ⟨version, .published own (r.workspace.publish own).current⟩⟩

/-- Every action makes one of the changes. -/
theorem step_change (r : Rebuilds) (action : Action) : Change r action (r.step action) := by
  cases action with
  | start => exact .started
  | index which source =>
      rw [step]
      split
      next version found =>
        rw [indexing]
        split
        next reason fails => exact .failed found fails
        next own built => exact .indexed found built
      next => exact .idle
  | publish which =>
      rw [step]
      split
      next version own found => exact .published found
      next => exact .idle

/-- The steps of one rebuild in a row. -/
def alone (r : Rebuilds) (source : Source) : Rebuilds :=
  r.run [.start, .index r.all.length source, .publish r.all.length]

/-- A rebuild whose steps nobody comes between is `Workspace.rebuild`. -/
theorem alone_eq_rebuild (r : Rebuilds) (source : Source) :
    (r.alone source).workspace = (r.workspace.rebuild source).2 ∧
      ((r.alone source).all[r.all.length]?).bind Rebuild.result?
        = some (r.workspace.rebuild source).1 := by
  simp only [alone, run, List.foldl_cons, List.foldl_nil, Workspace.rebuild,
    Workspace.nextVersion, step, List.getElem?_concat_length, indexing]
  cases Workspace.index { r.workspace with sequence := r.workspace.sequence + 1 } source
      (r.workspace.sequence + 1) with
  | error reason => simp [Rebuild.result?]
  | ok own => simp [Rebuild.result?]

/-! ### The invariant -/

/-- A rebuild has published this snapshot. -/
def HasPublished (r : Rebuilds) (s : Snapshot) : Prop :=
  ∃ (k version : Nat) (given : Snapshot), r.all[k]? = some ⟨version, .published s given⟩

/-- The current snapshot is the one with the highest version among those
published, and the empty one as long as there is none. -/
def CurrentIsNewest (r : Rebuilds) : Prop :=
  (∀ s, ¬ r.HasPublished s) ∧ r.workspace.current = .empty ∨
    r.HasPublished r.workspace.current ∧
      ∀ s, r.HasPublished s → s = r.workspace.current ∨ s.version < r.workspace.current.version

/-- What holds of a workspace and its rebuilds in every interleaving. -/
structure Sound (r : Rebuilds) : Prop where
  /-- Rebuilds are numbered in the order in which they begin. -/
  numbered : ∀ (k : Nat) (b : Rebuild), r.all[k]? = some b → b.version = k + 1
  /-- The workspace knows the last number. -/
  sequence : r.workspace.sequence = r.all.length
  /-- A snapshot has the version of its rebuild. -/
  indexed : ∀ (k version : Nat) (own : Snapshot),
    r.all[k]? = some ⟨version, .indexed own⟩ → own.version = version
  /-- It keeps the version when it is published, and what the rebuild is
  given has been published and is no older. -/
  published : ∀ (k version : Nat) (own given : Snapshot),
    r.all[k]? = some ⟨version, .published own given⟩ →
      own.version = version ∧ version ≤ given.version ∧ r.HasPublished given
  /-- The current snapshot is the newest. -/
  newest : r.CurrentIsNewest

/-- The entries of a list with one more at the end. -/
theorem getElem?_concat {α : Type} (xs : List α) (a : α) (k : Nat) :
    (xs ++ [a])[k]? = if k = xs.length then some a else xs[k]? := by
  rw [List.getElem?_append]
  split
  · rw [if_neg (by omega)]
  · split
    · simp [*]
    · rw [List.getElem?_eq_none (by simp; omega), List.getElem?_eq_none (by omega)]

/-- The entries of a list with one of them replaced. -/
theorem getElem?_set_of_some {α : Type} {xs : List α} {i : Nat} {old : α}
    (found : xs[i]? = some old) (a : α) (k : Nat) :
    (xs.set i a)[k]? = if k = i then some a else xs[k]? := by
  have hi : i < xs.length := (List.getElem?_eq_some_iff.1 found).1
  rw [List.getElem?_set]
  split
  next heq => rw [if_pos heq.symm]
  next hne => rw [if_neg (Ne.symm hne)]

/-- Before the first rebuild. -/
theorem sound_fresh (root : Path) (settings : Settings) : (fresh root settings).Sound where
  numbered := by simp [fresh]
  sequence := rfl
  indexed := by simp [fresh]
  published := by simp [fresh]
  newest := Or.inl ⟨by simp [fresh, HasPublished], rfl⟩

/-- Two rebuilds do not publish under one version. -/
theorem Sound.eq_of_version {r : Rebuilds} (h : r.Sound) {s t : Snapshot}
    (hs : r.HasPublished s) (ht : r.HasPublished t) (hversion : s.version = t.version) : s = t := by
  obtain ⟨k, v, given, hk⟩ := hs
  obtain ⟨l, w, given', hl⟩ := ht
  have hkl : k = l := by
    have hv := (h.published k v s given hk).1
    have hw := (h.published l w t given' hl).1
    have hkv := h.numbered k _ hk
    have hlw := h.numbered l _ hl
    simp only at hkv hlw
    omega
  subst hkl
  rw [hk] at hl
  cases hl
  rfl

/-- What is published is no newer than what is current. -/
theorem Sound.version_le {r : Rebuilds} (h : r.Sound) {s : Snapshot} (hs : r.HasPublished s) :
    s.version ≤ r.workspace.current.version := by
  rcases h.newest with ⟨hnone, -⟩ | ⟨-, hnewest⟩
  · exact absurd hs (hnone s)
  · rcases hnewest s hs with rfl | hlt
    · exact Nat.le_refl _
    · exact Nat.le_of_lt hlt

/-- A rebuild that begins publishes nothing. -/
theorem hasPublished_started {r : Rebuilds} {workspace : Workspace} {version : Nat}
    {s : Snapshot} :
    (⟨workspace, r.all ++ [⟨version, .started⟩]⟩ : Rebuilds).HasPublished s
      ↔ r.HasPublished s := by
  simp only [HasPublished, getElem?_concat]
  constructor
  · rintro ⟨k, v, given, hk⟩
    split at hk
    · cases hk
    · exact ⟨k, v, given, hk⟩
  · rintro ⟨k, v, given, hk⟩
    have hlt : k < r.all.length := (List.getElem?_eq_some_iff.1 hk).1
    exact ⟨k, v, given, by rw [if_neg (by omega), hk]⟩

/-- A rebuild that indexes publishes nothing. -/
theorem hasPublished_set {r : Rebuilds} {which version : Nat} {p : Progress} {s : Snapshot}
    (found : r.all[which]? = some ⟨version, .started⟩)
    (hp : ∀ own given, p ≠ .published own given) :
    ({ r with all := r.all.set which ⟨version, p⟩ } : Rebuilds).HasPublished s
      ↔ r.HasPublished s := by
  simp only [HasPublished, getElem?_set_of_some found]
  constructor
  · rintro ⟨k, v, given, hk⟩
    split at hk
    · cases hk
      exact absurd rfl (hp s given)
    · exact ⟨k, v, given, hk⟩
  · rintro ⟨k, v, given, hk⟩
    have hne : k ≠ which := by
      rintro rfl
      rw [found] at hk
      cases hk
    exact ⟨k, v, given, by rw [if_neg hne, hk]⟩

/-- A rebuild that publishes adds its own snapshot. -/
theorem hasPublished_publish {r : Rebuilds} {workspace : Workspace} {which version : Nat}
    {own given s : Snapshot} (found : r.all[which]? = some ⟨version, .indexed own⟩) :
    (⟨workspace, r.all.set which ⟨version, .published own given⟩⟩ : Rebuilds).HasPublished s
      ↔ s = own ∨ r.HasPublished s := by
  simp only [HasPublished, getElem?_set_of_some found]
  constructor
  · rintro ⟨k, v, given, hk⟩
    split at hk
    · cases hk
      exact Or.inl rfl
    · exact Or.inr ⟨k, v, given, hk⟩
  · rintro (rfl | ⟨k, v, given, hk⟩)
    · exact ⟨which, version, given, if_pos rfl⟩
    · have hne : k ≠ which := by
        rintro rfl
        rw [found] at hk
        cases hk
      exact ⟨k, v, given, by rw [if_neg hne, hk]⟩

/-- A rebuild keeps its number, however far it comes. -/
theorem Sound.numbered_set {r : Rebuilds} (h : r.Sound) {which version : Nat} {p : Progress}
    (found : r.all[which]? = some ⟨version, p⟩) (q : Progress) (k : Nat) (b : Rebuild)
    (hb : (r.all.set which ⟨version, q⟩)[k]? = some b) : b.version = k + 1 := by
  rw [getElem?_set_of_some found] at hb
  split at hb
  next hk =>
    have hnumber : version = which + 1 := h.numbered which _ found
    cases hb
    rw [hk]
    exact hnumber
  next => exact h.numbered k b hb

/-- Beginning keeps the invariant. -/
theorem Sound.started {r : Rebuilds} (h : r.Sound) :
    Sound ⟨{ r.workspace with sequence := r.workspace.sequence + 1 },
      r.all ++ [⟨r.workspace.sequence + 1, .started⟩]⟩ where
  numbered k b hb := by
    rw [getElem?_concat] at hb
    split at hb
    next hk =>
      cases hb
      simp only
      rw [hk, h.sequence]
    next => exact h.numbered k b hb
  sequence := by
    rw [List.length_append, List.length_singleton, ← h.sequence]
  indexed k v own hk := by
    rw [getElem?_concat] at hk
    split at hk
    · cases hk
    · exact h.indexed k v own hk
  published k v own given hk := by
    rw [getElem?_concat] at hk
    split at hk
    · cases hk
    · rw [hasPublished_started]
      exact h.published k v own given hk
  newest := by
    simp only [CurrentIsNewest, hasPublished_started]
    exact h.newest

/-- Indexing keeps the invariant, whether it fails or not. -/
theorem Sound.indexing {r : Rebuilds} (h : r.Sound) {which version : Nat} {p : Progress}
    (found : r.all[which]? = some ⟨version, .started⟩)
    (hhidden : ∀ own given, p ≠ .published own given)
    (hown : ∀ own, p = .indexed own → own.version = version) :
    Sound { r with all := r.all.set which ⟨version, p⟩ } where
  numbered := h.numbered_set found p
  sequence := by rw [List.length_set, h.sequence]
  indexed k v own hk := by
    rw [getElem?_set_of_some found] at hk
    split at hk
    · cases hk
      exact hown own rfl
    · exact h.indexed k v own hk
  published k v own given hk := by
    rw [getElem?_set_of_some found] at hk
    split at hk
    · cases hk
      exact absurd rfl (hhidden own given)
    · rw [hasPublished_set found hhidden]
      exact h.published k v own given hk
  newest := by
    simp only [CurrentIsNewest, hasPublished_set found hhidden]
    exact h.newest

/-- The current snapshot after a publication: the new one if it is newer,
otherwise the old one. -/
theorem current_publish (w : Workspace) (own : Snapshot) :
    w.current.version < own.version ∧ (w.publish own).current = own ∨
      own.version ≤ w.current.version ∧ w.publish own = w := by
  rw [Workspace.publish]
  split
  next hnewer => exact Or.inl ⟨hnewer, rfl⟩
  next holder => exact Or.inr ⟨Nat.le_of_not_lt holder, rfl⟩

/-- Publishing keeps the current snapshot the newest. -/
theorem Sound.newest_publish {r : Rebuilds} (h : r.Sound) {which version : Nat} {own : Snapshot}
    (found : r.all[which]? = some ⟨version, .indexed own⟩) (given : Snapshot) :
    CurrentIsNewest
      ⟨r.workspace.publish own, r.all.set which ⟨version, .published own given⟩⟩ := by
  have hnumber : version = which + 1 := h.numbered which _ found
  have hversion := h.indexed which version own found
  refine Or.inr ?_
  simp only [hasPublished_publish found]
  rcases current_publish r.workspace own with ⟨hnewer, hcurrent⟩ | ⟨holder, hsame⟩
  · rw [hcurrent]
    refine ⟨Or.inl rfl, fun s hs => ?_⟩
    rcases hs with rfl | hs
    · exact Or.inl rfl
    · exact Or.inr (Nat.lt_of_le_of_lt (h.version_le hs) hnewer)
  · rw [hsame]
    rcases h.newest with ⟨-, hempty⟩ | ⟨hcurrent, hnewest⟩
    · -- Every number is above that of the empty snapshot.
      rw [hempty] at holder
      simp only [Snapshot.empty] at holder
      omega
    · refine ⟨Or.inr hcurrent, fun s hs => ?_⟩
      rcases hs with rfl | hs
      · -- The current snapshot is that of another rebuild.
        refine Or.inr (Nat.lt_of_le_of_ne holder fun hequal => ?_)
        obtain ⟨k, v, given, hk⟩ := hcurrent
        have hkv : v = k + 1 := h.numbered k _ hk
        have hv := (h.published k v _ given hk).1
        obtain rfl : k = which := by omega
        rw [found] at hk
        cases hk
      · exact hnewest s hs

/-- Publishing keeps the invariant. -/
theorem Sound.publish {r : Rebuilds} (h : r.Sound) {which version : Nat} {own : Snapshot}
    (found : r.all[which]? = some ⟨version, .indexed own⟩) :
    Sound ⟨r.workspace.publish own,
      r.all.set which ⟨version, .published own (r.workspace.publish own).current⟩⟩ where
  numbered := h.numbered_set found _
  sequence := by
    rw [List.length_set, ← h.sequence, Workspace.publish]
    split <;> rfl
  indexed k v s hk := by
    rw [getElem?_set_of_some found] at hk
    split at hk
    · cases hk
    · exact h.indexed k v s hk
  published k v s given hk := by
    rw [getElem?_set_of_some found] at hk
    rw [hasPublished_publish found]
    split at hk
    · cases hk
      have hversion := h.indexed which version own found
      refine ⟨hversion, ?_, ?_⟩
      · rcases current_publish r.workspace own with ⟨-, hcurrent⟩ | ⟨holder, hsame⟩
        · rw [hcurrent]
          exact Nat.le_of_eq hversion.symm
        · rw [hsame, ← hversion]
          exact holder
      · rcases h.newest_publish found own with ⟨hnone, -⟩ | ⟨hcurrent, -⟩
        · exact absurd ((hasPublished_publish found).2 (Or.inl rfl)) (hnone own)
        · exact (hasPublished_publish found).1 hcurrent
    · obtain ⟨hversion, hgiven, hpublished⟩ := h.published k v s given hk
      exact ⟨hversion, hgiven, Or.inr hpublished⟩
  newest := h.newest_publish found _

/-- Every change keeps the invariant. -/
theorem Sound.change {r r' : Rebuilds} {action : Action} (h : r.Sound)
    (hchange : Change r action r') : r'.Sound := by
  cases hchange with
  | idle => exact h
  | started => exact h.started
  | failed found _ => exact h.indexing found (by rintro own given ⟨⟩) (by rintro own ⟨⟩)
  | indexed found built =>
      refine h.indexing found (by rintro own given ⟨⟩) ?_
      rintro own ⟨⟩
      exact Workspace.version_of_index built
  | published found => exact h.publish found

/-- The invariant holds in every interleaving. -/
theorem sound_run {r : Rebuilds} (h : r.Sound) (actions : List Action) : (r.run actions).Sound := by
  induction actions generalizing r with
  | nil => exact h
  | cons action actions ih => exact ih (h.change (step_change r action))

/-! ### Versions -/

/-- What one action leaves of a workspace and its rebuilds. -/
structure Advances (r r' : Rebuilds) : Prop where
  /-- The version of the current snapshot never goes down. -/
  monotone : r.workspace.current.version ≤ r'.workspace.current.version
  /-- Another snapshot becomes current only when its rebuild publishes it. -/
  current : r'.workspace.current = r.workspace.current ∨
    ∃ (k version : Nat) (own : Snapshot), r.all[k]? = some ⟨version, .indexed own⟩ ∧
      r'.all[k]? = some ⟨version, .published own own⟩ ∧ r'.workspace.current = own
  /-- A number that is taken stays with its rebuild. -/
  kept : ∀ (k : Nat) (b : Rebuild), r.all[k]? = some b → ∃ p, r'.all[k]? = some ⟨b.version, p⟩
  /-- A rebuild that has returned takes no further step. -/
  returned : ∀ (k : Nat) (b : Rebuild), r.all[k]? = some b → b.result?.isSome = true →
    r'.all[k]? = some b
  /-- When a rebuild fails, the workspace stays as it is: its snapshot, and
  the last number handed out, which is that of the rebuild or a later one. -/
  failing : ∀ (k version : Nat) (reason : IndexError), r.all[k]? = some ⟨version, .started⟩ →
    r'.all[k]? = some ⟨version, .failed reason⟩ →
    r'.workspace = r.workspace ∧ version ≤ r'.workspace.sequence

/-- A rebuild that comes further leaves the others alone. -/
theorem kept_set {r : Rebuilds} {which version : Nat} {p : Progress}
    (found : r.all[which]? = some ⟨version, p⟩) (q : Progress) (k : Nat) (b : Rebuild)
    (hb : r.all[k]? = some b) : ∃ p, (r.all.set which ⟨version, q⟩)[k]? = some ⟨b.version, p⟩ := by
  rw [getElem?_set_of_some found]
  split
  next hk =>
    subst hk
    rw [found] at hb
    cases hb
    exact ⟨q, rfl⟩
  next => exact ⟨b.progress, hb⟩

/-- A rebuild that comes further leaves those alone that have returned. -/
theorem returned_set {r : Rebuilds} {which version : Nat} {p : Progress}
    (found : r.all[which]? = some ⟨version, p⟩)
    (hopen : (⟨version, p⟩ : Rebuild).result? = none) (q : Progress) (k : Nat) (b : Rebuild)
    (hb : r.all[k]? = some b) (hresult : b.result?.isSome = true) :
    (r.all.set which ⟨version, q⟩)[k]? = some b := by
  rw [getElem?_set_of_some found]
  split
  next hk =>
    subst hk
    rw [found] at hb
    cases hb
    rw [hopen] at hresult
    cases hresult
  next => exact hb

/-- Indexing touches nothing but its rebuild. -/
theorem Sound.advances_indexing {r : Rebuilds} (h : r.Sound) {which version : Nat} (p : Progress)
    (found : r.all[which]? = some ⟨version, .started⟩) :
    Advances r { r with all := r.all.set which ⟨version, p⟩ } where
  monotone := Nat.le_refl _
  current := Or.inl rfl
  kept := kept_set found p
  returned := returned_set found rfl p
  failing k v reason hk _ := by
    have hv : v = k + 1 := h.numbered k _ hk
    have hlt := (List.getElem?_eq_some_iff.1 hk).1
    have hsequence := h.sequence
    exact ⟨rfl, by simp only; omega⟩

/-- Every change is an advance. -/
theorem Sound.advances {r r' : Rebuilds} {action : Action} (h : r.Sound)
    (hchange : Change r action r') : Advances r r' := by
  cases hchange with
  | idle =>
      refine ⟨Nat.le_refl _, Or.inl rfl, fun k b hb => ⟨b.progress, hb⟩, fun k b hb _ => hb, ?_⟩
      intro k v reason hk hk'
      rw [hk] at hk'
      cases hk'
  | started =>
      have hkeeps (k : Nat) (b : Rebuild) (hb : r.all[k]? = some b) :
          (r.all ++ [(⟨r.workspace.sequence + 1, .started⟩ : Rebuild)])[k]? = some b := by
        have hlt : k < r.all.length := (List.getElem?_eq_some_iff.1 hb).1
        rw [getElem?_concat, if_neg (by omega), hb]
      refine ⟨Nat.le_refl _, Or.inl rfl, fun k b hb => ⟨b.progress, hkeeps k b hb⟩,
        fun k b hb _ => hkeeps k b hb, ?_⟩
      intro k v reason hk hk'
      rw [hkeeps k _ hk] at hk'
      cases hk'
  | failed found _ => exact h.advances_indexing _ found
  | indexed found _ => exact h.advances_indexing _ found
  | @published which version own found =>
      refine ⟨?_, ?_, kept_set found _, returned_set found rfl _, ?_⟩
      · rcases current_publish r.workspace own with ⟨hnewer, hcurrent⟩ | ⟨-, hsame⟩
        · simp only [hcurrent]
          exact Nat.le_of_lt hnewer
        · simp only [hsame]
          exact Nat.le_refl _
      · rcases current_publish r.workspace own with ⟨-, hcurrent⟩ | ⟨-, hsame⟩
        · refine Or.inr ⟨which, version, own, found, ?_, hcurrent⟩
          rw [getElem?_set_of_some found, if_pos rfl, hcurrent]
        · exact Or.inl (by rw [hsame])
      · intro k v reason hk hk'
        rw [getElem?_set_of_some found] at hk'
        split at hk'
        · cases hk'
        · rw [hk] at hk'
          cases hk'

/-- No two rebuilds have one version. -/
theorem Sound.nodup_versions {r : Rebuilds} (h : r.Sound) :
    (r.all.map Rebuild.version).Nodup := by
  have hversions : r.all.map Rebuild.version = List.range' 1 r.all.length := by
    refine List.ext_getElem? fun k => ?_
    rw [List.getElem?_map]
    cases hk : r.all[k]? with
    | none =>
        rw [List.getElem?_eq_none (by simpa using List.getElem?_eq_none_iff.1 hk)]
        rfl
    | some b =>
        rw [List.getElem?_range' (List.getElem?_eq_some_iff.1 hk).1, Option.map_some,
          h.numbered k b hk]
        congr 1
        omega
  rw [hversions]
  exact List.nodup_range'

/-- What holds of the versions of a workspace and its rebuilds. -/
structure Versioned (r : Rebuilds) : Prop where
  /-- No two rebuilds have the same version. -/
  distinct : (r.all.map Rebuild.version).Nodup
  /-- The current snapshot is the newest of those published. -/
  newest : r.CurrentIsNewest
  /-- A rebuild that succeeds has published under its version and is given
  a snapshot that is no older. -/
  given : ∀ (k version : Nat) (own given : Snapshot),
    r.all[k]? = some ⟨version, .published own given⟩ →
      own.version = version ∧ version ≤ given.version
  /-- Every next step is an advance. -/
  advances : ∀ action, Advances r (r.step action)
  /-- The steps of one rebuild in a row are `Workspace.rebuild`. -/
  rebuild : ∀ source, (r.alone source).workspace = (r.workspace.rebuild source).2 ∧
    ((r.alone source).all[r.all.length]?).bind Rebuild.result?
      = some (r.workspace.rebuild source).1

/-- In any interleaving of the rebuilds of a workspace, with any of them
failing, versions are as they should be. -/
theorem versioned_run (root : Path) (settings : Settings) (actions : List Action) :
    Versioned ((fresh root settings).run actions) := by
  have hsound := sound_run (sound_fresh root settings) actions
  refine ⟨hsound.nodup_versions, hsound.newest, ?_, ?_, alone_eq_rebuild _⟩
  · intro k version own given hk
    obtain ⟨hversion, hgiven, -⟩ := hsound.published k version own given hk
    exact ⟨hversion, hgiven⟩
  · exact fun action => hsound.advances (step_change _ action)

end Rebuilds

end DefIndex
