import Mathlib.Data.List.Induction
import DefIndex.Discovery
import DefIndex.Proofs.Trees

/-!
# `DefIndex.Proofs.Walkers`: what is relied on of a walker

Discovery works with any walker, so nothing can be said of the files that it
finds without saying what the walker does. This module states what is relied on,
for plain requests: no ignore file counts, and each override leaves out the
folders of one name. It is what libraries that walk under ignore rules document,
and each rule is about one step down, from a folder to one of its entries.

* `Walker.Descends`: a walk visits the folder where it starts and what it comes
  to from there, and it leaves nothing out without a reason.
* `Walker.SkipsHidden`: a name that starts with a dot is a reason, below the
  folder where the walk starts.
* `Walker.SkipsOverridden`: an override is a reason for the folders of its name,
  however deep they lie.
* `Walker.TakesNames`: overrides of this kind are taken.

`Walker.mem_visits_concat_iff` is the step that follows from these rules, and by
induction on the names on the way down `Walker.mem_visits_file_iff` says which
files are visited.
-/

set_option autoImplicit false

namespace DefIndex

/-- A name without separators and without characters that a glob gives a
meaning to outside a class or a group. -/
def Glob.PlainName (name : Text) : Prop :=
  ∀ c ∈ name, c ∉ ['/', '*', '?', '[', '{', '}', '\\']

instance (name : Text) : Decidable (Glob.PlainName name) :=
  List.decidableBAll (fun c => c ∉ ['/', '*', '?', '[', '{', '}', '\\']) name

namespace WalkRequest

/-- Each line leaves out the folders of a plain name. -/
def NamesFolders (lines : List Text) : Prop :=
  ∀ line ∈ lines, ∃ dir, Glob.PlainName dir ∧ line = Discovery.exclusion dir

/-- A request to walk below a folder of a disk in which no ignore file counts
and the overrides leave out the folders of plain names. -/
structure PlainOn (disk : Disk) (q : WalkRequest) : Prop where
  proper : disk.root.Proper
  folder : ∃ entries, disk.root.find? q.root = some (.folder entries)
  unignored : q.respectsIgnore = false
  named : NamesFolders q.overrides

/-- The request leaves out entries of this name for the dot at its start. -/
def Hides (q : WalkRequest) (name : Segment) : Prop :=
  q.skipsHidden = true ∧ name.isHidden = true

/-- An override of the request leaves out the folders of this name. -/
def Excludes (q : WalkRequest) (name : Segment) : Prop :=
  ∃ dir, name = .name dir ∧ Discovery.exclusion dir ∈ q.overrides

end WalkRequest

namespace Walker

/-! ### Rules -/

/-- A plain walk goes down from the folder where it starts. -/
structure Descends (w : Walker) : Prop where
  /-- Nothing is visited twice. -/
  nodup : ∀ {disk q}, q.PlainOn disk → (w.visits disk q).Nodup
  /-- The folder where it starts is visited. -/
  start : ∀ {disk q}, q.PlainOn disk → [] ∈ w.visits disk q
  /-- What is visited is there. -/
  there : ∀ {disk q}, q.PlainOn disk → ∀ below ∈ w.visits disk q,
    (disk.root.find? (q.root ++ below)).isSome = true
  /-- The walk comes to an entry from the folder that holds it. -/
  through : ∀ {disk q}, q.PlainOn disk → ∀ {front name},
    front ++ [name] ∈ w.visits disk q → front ∈ w.visits disk q
  /-- From a folder it goes on to each entry that there is no reason to leave
  out. -/
  onward : ∀ {disk q}, q.PlainOn disk → ∀ {front name e}, front ∈ w.visits disk q →
    disk.root.find? (q.root ++ (front ++ [name])) = some e →
    ¬q.Hides name → ¬(e.isFolder = true ∧ q.Excludes name) → front ++ [name] ∈ w.visits disk q

/-- Hidden entries are skipped below the folder where a plain walk starts. -/
def SkipsHidden (w : Walker) : Prop :=
  ∀ {disk q}, q.PlainOn disk → ∀ {front name}, q.Hides name → front ++ [name] ∉ w.visits disk q

/-- An override skips the folders of its name in a plain walk, at any depth. -/
def SkipsOverridden (w : Walker) : Prop :=
  ∀ {disk q}, q.PlainOn disk → ∀ {front name entries}, q.Excludes name →
    disk.root.find? (q.root ++ (front ++ [name])) = some (.folder entries) →
    front ++ [name] ∉ w.visits disk q

/-- Overrides that leave out the folders of plain names are taken, one by one
and together. -/
structure TakesNames (w : Walker) : Prop where
  accepts : ∀ {dir}, Glob.PlainName dir → w.accepts (Discovery.exclusion dir) = true
  fault? : ∀ {lines}, WalkRequest.NamesFolders lines → w.fault? lines = none

/-! ### What is visited -/

section

variable {w : Walker} (hdescends : w.Descends) (hhidden : w.SkipsHidden)
  (hoverridden : w.SkipsOverridden) {disk : Disk} {q : WalkRequest} (hq : q.PlainOn disk)

include hdescends hhidden hoverridden hq

/-- One step down: an entry is visited if its folder is, unless it is left
out. -/
theorem mem_visits_concat_iff {front : List Segment} {name : Segment} {e : Entry}
    (he : disk.root.find? (q.root ++ (front ++ [name])) = some e) :
    front ++ [name] ∈ w.visits disk q ↔
      front ∈ w.visits disk q ∧ ¬q.Hides name ∧ ¬(e.isFolder = true ∧ q.Excludes name) := by
  constructor
  · intro h
    refine ⟨hdescends.through hq h, fun hhides => hhidden hq hhides h, ?_⟩
    rintro ⟨hfolder, hexcludes⟩
    cases e with
    | file content => cases hfolder
    | folder entries => exact hoverridden hq hexcludes he h
  · rintro ⟨hfront, hvisible, hstays⟩
    exact hdescends.onward hq hfront he hvisible hstays

/-- A folder is visited if nothing on the way to it is left out. -/
theorem mem_visits_folder_iff {below : List Segment} {entries : List (Segment × Entry)}
    (hfolder : disk.root.find? (q.root ++ below) = some (.folder entries)) :
    below ∈ w.visits disk q ↔ ∀ name ∈ below, ¬q.Hides name ∧ ¬q.Excludes name := by
  induction below using List.reverseRecOn generalizing entries with
  | nil => simp [hdescends.start hq]
  | append_singleton front name ih =>
      have hstep := mem_visits_concat_iff hdescends hhidden hoverridden hq hfolder
      rw [← List.append_assoc] at hfolder
      obtain ⟨above, habove⟩ := Entry.exists_folder_of_find?_concat hfolder
      rw [hstep, ih habove, List.forall_mem_append, List.forall_mem_singleton]
      simp [Entry.isFolder]

/-- A file is visited if nothing on the way to it is left out, while it may have
the name of a folder that is. -/
theorem mem_visits_file_iff {below : List Segment} {content : Content}
    (hfile : disk.root.find? (q.root ++ below) = some (.file content)) :
    below ∈ w.visits disk q ↔
      (∀ name ∈ below, ¬q.Hides name) ∧ ∀ name ∈ below.dropLast, ¬q.Excludes name := by
  rcases List.eq_nil_or_concat' below with rfl | ⟨front, name, rfl⟩
  · -- The walk starts in a folder.
    obtain ⟨entries, hfolder⟩ := hq.folder
    rw [List.append_nil, hfolder] at hfile
    cases hfile
  · have hstep := mem_visits_concat_iff hdescends hhidden hoverridden hq hfile
    rw [← List.append_assoc] at hfile
    obtain ⟨above, habove⟩ := Entry.exists_folder_of_find?_concat hfile
    rw [hstep, mem_visits_folder_iff hdescends hhidden hoverridden hq habove,
      List.forall_mem_append, List.forall_mem_singleton, List.dropLast_concat, forall₂_and]
    constructor
    · rintro ⟨⟨hvisible, hstays⟩, hname, -⟩
      exact ⟨⟨hvisible, hname⟩, hstays⟩
    · rintro ⟨⟨hvisible, hname⟩, hstays⟩
      exact ⟨⟨hvisible, hstays⟩, hname, by simp [Entry.isFolder]⟩

end

end Walker

end DefIndex
