import Mathlib.Data.List.Nodup
import DefIndex.Disk
import DefIndex.Proofs.NormalForm

/-!
# `DefIndex.Proofs.Trees`: trees as a disk holds them

`Entry` allows trees that no disk holds: two entries of one name, or names such
as `..` that lead elsewhere. `Segment.ProperName` says what a file or a folder
can be called, whether its name is text or not, and `Entry.Proper` is a tree in
which every entry has such a name and each folder holds a name at most once.

* `Segment.ProperName.bytes_eq_utf8_iff`: a name with the bytes of a text is this
  text.
* `Entry.find?_append` walks down in two steps.
* `Entry.Proper.write`: what is written to a proper tree under proper names is a
  proper tree again.
-/

set_option autoImplicit false

namespace DefIndex

/-! ### Names -/

namespace Segment

/-- What a file or a folder can be called. -/
def ProperName : Segment → Prop
  | here => False
  | up => False
  | name t => t ≠ [] ∧ '/' ∉ t ∧ t ≠ ['.'] ∧ t ≠ ['.', '.']
  | raw bytes => bytes ≠ [] ∧ Path.separatorByte ∉ bytes ∧ Text.ofUtf8? bytes = none

instance : DecidablePred ProperName
  | here => inferInstanceAs (Decidable False)
  | up => inferInstanceAs (Decidable False)
  | name t => inferInstanceAs (Decidable (t ≠ [] ∧ '/' ∉ t ∧ t ≠ ['.'] ∧ t ≠ ['.', '.']))
  | raw bytes => inferInstanceAs
      (Decidable (bytes ≠ [] ∧ Path.separatorByte ∉ bytes ∧ Text.ofUtf8? bytes = none))

namespace ProperName

variable {s : Segment}

/-- A name goes down. -/
theorem goesDown (h : s.ProperName) : s.GoesDown := by
  cases s with
  | here => cases h
  | up => cases h
  | name t => simp [GoesDown]
  | raw bytes => simp [GoesDown]

/-- A name with the bytes of a text is this text. -/
theorem bytes_eq_utf8_iff (h : s.ProperName) {t : Text} :
    s.bytes = Text.utf8 t ↔ s = .name t := by
  cases s with
  | here => cases h
  | up => cases h
  | name t' => simp [bytes, render, Text.utf8_inj]
  | raw bytes =>
      -- These bytes are no text.
      have hne : bytes ≠ Text.utf8 t := by
        rintro rfl
        exact absurd (h.2.2.symm.trans (Text.ofUtf8?_utf8 t)) nofun
      simp [Segment.bytes, hne]

end ProperName

end Segment

/-! ### Trees -/

namespace Entry

/-- A tree of files and folders in which each folder holds a name at most
once. -/
inductive Proper : Entry → Prop where
  | file (content : Content) : Proper (.file content)
  | folder {entries : List (Segment × Entry)} (distinct : (entries.map Prod.fst).Nodup)
      (named : ∀ entry ∈ entries, entry.1.ProperName)
      (inside : ∀ entry ∈ entries, Proper entry.2) : Proper (.folder entries)

/-- A folder with nothing in it. -/
theorem Proper.folder_nil : Proper (.folder []) :=
  .folder List.nodup_nil (by simp) (by simp)

/-- A name that is looked up stands in the folder. -/
theorem mem_of_lookup {entries : List (Segment × Entry)} {name : Segment} {e : Entry}
    (h : entries.lookup name = some e) : (name, e) ∈ entries := by
  obtain ⟨before, after, rfl, -⟩ := List.lookup_eq_some_iff.1 h
  exact List.mem_append_right _ List.mem_cons_self

/-- Where each name stands once, what stands in the folder is looked up. -/
theorem lookup_eq_some_iff_mem {entries : List (Segment × Entry)}
    (hdistinct : (entries.map Prod.fst).Nodup) {name : Segment} {e : Entry} :
    entries.lookup name = some e ↔ (name, e) ∈ entries := by
  refine ⟨mem_of_lookup, fun hmem => ?_⟩
  cases hlookup : entries.lookup name with
  | none => simpa using List.lookup_eq_none_iff.1 hlookup _ hmem
  | some other =>
      have hsame := List.inj_on_of_nodup_map hdistinct (mem_of_lookup hlookup) hmem rfl
      exact congrArg (some ∘ Prod.snd) hsame

/-- Names are walked one list after the other. -/
theorem find?_append (e : Entry) (front below : List Segment) :
    e.find? (front ++ below) = (e.find? front).bind fun e' => e'.find? below := by
  induction front generalizing e with
  | nil => rfl
  | cons name front ih => simp only [List.cons_append, find?, ih, Option.bind_assoc]

/-- What has an entry below it is a folder. -/
theorem exists_folder_of_find?_concat {e e' : Entry} {names : List Segment} {name : Segment}
    (h : e.find? (names ++ [name]) = some e') :
    ∃ entries, e.find? names = some (.folder entries) := by
  rw [find?_append] at h
  obtain ⟨above, habove, hbelow⟩ := Option.bind_eq_some_iff.1 h
  cases above with
  | file content => cases hbelow
  | folder entries => exact ⟨entries, habove⟩

/-- Everything in a tree is a tree. -/
theorem Proper.find? {e e' : Entry} (h : e.Proper) {names : List Segment}
    (hfound : e.find? names = some e') : e'.Proper := by
  induction names generalizing e with
  | nil =>
      obtain rfl := Option.some.inj hfound
      exact h
  | cons name names ih =>
      obtain ⟨child, hchild, hbelow⟩ := Option.bind_eq_some_iff.1 hfound
      cases h with
      | file content => cases hchild
      | folder distinct named inside =>
          have hproper : child.Proper := inside _ (mem_of_lookup hchild)
          exact ih hproper hbelow

/-- The names that lead to an entry of a tree are proper. -/
theorem Proper.properName_of_find? {e : Entry} (h : e.Proper) {names : List Segment}
    (hfound : (e.find? names).isSome = true) : ∀ name ∈ names, name.ProperName := by
  induction names generalizing e with
  | nil => exact List.forall_mem_nil _
  | cons name names ih =>
      obtain ⟨e', he'⟩ := Option.isSome_iff_exists.1 hfound
      obtain ⟨child, hchild, hbelow⟩ := Option.bind_eq_some_iff.1 he'
      cases h with
      | file content => cases hchild
      | folder distinct named inside =>
          have hmem := mem_of_lookup hchild
          refine List.forall_mem_cons.2 ⟨named _ hmem, ih (inside _ hmem) ?_⟩
          rw [hbelow, Option.isSome_some]

/-- Names that lead on from a place in a tree go down. -/
theorem Proper.goesDown_below {e : Entry} (h : e.Proper) {front below : List Segment}
    (hfound : (e.find? (front ++ below)).isSome = true) : ∀ s ∈ below, s.GoesDown := by
  intro s hs
  exact (h.properName_of_find? hfound s (List.mem_append_right _ hs)).goesDown

/-- An entry under a name, in place of the one that had it or behind all
others. -/
theorem Proper.putChild {entries : List (Segment × Entry)} (h : Proper (.folder entries))
    {name : Segment} (hname : name.ProperName) {e : Entry} (he : e.Proper) :
    Proper (.folder (putChild entries name e)) := by
  obtain ⟨distinct, named, inside⟩ : _ ∧ _ ∧ _ := by
    cases h with
    | folder distinct named inside => exact ⟨distinct, named, inside⟩
  rw [Entry.putChild]
  split
  next hthere =>
    have hfst : (entries.map fun old => if old.1 = name then (name, e) else old).map Prod.fst
        = entries.map Prod.fst := by
      rw [List.map_map]
      refine List.map_congr_left fun old _ => ?_
      by_cases hold : old.1 = name <;> simp [hold]
    refine .folder (hfst ▸ distinct) (List.forall_mem_map.2 fun old hold => ?_)
      (List.forall_mem_map.2 fun old hold => ?_)
    · split
      · exact hname
      · exact named old hold
    · split
      · exact he
      · exact inside old hold
  next hthere =>
    have hnew : name ∉ entries.map Prod.fst := by
      rw [List.mem_map]
      rintro ⟨old, hold, rfl⟩
      exact hthere (List.any_eq_true.2 ⟨old, hold, decide_eq_true rfl⟩)
    refine .folder ?_ ?_ ?_
    · rw [List.map_append, List.map_singleton, ← List.concat_eq_append]
      exact distinct.concat hnew
    · exact List.forall_mem_append.2 ⟨named, List.forall_mem_singleton.2 hname⟩
    · exact List.forall_mem_append.2 ⟨inside, List.forall_mem_singleton.2 he⟩

/-- A file that is written, with the folders on the way to it. -/
theorem Proper.write {e : Entry} (h : e.Proper) {names : List Segment}
    (hnames : ∀ name ∈ names, name.ProperName) (content : Content) :
    (write content names e).Proper := by
  induction names generalizing e with
  | nil => exact .file content
  | cons name names ih =>
      obtain ⟨hname, hnames⟩ := List.forall_mem_cons.1 hnames
      -- A file in the way is replaced by an empty folder.
      obtain ⟨entries, hentries, hwrite⟩ : ∃ entries, Proper (.folder entries) ∧
          Entry.write content (name :: names) e = .folder (Entry.putChild entries name
            (Entry.write content names ((entries.lookup name).getD (.folder [])))) := by
        cases e with
        | file old => exact ⟨[], .folder_nil, rfl⟩
        | folder entries => exact ⟨entries, h, rfl⟩
      rw [hwrite]
      refine hentries.putChild hname (ih ?_ hnames)
      cases hlookup : entries.lookup name with
      | none => exact .folder_nil
      | some old =>
          cases hentries with
          | folder distinct named inside => exact inside _ (mem_of_lookup hlookup)

/-- Files that are written one after the other. -/
theorem Proper.foldl_write {disk : Disk} (h : disk.root.Proper)
    {files : List (List Segment × Content)}
    (hnames : ∀ file ∈ files, ∀ name ∈ file.1, name.ProperName) :
    (files.foldl (fun disk file => disk.write file.1 file.2) disk).root.Proper := by
  induction files generalizing disk with
  | nil => exact h
  | cons file files ih =>
      obtain ⟨hfile, hfiles⟩ := List.forall_mem_cons.1 hnames
      exact ih (h.write hfile file.2) hfiles

end Entry

/-- Names lead to a file if one is found there. -/
theorem Disk.isFile_iff {disk : Disk} {names : List Segment} :
    disk.isFile names = true ↔ ∃ content, disk.root.find? names = some (.file content) := by
  rw [isFile]
  split
  next content hfind => simp [hfind]
  next hnone => simpa using hnone

end DefIndex
