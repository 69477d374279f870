import Mathlib.Data.List.Forall2
import DefIndex.Outline
import DefIndex.Proofs.NormalForm

/-!
# `DefIndex.Proofs.Routes`: an import finds the file it is meant for

An import names a file as seen from the folder of the importing file. The
way there leads up to some directory that is above both files, one `..` for
each folder on the way, and down again by name. This file proves that the
path which such an import is resolved to is the file, whichever directory
the way goes over, and however its separators are written.

Four things happen on the way from the written text to the path, and each
has its lemma here.

* Backslashes become slashes (`Text.map_turned`).
* The text is read as a path and joined to the folder
  (`Path.join_parse_of_spells`).
* A name without an extension gets the one of source files. Whether it has
  one is asked before `..` is folded, so the last name has to decide
  (`Path.fileName?_append`).
* What goes up takes off what was above the folder's end
  (`Path.foldl_down_up`, `Path.normalize_over`).

`Path.leads_route` puts them together.
-/

set_option autoImplicit false

namespace DefIndex

/-! ### Written ways -/

namespace Text

/-- Slashes instead of backslashes. -/
def slashed (t : Text) : Text := t.map fun c => if c = '\\' then '/' else c

/-- A text with any of its slashes turned into backslashes. -/
def Turned (t raw : Text) : Prop := List.Forall₂ (fun c r => r = c ∨ c = '/' ∧ r = '\\') t raw

/-- Turning no slash is turning some. -/
theorem turned_self (t : Text) : Turned t t := List.forall₂_same.2 fun _ _ => Or.inl rfl

/-- Turned slashes are turned back. -/
theorem map_turned {t raw : Text} (h : Turned t raw) (hplain : '\\' ∉ t) : slashed raw = t := by
  induction h with
  | nil => rfl
  | @cons c r cs rs hc _ ih =>
      obtain ⟨hne, hcs⟩ := not_or.1 (List.mem_cons.not.1 hplain)
      have hr : (if r = '\\' then '/' else r) = c := by
        rcases hc with rfl | ⟨rfl, rfl⟩
        · exact if_neg (Ne.symm hne)
        · rfl
      rw [slashed, List.map_cons, hr]
      exact congrArg (c :: ·) (ih hcs)

/-- The characters of joined texts are those of the texts and the separator. -/
theorem mem_join {sep c : Char} {ts : List Text} (h : c ∈ join [sep] ts) :
    c = sep ∨ ∃ t ∈ ts, c ∈ t := by
  induction ts with
  | nil => cases h
  | cons t ts ih =>
      cases ts with
      | nil => exact Or.inr ⟨t, List.mem_cons_self, h⟩
      | cons u us =>
          rw [join, List.mem_append, List.mem_append, List.mem_singleton] at h
          · rcases h with (h | h) | h
            · exact Or.inr ⟨t, List.mem_cons_self, h⟩
            · exact Or.inl h
            · rcases ih h with hsep | ⟨v, hv, hc⟩
              · exact Or.inl hsep
              · exact Or.inr ⟨v, List.mem_cons_of_mem _ hv, hc⟩
          · exact List.cons_ne_nil _ _

/-- What ends the last text ends the joined texts. -/
theorem join_concat_append (sep t u : Text) (ts : List Text) :
    join sep (ts ++ [t ++ u]) = join sep (ts ++ [t]) ++ u := by
  by_cases hne : ts = []
  · subst hne
    rfl
  · rw [Dotted.join_append_singleton sep _ hne, Dotted.join_append_singleton sep _ hne,
      List.append_assoc, List.append_assoc, List.append_assoc]

end Text

namespace Path

/-- A directory is a path or stands above it. -/
structure Above (c p : Path) : Prop where
  absolute : c.absolute = p.absolute
  segments : c.segments <+: p.segments

/-- The segments of a path behind those of a directory above it. -/
def beyond (c p : Path) : List Segment := p.segments.drop c.segments.length

/-- The way from a folder to a target over a directory above both, as it is
written: a `..` for each folder up to the directory, then the names down to
the target, and slashes between. -/
def route (common folder target : Path) : Text :=
  Text.join ['/'] ((beyond common folder).map (fun _ => ['.', '.'])
    ++ (beyond common target).map Segment.render)

/-- A text spells a way: it is the way, possibly with `./` in front, and any
slashes may be turned. -/
def Spells (raw way : Text) : Prop := ∃ lead ∈ [[], ['.', '/']], Text.Turned (lead ++ way) raw

/-- Written ways that lead from an importing file to a target. -/
structure Leads (importer target : Path) (way : Text) : Prop where
  /-- The way leads there as it is. -/
  straight : importPath importer way = target
  /-- However it is spelled, it leads there. -/
  spelled : ∀ raw, Spells raw way → importPath importer raw = target
  /-- If the target is a source file and has no other dot in its name, the
  extension may be left out. -/
  bare : ∀ stem, target.fileName? = some (stem ++ '.' :: sourceExtension) → '.' ∉ stem →
    ∃ short, way = short ++ '.' :: sourceExtension ∧
      ∀ raw, Spells raw short → importPath importer raw = target

/-! ### Reading a way -/

/-- A `.` that is kept at the start is dropped with the others. -/
theorem dropHere_keepLeadingHere (segments : List Segment) :
    dropHere (keepLeadingHere segments) = dropHere segments := by
  have hagain : dropHere (dropHere segments) = dropHere segments :=
    List.filter_filter .. |>.trans (by simp [dropHere])
  rw [keepLeadingHere.eq_def]
  split
  · exact hagain
  · exact hagain

section Spelled

variable {segments : List Segment} (hwritten : ∀ s ∈ segments, s.Written)
  (hplain : ∀ s ∈ segments, '\\' ∉ s.render) (hhere : .here ∉ segments) (hne : segments ≠ [])

include hwritten hplain hhere hne

/-- However a way is spelled, it goes on from a folder as it does. -/
theorem join_parse_of_spells {raw : Text}
    (h : Spells raw (Text.join ['/'] (segments.map Segment.render))) {folder : Path}
    (hfolder : folder.absolute = true) :
    folder.join (parse (Text.slashed raw)) = ⟨true, folder.segments ++ segments⟩ := by
  -- Whether it is there or not, a `.` in front is dropped.
  have hread : ∃ named : List Segment, parse (Text.slashed raw) = ⟨false, named⟩ ∧
      dropHere named = segments := by
    obtain ⟨lead, hlead, hturned⟩ := h
    have hback : '\\' ∉ lead ++ Text.join ['/'] (segments.map Segment.render) := by
      rw [List.mem_append, not_or]
      refine ⟨?_, fun hmem => ?_⟩
      · simp only [List.mem_cons, List.not_mem_nil, or_false] at hlead
        rcases hlead with rfl | rfl <;> decide
      · rcases Text.mem_join hmem with hslash | ⟨t, ht, hmem⟩
        · exact absurd hslash (by decide)
        · obtain ⟨s, hs, rfl⟩ := List.mem_map.1 ht
          exact hplain s hs hmem
    rw [Text.map_turned hturned hback]
    simp only [List.mem_cons, List.not_mem_nil, or_false] at hlead
    rcases hlead with rfl | rfl
    · refine ⟨_, parse_join hwritten, ?_⟩
      rw [dropHere_keepLeadingHere, dropHere_eq_self hhere]
    · have hall : ∀ s ∈ .here :: segments, s.Written :=
        List.forall_mem_cons.2 ⟨⟨by decide, by decide, rfl⟩, hwritten⟩
      have hjoin : ['.', '/'] ++ Text.join ['/'] (segments.map Segment.render)
          = Text.join ['/'] ((.here :: segments).map Segment.render) := by
        obtain ⟨s, rest, rfl⟩ := List.exists_cons_of_ne_nil hne
        rfl
      refine ⟨_, hjoin ▸ parse_join hall, ?_⟩
      rw [dropHere_keepLeadingHere]
      exact dropHere_eq_self hhere
  obtain ⟨named, hparse, hnamed⟩ := hread
  rw [hparse, join, if_neg Bool.false_ne_true, hfolder, if_pos (Bool.true_or _), hnamed]

end Spelled

/-! ### Names and extensions -/

/-- A path with the extension of source files if it has none. -/
def completed (p : Path) : Path :=
  if p.extension?.isNone then p.withExtension sourceExtension else p

/-- What an import is resolved to. -/
theorem importPath_eq (importer : Path) (raw : Text) : importPath importer raw
    = (completed ((importer.parent?.getD .empty).join (parse (Text.slashed raw)))).normalize := rfl

/-- A path with an extension stays as it is. -/
theorem completed_of_isSome {p : Path} (h : p.extension?.isSome = true) : completed p = p := by
  rw [completed, if_neg]
  rwa [Option.isNone_iff_eq_none, ← ne_eq, Option.ne_none_iff_isSome]

/-- The last segment of a path is what its name and its extension are read
off. -/
theorem fileName?_append (absolute : Bool) (front : List Segment) {back : List Segment}
    (hne : back ≠ []) : fileName? ⟨absolute, front ++ back⟩ = fileName? ⟨absolute, back⟩ := by
  rw [fileName?, fileName?, List.getLast?_append_of_ne_nil _ hne]

/-- A name without a dot gets the extension of source files. -/
theorem completed_concat (absolute : Bool) (front : List Segment) {stem : Text}
    (h : '.' ∉ stem) : completed ⟨absolute, front ++ [.name stem]⟩
      = ⟨absolute, front ++ [.name (stem ++ '.' :: sourceExtension)]⟩ := by
  have hname : fileName? ⟨absolute, front ++ [.name stem]⟩ = some stem := by
    rw [fileName?_append _ _ (List.cons_ne_nil _ _)]
    rfl
  have hnone : extension? ⟨absolute, front ++ [.name stem]⟩ = none := by
    rw [extension?, hname, Option.bind_some, Segment.extensionOf, Text.cut_of_notMem h]
  simp only [completed, hnone, Option.isNone_none, if_true, withExtension, hname,
    List.dropLast_concat]

/-- The name of a path is its last segment. -/
theorem exists_of_fileName? {absolute : Bool} {segments : List Segment} {t : Text}
    (h : fileName? ⟨absolute, segments⟩ = some t) : ∃ front, segments = front ++ [.name t] := by
  rw [fileName?.eq_def] at h
  split at h
  next u hlast =>
    obtain rfl := Option.some.inj h
    exact List.getLast?_eq_some_iff.1 hlast
  next => cases h

/-! ### Up and down again -/

/-- Going down by names and up as many times leads nowhere. -/
theorem foldl_down_up {absolute : Bool} {stack names : List Segment}
    (h : ∀ s ∈ names, s.GoesDown) :
    (names ++ List.replicate names.length Segment.up).foldl (fold absolute) stack = stack := by
  induction names generalizing stack with
  | nil => rfl
  | cons s names ih =>
      obtain ⟨hs, hnames⟩ := List.forall_mem_cons.1 h
      rw [List.length_cons, List.replicate_succ', ← List.append_assoc, List.foldl_concat,
        List.cons_append, List.foldl_cons, fold_of_goesDown hs, ih hnames]
      exact fold_up_cons hs

/-- All segments of an absolute path in shortest form go down. -/
theorem Normal.goesDown {p : Path} (h : Normal p) (habsolute : p.absolute = true) :
    ∀ s ∈ p.segments, s.GoesDown := by
  obtain ⟨n, names, hsegments, hnames, hroot⟩ := h.exists_eq
  rw [hroot habsolute] at hsegments
  rw [hsegments]
  exact hnames

/-- A way up from a folder and down to a target is folded to the target. -/
theorem normalize_over {common up down : List Segment} (hcommon : ∀ s ∈ common, s.GoesDown)
    (hup : ∀ s ∈ up, s.GoesDown) (hdown : ∀ s ∈ down, s.GoesDown) :
    normalize ⟨true, common ++ up ++ (List.replicate up.length Segment.up ++ down)⟩
      = ⟨true, common ++ down⟩ := by
  have hsplit : common ++ up ++ (List.replicate up.length Segment.up ++ down)
      = common ++ (up ++ List.replicate up.length Segment.up) ++ down := by
    simp only [List.append_assoc]
  rw [normalize, hsplit, List.foldl_append, List.foldl_append, foldl_down_up hup,
    foldl_of_goesDown hcommon, foldl_of_goesDown hdown]
  simp

/-! ### Ways that lead to a target -/

/-- Behind a directory above it a path goes on. -/
theorem Above.segments_eq {c p : Path} (h : c.Above p) :
    p.segments = c.segments ++ beyond c p := by
  obtain ⟨rest, hrest⟩ := h.segments
  rw [beyond, ← hrest, List.drop_left]

/-- A way is written with the segments that it takes. -/
theorem route_eq (common folder target : Path) : route common folder target
    = Text.join ['/'] ((List.replicate (beyond common folder).length Segment.up
      ++ beyond common target).map Segment.render) := by
  rw [route, List.map_append, List.map_const', List.map_replicate]
  rfl

/-- A name without its extension can be written if the name can. -/
theorem written_stem {stem ext : Text} (h : (Segment.name (stem ++ '.' :: ext)).Written)
    (hne : stem ≠ []) (hdot : '.' ∉ stem) : (Segment.name stem).Written := by
  refine ⟨hne, fun hslash => h.2.1 (List.mem_append_left _ hslash), ?_⟩
  have hone : stem ≠ ['.'] := fun heq => hdot (by simp [heq])
  have htwo : stem ≠ ['.', '.'] := fun heq => hdot (by simp [heq])
  rw [Segment.render, Segment.ofText, if_neg hone, if_neg htwo]

section Ways

variable {importer folder : Path} {common up down : List Segment}
  (hparent : importer.parent? = some folder) (hfolder : folder = ⟨true, common ++ up⟩)
  (hdown : ∀ s ∈ down, s.GoesDown) (hwritten : ∀ s ∈ down, s.Written ∧ '\\' ∉ s.render)

include hparent hfolder hdown hwritten

/-- A way is gone from the folder of the importing file, however it is
spelled. -/
theorem importPath_of_spells (hne : down ≠ []) {raw : Text} (h : Spells raw
      (Text.join ['/'] ((List.replicate up.length Segment.up ++ down).map Segment.render))) :
    importPath importer raw
      = (completed ⟨true, common ++ up ++ (List.replicate up.length .up ++ down)⟩).normalize := by
  have hall : ∀ s ∈ List.replicate up.length .up ++ down,
      s.Written ∧ '\\' ∉ s.render ∧ s ≠ .here := by
    intro s hs
    rcases List.mem_append.1 hs with hs | hs
    · obtain ⟨-, rfl⟩ := List.mem_replicate.1 hs
      exact ⟨⟨by decide, by decide, rfl⟩, by decide, by decide⟩
    · exact ⟨(hwritten s hs).1, (hwritten s hs).2, (hdown s hs).1⟩
  rw [importPath_eq, hparent, Option.getD_some, hfolder,
    join_parse_of_spells (fun s hs => (hall s hs).1) (fun s hs => (hall s hs).2.1)
      (fun hmem => (hall _ hmem).2.2 rfl) (by simp [hne]) h rfl]

variable (hcommon : ∀ s ∈ common, s.GoesDown) (hup : ∀ s ∈ up, s.GoesDown)

include hcommon hup

/-- A way to a name with an extension leads there. -/
theorem importPath_of_isSome (hextension : (extension? ⟨true, down⟩).isSome = true) {raw : Text}
    (h : Spells raw
      (Text.join ['/'] ((List.replicate up.length Segment.up ++ down).map Segment.render))) :
    importPath importer raw = ⟨true, common ++ down⟩ := by
  have hne : down ≠ [] := by
    rintro rfl
    cases hextension
  have hsome : (extension? ⟨true, common ++ up ++ (List.replicate up.length .up ++ down)⟩).isSome
      = true := by
    rwa [← List.append_assoc, extension?, fileName?_append _ _ hne]
  rw [importPath_of_spells hparent hfolder hdown hwritten hne h, completed_of_isSome hsome,
    normalize_over hcommon hup hdown]

/-- A way to the name of a source file leads there without the extension. -/
theorem importPath_of_stem {front : List Segment} {stem : Text}
    (hfile : down = front ++ [Segment.name (stem ++ '.' :: sourceExtension)]) (hne : stem ≠ [])
    (hdot : '.' ∉ stem) {raw : Text} (h : Spells raw (Text.join ['/']
      ((List.replicate up.length Segment.up ++ (front ++ [Segment.name stem])).map Segment.render))) :
    importPath importer raw = ⟨true, common ++ down⟩ := by
  subst hfile
  obtain ⟨hfrontDown, -⟩ := List.forall_mem_append.1 hdown
  obtain ⟨hfront, hlast⟩ := List.forall_mem_append.1 hwritten
  obtain ⟨hname, hback⟩ := hlast _ (List.mem_singleton_self _)
  have hstemDown : ∀ s ∈ front ++ [Segment.name stem], s.GoesDown :=
    List.forall_mem_append.2 ⟨hfrontDown, by simp [Segment.GoesDown]⟩
  have hstem : ∀ s ∈ front ++ [Segment.name stem], s.Written ∧ '\\' ∉ s.render := by
    refine List.forall_mem_append.2 ⟨hfront, fun s hs => ?_⟩
    rw [List.mem_singleton.1 hs]
    exact ⟨written_stem hname hne hdot, fun hmem => hback (List.mem_append_left _ hmem)⟩
  rw [importPath_of_spells hparent hfolder hstemDown hstem (by simp) h, ← List.append_assoc,
    ← List.append_assoc, completed_concat _ _ hdot, List.append_assoc, List.append_assoc,
    normalize_over hcommon hup hdown]

end Ways

/-- Only a path with segments has a parent, which has all but the last one. -/
theorem eq_of_parent? {p q : Path} (h : p.parent? = some q) :
    p.segments ≠ [] ∧ q = ⟨p.absolute, p.segments.dropLast⟩ := by
  rw [parent?] at h
  split at h
  · cases h
  next hne => exact ⟨by simpa using hne, (Option.some.inj h).symm⟩

/-- A directory above the folder of a file is above the file, and at least the
name of the file is left behind it. -/
theorem Above.of_parent {c p q : Path} (h : c.Above q) (hparent : p.parent? = some q) :
    c.Above p ∧ beyond c p ≠ [] := by
  obtain ⟨hne, rfl⟩ := eq_of_parent? hparent
  have hlength := h.segments.length_le
  rw [List.length_dropLast] at hlength
  have hpos := List.length_pos_iff.2 hne
  refine ⟨⟨h.absolute, h.segments.trans (List.dropLast_prefix _)⟩, ?_⟩
  rw [beyond, ne_eq, List.drop_eq_nil_iff]
  omega

/-- A way over any directory above both leads from an importing file to a
target. The names on the way down must be such that a text can hold them,
without backslashes. -/
theorem leads_route (importer target : Path) (hi : importer.absolute = true)
    (hinormal : Normal importer) (ht : target.absolute = true) (htnormal : Normal target)
    (hextension : target.extension?.isSome = true) (folder home : Path)
    (hfolder : importer.parent? = some folder) (hhome : target.parent? = some home)
    (common : Path) (habove : common.Above folder) (habove' : common.Above home)
    (hwritten : ∀ s ∈ beyond common target, s.Written ∧ '\\' ∉ s.render) :
    Leads importer target (route common folder target) := by
  obtain ⟨-, hfolderEq⟩ := eq_of_parent? hfolder
  obtain ⟨hover, hne⟩ := habove'.of_parent hhome
  have htarget : target = ⟨true, common.segments ++ beyond common target⟩ := by
    rw [← hover.segments_eq, ← ht]
  have hfolderSplit : folder = ⟨true, common.segments ++ beyond common folder⟩ := by
    rw [← habove.segments_eq, hfolderEq, hi]
  -- No segment of the two paths goes up.
  have hfolderDown : ∀ s ∈ common.segments ++ beyond common folder, s.GoesDown := by
    rw [← habove.segments_eq, hfolderEq]
    exact fun s hs => hinormal.goesDown hi s (List.dropLast_subset _ hs)
  obtain ⟨hcommon, hup⟩ := List.forall_mem_append.1 hfolderDown
  have hdown : ∀ s ∈ beyond common target, s.GoesDown :=
    fun s hs => htnormal.goesDown ht s (List.mem_of_mem_drop hs)
  have hname : target.fileName? = fileName? ⟨true, beyond common target⟩ :=
    (congrArg fileName? htarget).trans (fileName?_append true common.segments hne)
  have hsome : (extension? ⟨true, beyond common target⟩).isSome = true := by
    rw [extension?, ← hname]
    exact hextension
  have hspelled (raw : Text) (hraw : Spells raw (route common folder target)) :
      importPath importer raw = target := by
    rw [route_eq] at hraw
    rw [htarget]
    exact importPath_of_isSome hfolder hfolderSplit hdown hwritten hcommon hup hsome hraw
  refine ⟨hspelled _ ⟨[], List.mem_cons_self, Text.turned_self _⟩, hspelled, ?_⟩
  intro stem hstem hdot
  have hstemNe : stem ≠ [] := by
    rintro rfl
    rw [extension?, hstem] at hextension
    exact absurd hextension (by decide)
  obtain ⟨front, hfront⟩ := exists_of_fileName? (hname.symm.trans hstem)
  refine ⟨Text.join ['/'] ((List.replicate (beyond common folder).length Segment.up
    ++ (front ++ [Segment.name stem])).map Segment.render), ?_, fun raw hraw => ?_⟩
  · rw [route_eq, hfront]
    simp only [List.map_append, List.map_cons, List.map_nil, ← List.append_assoc]
    exact Text.join_concat_append _ _ _ _
  · rw [htarget]
    exact importPath_of_stem hfolder hfolderSplit hdown hwritten hcommon hup hfront hstemNe hdot
      hraw

/-- A page that imports something. -/
def importingPage : Path := .parse "/ws/app/pages/home.mql"

/-- What it imports, from a folder with a dot in its name. -/
def importedPart : Path := .parse "/ws/lib.d/Button.mql"

/-- The way from the page to the part over `/ws`. -/
theorem leads_route_importedPart :
    importingPage.parent? = some (.parse "/ws/app/pages") ∧
      importedPart.parent? = some (.parse "/ws/lib.d") ∧
      route (.parse "/ws") (.parse "/ws/app/pages") importedPart
        = "../../lib.d/Button.mql".toList ∧
      Leads importingPage importedPart
        (route (.parse "/ws") (.parse "/ws/app/pages") importedPart) := by
  have hpage : importingPage.normalize = importingPage := by decide +kernel
  have hpart : importedPart.normalize = importedPart := by decide +kernel
  refine ⟨by decide +kernel, by decide +kernel, by decide +kernel, ?_⟩
  exact leads_route importingPage importedPart (by decide +kernel) (hpage ▸ normal_normalize _)
    (by decide +kernel) (hpart ▸ normal_normalize _) (by decide +kernel) (.parse "/ws/app/pages")
    (.parse "/ws/lib.d") (by decide +kernel) (by decide +kernel) (.parse "/ws")
    ⟨by decide +kernel, by decide +kernel⟩ ⟨by decide +kernel, by decide +kernel⟩
    (by decide +kernel)

end Path

end DefIndex
