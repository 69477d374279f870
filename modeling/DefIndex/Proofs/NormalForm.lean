import Mathlib.Logic.Relation
import DefIndex.Path
import DefIndex.Proofs.Matching

/-!
# `DefIndex.Proofs.NormalForm`: one spelling for every place

`Path.normalize` folds a path with a stack: what `..` does depends on what
has been built so far. The reference here knows no stack. A path may be
shortened at any point where a `.`, a name with `..` behind it or a `..` at
the root can be left out (`Path.Shortens`), and two paths spell one place if
such steps, forwards and backwards, lead from one to the other
(`Path.SamePlace`).

* `Path.Normal`: no `.`, and `..` at the front of a relative path only.
* `Path.Stacked` is the invariant of the stack. `Path.stacked_fold` keeps it
  for one segment and `Path.stacked_foldl` for all of them.
* `Path.shortens_foldl`: the fold takes shortening steps only.
* `Path.Shortens.foldl_eq`: no shortening step makes a difference to the
  fold, not even behind another path.
* `Path.normalized_normalize` puts them together: the result is the one
  normal spelling of the place.
-/

set_option autoImplicit false

namespace DefIndex

open Relation (ReflTransGen EqvGen)

/-- The segment goes down, to a file or directory of some name. -/
def Segment.GoesDown (s : Segment) : Prop := s ≠ .here ∧ s ≠ .up

namespace Path

/-! ### Spellings -/

/-- A path is spelled with one or two segments less. -/
inductive Shortens : Path → Path → Prop where
  /-- The directory itself. -/
  | here (absolute : Bool) (front back : List Segment) :
    Shortens ⟨absolute, front ++ .here :: back⟩ ⟨absolute, front ++ back⟩
  /-- Down and up again. -/
  | back (absolute : Bool) (front : List Segment) (s : Segment) (back : List Segment)
    (down : s.GoesDown) :
    Shortens ⟨absolute, front ++ s :: .up :: back⟩ ⟨absolute, front ++ back⟩
  /-- Nothing is above the root. -/
  | root (back : List Segment) : Shortens ⟨true, .up :: back⟩ ⟨true, back⟩

/-- Two spellings of one place. -/
def SamePlace : Path → Path → Prop := EqvGen Shortens

/-- A path in shortest form. -/
structure Normal (p : Path) : Prop where
  noHere : .here ∉ p.segments
  /-- All of `..` comes first. -/
  upsFirst : ∃ n names, p.segments = List.replicate n .up ++ names ∧ .up ∉ names
  /-- The root has no `..` behind it. -/
  rooted : p.absolute = true → .up ∉ p.segments

/-! ### The stack -/

section Stack

variable {absolute : Bool} {stack : List Segment} {s : Segment}

/-- A name is put on the stack. -/
theorem fold_of_goesDown (h : s.GoesDown) : fold absolute stack s = s :: stack := by
  cases s with
  | here => exact absurd rfl h.1
  | up => exact absurd rfl h.2
  | name t => rfl
  | raw bytes => rfl

/-- A name is taken off by `..`. -/
theorem fold_up_cons (h : s.GoesDown) : fold absolute (s :: stack) .up = stack := by
  cases s with
  | here => exact absurd rfl h.1
  | up => exact absurd rfl h.2
  | name t => rfl
  | raw bytes => rfl

/-- What stands on a stack: names above the `..` that nothing could take off,
and none of these at the root. -/
def Stacked (absolute : Bool) (stack : List Segment) : Prop :=
  ∃ names n, stack = names ++ List.replicate n .up ∧ (∀ s ∈ names, s.GoesDown) ∧
    (absolute = true → n = 0)

/-- Nothing stands on the stack at first. -/
theorem stacked_nil (absolute : Bool) : Stacked absolute [] := ⟨[], 0, rfl, by simp, fun _ => rfl⟩

/-- On top is nothing at all, a name, or `..` in a relative path. -/
theorem Stacked.cases_top (h : Stacked absolute stack) :
    stack = [] ∨ (∃ s rest, stack = s :: rest ∧ s.GoesDown) ∨
      ∃ n, stack = List.replicate (n + 1) .up ∧ absolute = false := by
  obtain ⟨names, n, rfl, hnames, hroot⟩ := h
  cases names with
  | cons s names => exact Or.inr (Or.inl ⟨s, _, rfl, hnames s List.mem_cons_self⟩)
  | nil =>
      cases n with
      | zero => exact Or.inl rfl
      | succ n =>
          refine Or.inr (Or.inr ⟨n, rfl, ?_⟩)
          cases absolute with
          | false => rfl
          | true => exact absurd (hroot rfl) (Nat.succ_ne_zero n)

/-- One segment keeps the stack in shape. -/
theorem stacked_fold (h : Stacked absolute stack) (s : Segment) :
    Stacked absolute (fold absolute stack s) := by
  obtain ⟨names, n, rfl, hnames, hroot⟩ := h
  have hdown {s : Segment} (hs : s.GoesDown) :
      Stacked absolute (fold absolute (names ++ List.replicate n .up) s) := by
    rw [fold_of_goesDown hs]
    exact ⟨s :: names, n, rfl, List.forall_mem_cons.2 ⟨hs, hnames⟩, hroot⟩
  cases s with
  | here => exact ⟨names, n, rfl, hnames, hroot⟩
  | name t => exact hdown ⟨by simp, by simp⟩
  | raw bytes => exact hdown ⟨by simp, by simp⟩
  | up =>
      cases names with
      | cons s names =>
          obtain ⟨hs, hnames⟩ := List.forall_mem_cons.1 hnames
          rw [List.cons_append, fold_up_cons hs]
          exact ⟨names, n, rfl, hnames, hroot⟩
      | nil =>
          -- Only `..` is on the stack, and a rooted one is empty.
          cases absolute with
          | true =>
              rw [hroot rfl]
              exact stacked_nil true
          | false =>
              have hpush : fold false (List.replicate n .up) .up = List.replicate (n + 1) .up := by
                cases n <;> rfl
              rw [List.nil_append, hpush]
              exact ⟨[], n + 1, rfl, by simp, by simp⟩

/-- All segments keep the stack in shape. -/
theorem stacked_foldl (h : Stacked absolute stack) (segments : List Segment) :
    Stacked absolute (segments.foldl (fold absolute) stack) := by
  induction segments generalizing stack with
  | nil => exact h
  | cons s segments ih => exact ih (stacked_fold h s)

/-- A stack read from the bottom is in shortest form. -/
theorem Stacked.normal (h : Stacked absolute stack) : Normal ⟨absolute, stack.reverse⟩ := by
  obtain ⟨names, n, rfl, hnames, hroot⟩ := h
  have hhere : Segment.here ∉ names := fun hmem => (hnames _ hmem).1 rfl
  have hup : Segment.up ∉ names := fun hmem => (hnames _ hmem).2 rfl
  constructor
  case noHere => simp [hhere]
  case upsFirst =>
    exact ⟨n, names.reverse, by rw [List.reverse_append, List.reverse_replicate], by simpa using hup⟩
  case rooted =>
    intro habsolute
    rw [hroot habsolute]
    simpa using hup

/-- A path in shortest form is what stands on a stack. -/
theorem Normal.exists_eq {p : Path} (h : Normal p) : ∃ n names,
    p.segments = List.replicate n .up ++ names ∧ (∀ s ∈ names, s.GoesDown) ∧
      (p.absolute = true → n = 0) := by
  obtain ⟨n, names, hsegments, hup⟩ := h.upsFirst
  refine ⟨n, names, hsegments, fun s hs => ⟨?_, ?_⟩, fun habsolute => ?_⟩
  · rintro rfl
    exact h.noHere (hsegments ▸ List.mem_append_right _ hs)
  · rintro rfl
    exact hup hs
  · cases n with
    | zero => rfl
    | succ n =>
        refine absurd ?_ (h.rooted habsolute)
        rw [hsegments]
        exact List.mem_append_left _ List.mem_cons_self

/-- Names are stacked one on the other. -/
theorem foldl_of_goesDown {names : List Segment} (h : ∀ s ∈ names, s.GoesDown) :
    names.foldl (fold absolute) stack = names.reverse ++ stack := by
  induction names generalizing stack with
  | nil => rfl
  | cons s names ih =>
      obtain ⟨hs, hnames⟩ := List.forall_mem_cons.1 h
      rw [List.foldl_cons, fold_of_goesDown hs, ih hnames, List.reverse_cons, List.append_assoc,
        List.singleton_append]

/-- In a relative path `..` is stacked on `..`. -/
theorem foldl_replicate_up (n m : Nat) :
    (List.replicate n .up).foldl (fold false) (List.replicate m .up)
      = List.replicate (m + n) .up := by
  induction n generalizing m with
  | zero => rfl
  | succ n ih =>
      have hpush : fold false (List.replicate m .up) .up = List.replicate (m + 1) .up := by
        cases m <;> rfl
      rw [List.replicate_succ, List.foldl_cons, hpush, ih]
      congr 1
      omega

end Stack

/-- A path in shortest form stays as it is. -/
theorem Normal.normalize_eq {p : Path} (h : Normal p) : p.normalize = p := by
  obtain ⟨n, names, hsegments, hnames, hroot⟩ := h.exists_eq
  have hups : (List.replicate n .up).foldl (fold p.absolute) [] = List.replicate n .up := by
    cases habsolute : p.absolute with
    | true =>
        rw [hroot habsolute]
        rfl
    | false => simpa using foldl_replicate_up n 0
  rw [normalize, hsegments, List.foldl_append, hups, foldl_of_goesDown hnames,
    List.reverse_append, List.reverse_reverse, List.reverse_replicate, ← hsegments]

/-- The result is in shortest form. -/
theorem normal_normalize (p : Path) : Normal p.normalize :=
  (stacked_foldl (stacked_nil p.absolute) p.segments).normal

/-! ### Shortening -/

/-- One segment taken onto the stack shortens the path or leaves it alone. -/
theorem shortens_fold {absolute : Bool} {stack : List Segment} (h : Stacked absolute stack)
    (s : Segment) (rest : List Segment) :
    ReflTransGen Shortens ⟨absolute, stack.reverse ++ s :: rest⟩
      ⟨absolute, (fold absolute stack s).reverse ++ rest⟩ := by
  have hpush {stack : List Segment} {s : Segment} (hs : fold absolute stack s = s :: stack) :
      ReflTransGen Shortens ⟨absolute, stack.reverse ++ s :: rest⟩
        ⟨absolute, (fold absolute stack s).reverse ++ rest⟩ := by
    rw [hs, List.reverse_cons, List.append_assoc, List.singleton_append]
  cases s with
  | here => exact .single (.here absolute stack.reverse rest)
  | name t => exact hpush rfl
  | raw bytes => exact hpush rfl
  | up =>
      rcases h.cases_top with rfl | ⟨s, below, rfl, hs⟩ | ⟨n, rfl, rfl⟩
      · cases absolute with
        | true => exact .single (.root rest)
        | false => exact hpush rfl
      · rw [fold_up_cons hs, List.reverse_cons, List.append_assoc, List.singleton_append]
        exact .single (.back absolute below.reverse s rest hs)
      · exact hpush rfl

/-- The fold shortens a path step by step. -/
theorem shortens_foldl {absolute : Bool} {stack : List Segment} (h : Stacked absolute stack)
    (segments : List Segment) :
    ReflTransGen Shortens ⟨absolute, stack.reverse ++ segments⟩
      ⟨absolute, (segments.foldl (fold absolute) stack).reverse⟩ := by
  induction segments generalizing stack with
  | nil => rw [List.append_nil, List.foldl_nil]
  | cons s segments ih => exact (shortens_fold h s segments).trans (ih (stacked_fold h s))

/-- A path is shortened to its shortest form. -/
theorem shortens_normalize (p : Path) : ReflTransGen Shortens p p.normalize :=
  shortens_foldl (stacked_nil p.absolute) p.segments

/-- Shortening makes no difference to a fold. At the root it must start there,
since `..` is dropped in no other place. -/
theorem Shortens.foldl_eq {p q : Path} (h : Shortens p q) {absolute : Bool}
    {stack : List Segment} (hroot : p.absolute = true → absolute = true ∧ stack = []) :
    p.segments.foldl (fold absolute) stack = q.segments.foldl (fold absolute) stack := by
  cases h with
  | here _ front back => rw [List.foldl_append, List.foldl_append, List.foldl_cons, fold]
  | back _ front s back down =>
      rw [List.foldl_append, List.foldl_append, List.foldl_cons, List.foldl_cons,
        fold_of_goesDown down, fold_up_cons down]
  | root back =>
      obtain ⟨rfl, rfl⟩ := hroot rfl
      rfl

/-- Shortening keeps the root. -/
theorem Shortens.absolute_eq {p q : Path} (h : Shortens p q) : p.absolute = q.absolute := by
  cases h <;> rfl

/-! ### Joining -/

/-- A relative path is folded onto the stack of the path before it. -/
theorem normalize_join {q : Path} (h : q.absolute = false) (p : Path) :
    (p.join q).normalize = ⟨p.absolute,
      (q.segments.foldl (fold p.absolute) (p.segments.foldl (fold p.absolute) [])).reverse⟩ := by
  have hdrop (stack : List Segment) : (dropHere q.segments).foldl (fold p.absolute) stack
      = q.segments.foldl (fold p.absolute) stack := by
    induction q.segments generalizing stack with
    | nil => rfl
    | cons s segments ih =>
        by_cases hs : s = .here
        · subst hs
          exact ih stack
        · rw [dropHere, List.filter_cons_of_pos (by simpa using hs), List.foldl_cons]
          exact ih _
  rw [join, if_neg (by simp [h])]
  split
  · rw [normalize, List.foldl_append, hdrop]
  · next hempty =>
    -- Nothing stands before it.
    simp only [Bool.or_eq_true, Bool.not_eq_true', not_or, Bool.not_eq_true,
      Bool.not_eq_false, List.isEmpty_iff] at hempty
    rw [normalize, hempty.1, hempty.2, h, List.foldl_nil]

/-- An absolute path stands alone. -/
theorem join_of_absolute {q : Path} (h : q.absolute = true) (p : Path) : p.join q = q := by
  rw [join, if_pos h]

/-- A path stands alone behind the empty one. -/
theorem empty_join (p : Path) : empty.join p = p := by
  rw [join]
  split
  · rfl
  · rfl

/-- What is joined to a path may be joined to its shortest form. -/
theorem normalize_join_normalize (p q : Path) :
    (p.normalize.join q).normalize = (p.join q).normalize := by
  cases hq : q.absolute with
  | true => rw [join_of_absolute hq, join_of_absolute hq]
  | false =>
      -- Folding the shortest form gives its stack again.
      have hagain := congrArg (List.reverse ∘ segments) (normal_normalize p).normalize_eq
      simp only [Function.comp_apply, normalize, List.reverse_reverse] at hagain
      rw [normalize_join hq, normalize_join hq, normalize, hagain]

/-! ### Places -/

/-- Spellings of one place are spellings of one place behind any path. -/
theorem SamePlace.normalize_join {p q : Path} (h : SamePlace p q) (base : Path) :
    (base.join p).normalize = (base.join q).normalize := by
  induction h with
  | refl p => rfl
  | symm p q _ ih => exact ih.symm
  | trans p q r _ _ ihpq ihqr => exact ihpq.trans ihqr
  | rel p q h =>
      cases hp : p.absolute with
      | true =>
          have hq : q.absolute = true := h.absolute_eq ▸ hp
          rw [join_of_absolute hp, join_of_absolute hq, normalize, normalize, hp, hq,
            h.foldl_eq fun _ => ⟨rfl, rfl⟩]
      | false =>
          have hq : q.absolute = false := h.absolute_eq ▸ hp
          rw [Path.normalize_join hp, Path.normalize_join hq, h.foldl_eq (by simp [hp])]

/-- Two paths spell one place exactly if they have one shortest form. -/
theorem samePlace_iff {p q : Path} : SamePlace p q ↔ p.normalize = q.normalize := by
  have hreach (p : Path) : SamePlace p p.normalize :=
    EqvGen.reflTransGen_le_eqvGen _ _ _ (shortens_normalize p)
  constructor
  · intro h
    have hempty := h.normalize_join empty
    rwa [empty_join, empty_join] at hempty
  · intro h
    exact .trans _ _ _ (hreach p) (h ▸ .symm _ _ (hreach q))

/-! ### Written paths -/

end Path

/-- A segment whose written form is read as the segment. -/
def Segment.Written (s : Segment) : Prop :=
  s.render ≠ [] ∧ '/' ∉ s.render ∧ Segment.ofText s.render = s

instance : DecidablePred Segment.Written := fun s =>
  inferInstanceAs (Decidable (s.render ≠ [] ∧ '/' ∉ s.render ∧ Segment.ofText s.render = s))

/-- A piece of a written path is read as the segment that it was read as. -/
theorem Segment.written_ofText {t : Text} (hne : t ≠ []) (hslash : '/' ∉ t) :
    (Segment.ofText t).Written := by
  have hrender : (Segment.ofText t).render = t := by
    rw [Segment.ofText]
    split
    next hone => exact hone.symm
    split
    next htwo => exact htwo.symm
    next => rfl
  rw [Segment.Written, hrender]
  exact ⟨hne, hslash, rfl⟩

namespace Path

/-- The segments of a written path are written. -/
theorem written_of_mem_pieces {t : Text} {s : Segment} (h : s ∈ pieces t) : s.Written := by
  obtain ⟨piece, hpiece, rfl⟩ := List.mem_map.1 h
  obtain ⟨hcut, hne⟩ := List.mem_filter.1 hpiece
  exact Segment.written_ofText (by simpa using hne) (Text.notMem_of_mem_cut hcut)

/-- So are those of the path that is read. -/
theorem written_of_mem_parse {t : Text} {s : Segment} (h : s ∈ (parse t).segments) :
    s.Written := by
  have hdrop {segments : List Segment} (hs : s ∈ dropHere segments) : s ∈ segments :=
    (List.mem_filter.1 hs).1
  have hkeep {segments : List Segment} (hs : s ∈ keepLeadingHere segments) : s ∈ segments := by
    rw [keepLeadingHere.eq_def] at hs
    split at hs
    · rcases List.mem_cons.1 hs with rfl | hs
      · exact List.mem_cons_self
      · exact List.mem_cons_of_mem _ (hdrop hs)
    · exact hdrop hs
  refine written_of_mem_pieces (t := t) ?_
  rw [parse.eq_def] at h
  split at h
  · exact hdrop h
  · exact hkeep h

/-- Folding makes no segments. -/
theorem mem_of_mem_foldl {absolute : Bool} {stack segments : List Segment} {s : Segment}
    (h : s ∈ segments.foldl (fold absolute) stack) : s ∈ stack ∨ s ∈ segments := by
  induction segments generalizing stack with
  | nil => exact Or.inl h
  | cons t segments ih =>
      rcases ih h with hfold | hrest
      · have hpush (hs : s ∈ t :: stack) : s ∈ stack ∨ s ∈ t :: segments := by
          rcases List.mem_cons.1 hs with rfl | hs
          · exact Or.inr List.mem_cons_self
          · exact Or.inl hs
        rw [fold.eq_def] at hfold
        split at hfold
        · exact Or.inl hfold
        · split at hfold
          · exact Or.inl (List.mem_cons_of_mem _ hfold)
          · exact Or.inl (List.mem_cons_of_mem _ hfold)
          · split at hfold
            · exact Or.inl hfold
            · exact hpush hfold
        · exact hpush hfold
      · exact Or.inr (List.mem_cons_of_mem _ hrest)

/-- The written segments with separators between them are cut apart again. -/
theorem pieces_join {segments : List Segment} (h : ∀ s ∈ segments, s.Written) :
    pieces (Text.join ['/'] (segments.map Segment.render)) = segments := by
  cases segments with
  | nil => rfl
  | cons s segments =>
      have hslash : ∀ piece ∈ s.render :: segments.map Segment.render, '/' ∉ piece :=
        fun piece hpiece => by
          obtain ⟨s, hs, rfl⟩ := List.mem_map.1 (List.map_cons ▸ hpiece)
          exact (h s hs).2.1
      rw [List.map_cons, pieces, Text.cut_join hslash, ← List.map_cons, List.filter_map,
        List.filter_eq_self.2 fun s hs => by simpa using (h s hs).1, List.map_map]
      exact (List.map_congr_left fun s hs => (h s hs).2.2).trans (List.map_id _)

/-- The first written segment does not start with a separator. -/
theorem head?_join_ne {segments : List Segment} (h : ∀ s ∈ segments, s.Written) :
    (Text.join ['/'] (segments.map Segment.render)).head? ≠ some '/' := by
  cases segments with
  | nil => simp [Text.join]
  | cons s segments =>
      obtain ⟨hne, hslash, -⟩ := h s List.mem_cons_self
      obtain ⟨c, cs, hrender⟩ := List.exists_cons_of_ne_nil hne
      have hhead : (Text.join ['/'] ((s :: segments).map Segment.render)).head? = some c := by
        rw [List.map_cons, hrender]
        cases segments.map Segment.render <;> rfl
      rw [hhead, Ne, Option.some.injEq]
      rintro rfl
      exact hslash (hrender ▸ List.mem_cons_self)

/-- Nothing is dropped where there is no `.`. -/
theorem dropHere_eq_self {segments : List Segment} (h : .here ∉ segments) :
    dropHere segments = segments := by
  refine List.filter_eq_self.2 fun s hs => decide_eq_true ?_
  rintro rfl
  exact h hs

/-- Written segments with slashes between them are read as a relative path. -/
theorem parse_join {segments : List Segment} (h : ∀ s ∈ segments, s.Written) :
    parse (Text.join ['/'] (segments.map Segment.render)) = ⟨false, keepLeadingHere segments⟩ := by
  have hfirst := head?_join_ne h
  rw [parse.eq_def]
  split
  next heq =>
    rw [heq] at hfirst
    exact absurd rfl hfirst
  next => rw [pieces_join h]

/-- A path without `.` is read as it was written. -/
theorem parse_render {p : Path} (hwritten : ∀ s ∈ p.segments, s.Written)
    (hhere : .here ∉ p.segments) : parse p.render = p := by
  obtain ⟨absolute, segments⟩ := p
  have hdrop : dropHere segments = segments := dropHere_eq_self hhere
  have hkeep : keepLeadingHere segments = segments := by
    rw [keepLeadingHere.eq_def]
    split
    · exact absurd List.mem_cons_self hhere
    · exact hdrop
  cases absolute with
  | true =>
      have hroot (t : Text) : pieces ('/' :: t) = pieces t := by
        have hcut : Text.cut '/' ('/' :: t) = [] :: Text.cut '/' t := Text.cut_append_cons [] t
        rw [pieces, hcut]
        rfl
      show Path.mk true (dropHere (pieces ('/' :: Text.join ['/'] _))) = _
      rw [hroot, pieces_join hwritten, hdrop]
  | false =>
      show parse (Text.join ['/'] (segments.map Segment.render)) = _
      rw [parse_join hwritten, hkeep]

/-! ### The shortest form -/

/-- What the shortest form of a path is. -/
structure Normalized (p q : Path) : Prop where
  /-- It is in shortest form. -/
  normal : Normal q
  /-- It starts where the path does. -/
  absolute : q.absolute = p.absolute
  /-- The path is shortened to it. -/
  shortened : ReflTransGen Shortens p q
  /-- It stays as it is. -/
  again : q.normalize = q
  /-- It may stand for the path when more is joined. -/
  join : ∀ more, (p.join more).normalize = (q.join more).normalize
  /-- The spellings of the place are the paths with this shortest form. -/
  spellings : ∀ p', SamePlace p' p ↔ p'.normalize = q
  /-- No other spelling is in shortest form. -/
  unique : ∀ p', Normal p' → SamePlace p' p → p' = q
  /-- Behind any path they stay spellings of one place. -/
  under : ∀ base p' : Path, SamePlace p' p → (base.join p').normalize = (base.join p).normalize
  /-- Of a path that was written, it is read as it is written. -/
  written : ∀ t, p = parse t → parse q.render = q

/-- Every path has a shortest form, and this is it. -/
theorem normalized_normalize (p : Path) : Normalized p p.normalize := by
  have hnormal := normal_normalize p
  constructor
  case normal => exact hnormal
  case absolute => rfl
  case shortened => exact shortens_normalize p
  case again => exact hnormal.normalize_eq
  case join => exact fun more => (normalize_join_normalize p more).symm
  case spellings => exact fun p' => samePlace_iff
  case unique =>
    intro p' hp' hsame
    rw [← hp'.normalize_eq]
    exact samePlace_iff.1 hsame
  case under => exact fun base p' hsame => hsame.normalize_join base
  case written =>
    rintro t rfl
    refine parse_render (fun s hs => ?_) hnormal.noHere
    have hmem := mem_of_mem_foldl (List.mem_reverse.1 hs)
    exact written_of_mem_parse (hmem.resolve_left List.not_mem_nil)

end Path

end DefIndex
