import DefIndex.Text.Utf8

/-!
# `DefIndex.Path`: file paths as lists of segments

A path is absolute or relative and has a list of segments. Reading a
text as a path forgets doubled and trailing separators and every `.`
except one at the very start of a relative path, so two texts that name
the same place in the same words are the same path.

* `Path.parse` and `Path.render` go between texts and paths. A path may
  also be read from bytes; a name that is not text keeps its bytes.
* `Path.join`, `Path.parent?`, `Path.extension?` and
  `Path.withExtension` work on segments alone; the disk is not asked.
* `Path.normalize` folds `..` into the segment before it. What remains
  of `..` is a leading block of a relative path.
* Paths are ordered segment by segment, the separator below every
  character: `a/z` comes before `a-b`. Segments compare by their bytes.
* A `Locator` is a path as it was written for a look at the disk.
-/

set_option autoImplicit false

namespace DefIndex

/-- One step of a path. -/
inductive Segment where
  /-- The directory itself, written `.`. -/
  | here
  /-- The directory above, written `..`. -/
  | up
  /-- A file or directory of this name. -/
  | name (text : Text)
  /-- A file or directory whose name is not text. -/
  | raw (bytes : List UInt8)
deriving DecidableEq, Repr

/-- A file path. -/
structure Path where
  absolute : Bool
  segments : List Segment
deriving DecidableEq, Repr, Inhabited

namespace Segment

/-- A text is the name that it spells. -/
instance : Coe Text Segment := ⟨.name⟩

/-- Texts are names. -/
instance : Coe (List Text) (List Segment) := ⟨List.map .name⟩

/-- The segment that a piece between separators stands for. -/
def ofText (t : Text) : Segment :=
  if t = ['.'] then here else if t = ['.', '.'] then up else name t

/-- The segment that the bytes between separators stand for. -/
def ofBytes (bytes : List UInt8) : Segment :=
  match Text.ofUtf8? bytes with
  | some t => ofText t
  | none => raw bytes

/-- The written form of a segment. -/
def render : Segment → Text
  | here => ['.']
  | up => ['.', '.']
  | name t => t
  | raw bytes => Text.ofUtf8Lossy bytes

/-- The bytes of a segment. -/
def bytes : Segment → List UInt8
  | raw bytes => bytes
  | segment => Text.utf8 segment.render

/-- The dot as a byte. -/
def dotByte : UInt8 := 46

/-- Whether a segment starts with a dot. -/
def isHidden (s : Segment) : Bool := s.bytes.head? == some dotByte

/-- What follows the last dot of a name. A dot at the very start does not
count. -/
def extensionOf {α : Type} [DecidableEq α] (dot : α) (fileName : List α) : Option (List α) :=
  match Text.cut dot fileName with
  | [] => none
  | [_] => none
  | [[], _] => none
  | pieces => pieces.getLast?

/-- The extension of a segment, if it is a name with one that is text. -/
def extension? : Segment → Option Text
  | here => none
  | up => none
  | name t => extensionOf '.' t
  | raw bytes => (extensionOf dotByte bytes).bind Text.ofUtf8?

/-- The sort key of a segment: `.` before `..` before every name, and names
byte by byte. The mark at the end is below every byte; it tells a text from
bytes that are none. -/
def key : Segment → List Nat
  | here => [1]
  | up => [2]
  | name t => 3 :: (Text.utf8 t).map (fun b => b.toNat + 2) ++ [0]
  | raw bytes => 3 :: bytes.map (fun b => b.toNat + 2) ++ [1]

/-- A segment is known by its sort key. -/
theorem key_inj {a b : Segment} : a.key = b.key ↔ a = b := by
  have bytes_inj (s t : List UInt8) :
      s.map (fun b => b.toNat + 2) = t.map (fun b => b.toNat + 2) ↔ s = t :=
    List.map_inj_right fun _ _ h => UInt8.toNat_inj.1 (Nat.add_right_cancel h)
  cases a <;> cases b <;> simp [key, bytes_inj, Text.utf8_inj]

end Segment

namespace Path

/-- The relative path without segments. -/
def empty : Path := ⟨false, []⟩

/-! ### Reading and writing -/

/-- The segments of a text, as written. -/
def pieces (t : Text) : List Segment :=
  ((Text.cut '/' t).filter fun piece => !piece.isEmpty).map Segment.ofText

/-- Drop every `.` of a list of segments. -/
def dropHere (segments : List Segment) : List Segment :=
  segments.filter fun s => s ≠ .here

/-- Keep a `.` at the start of a relative path and drop every other. -/
def keepLeadingHere : List Segment → List Segment
  | .here :: rest => .here :: dropHere rest
  | segments => dropHere segments

/-- Read a path. -/
def parse (t : Text) : Path :=
  match t with
  | '/' :: _ => ⟨true, dropHere (pieces t)⟩
  | _ => ⟨false, keepLeadingHere (pieces t)⟩

/-- The separator as a byte. -/
def separatorByte : UInt8 := 47

/-- Read a path from its bytes. -/
def ofBytes (bytes : List UInt8) : Path :=
  let pieces := ((Text.cut separatorByte bytes).filter fun piece => !piece.isEmpty).map
    Segment.ofBytes
  if bytes.head? = some separatorByte then ⟨true, dropHere pieces⟩
  else ⟨false, keepLeadingHere pieces⟩

/-- Write a path. -/
def render (p : Path) : Text :=
  (if p.absolute then ['/'] else []) ++ Text.join ['/'] (p.segments.map Segment.render)

/-! ### Parts -/

/-- The path without its last segment; the root and the empty path have
no parent. -/
def parent? (p : Path) : Option Path :=
  if p.segments.isEmpty then none else some { p with segments := p.segments.dropLast }

/-- The name of the last segment, if it is a name. -/
def fileName? (p : Path) : Option Text :=
  match p.segments.getLast? with
  | some (.name t) => some t
  | _ => none

/-- `p` followed by `q`; an absolute `q` stands alone. -/
def join (p q : Path) : Path :=
  if q.absolute then q
  else if p.absolute || !p.segments.isEmpty then
    { p with segments := p.segments ++ dropHere q.segments }
  else q

/-- The extension of the last segment, if it is a name that has one. -/
def extension? (p : Path) : Option Text := p.fileName?.bind (Segment.extensionOf '.')

/-- Add an extension to a last segment that is a name. -/
def withExtension (ext : Text) (p : Path) : Path :=
  match p.fileName? with
  | some t =>
    { p with segments := p.segments.dropLast ++ [.name (t ++ '.' :: ext)] }
  | none => p

/-! ### Normal form -/

/-- Take one segment onto a stack of segments, nearest first: `..`
removes a name before it, stays at the front of a relative path, and is
dropped at the root. -/
def fold (absolute : Bool) (stack : List Segment) : Segment → List Segment
  | .here => stack
  | .up =>
    match stack with
    | .name _ :: rest => rest
    | .raw _ :: rest => rest
    | _ => if absolute then stack else .up :: stack
  | segment => segment :: stack

/-- Remove `.` and fold `..` into its parent, without asking the disk. -/
def normalize (p : Path) : Path :=
  { p with segments := (p.segments.foldl (fold p.absolute) []).reverse }

/-! ### Order -/

/-- The sort key: the root first, then the segments. -/
def key (p : Path) : List (List Nat) :=
  (if p.absolute then [[0]] else []) ++ p.segments.map Segment.key

instance : Ord Path := ⟨compareOn key⟩

/-- A path is known by its sort key. -/
theorem key_inj {p q : Path} : p.key = q.key ↔ p = q := by
  constructor
  · intro h
    obtain ⟨a, s⟩ := p
    obtain ⟨b, t⟩ := q
    -- The root has a key of its own, so it is never taken for a segment.
    have root_notMem (s : List Segment) : [0] ∉ s.map Segment.key := by
      intro hmem
      obtain ⟨x, _, hx⟩ := List.mem_map.1 hmem
      cases x <;> simp [Segment.key] at hx
    have inj : s.map Segment.key = t.map Segment.key ↔ s = t :=
      List.map_inj_right fun _ _ h => Segment.key_inj.1 h
    cases a <;> cases b <;> simp [key, inj] at h
    · rw [h]
    · exact absurd (by rw [h]; simp) (root_notMem s)
    · exact absurd (by rw [← h]; simp) (root_notMem t)
    · rw [h]
  · rintro rfl
    rfl

/-- The order of paths is a total preorder. -/
instance : Std.TransOrd Path := inferInstanceAs (Std.TransCmp (compareOn key))

/-- Paths that compare equal are equal. -/
instance : Std.LawfulEqOrd Path where
  compare_self := by
    intro p
    show compare p.key p.key = .eq
    exact Std.ReflOrd.compare_self
  eq_of_compare h := key_inj.1 (Std.LawfulEqOrd.eq_of_compare h)

/-- Whether `p` comes before `q` or equals it. -/
def le (p q : Path) : Bool := (compare p q).isLE

/-- Whether `root` is `p` or a directory above it, segment by segment. -/
def startsWith (p root : Path) : Bool := root.key.isPrefixOf p.key

end Path

/-! ### Locators -/

/-- A path as it was written for a look at the disk. A separator or a `.`
at the end says nothing about the path and asks the disk for a folder. -/
structure Locator where
  path : Path
  asFolder : Bool
  /-- What was written, for messages. -/
  text : Text
deriving DecidableEq, Repr

namespace Locator

/-- Whether bytes end in a separator or in a `.` after one. -/
def endsInFolder (bytes : List UInt8) : Bool :=
  match (Text.cut Path.separatorByte bytes).getLast? with
  | some last => last.isEmpty || last == Text.utf8 ['.']
  | none => false

/-- Read what was written as bytes. -/
def ofBytes (bytes : List UInt8) : Locator :=
  ⟨.ofBytes bytes, endsInFolder bytes, Text.ofUtf8Lossy bytes⟩

/-- Read what was written as a text. -/
def parse (t : Text) : Locator := ⟨.parse t, endsInFolder (Text.utf8 t), t⟩

/-- A path as a locator; it asks for a file or a folder alike. -/
instance : Coe Path Locator := ⟨fun p => ⟨p, false, p.render⟩⟩

end Locator

end DefIndex
