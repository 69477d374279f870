import DefIndex.Path

/-!
# `DefIndex.Disk`: a tree of files and folders

The files that a command or a session works on are a value: a tree of
named entries below the root folder, and a name is a segment of a path.
Asking for a path walks the tree from the root; `..` climbs back, and a
file in the middle of a path is a fault of its own.

* `Disk.read` gives the text of a file or says why there is none.
* `Disk.canonical` gives the path without `.` and `..` of an entry that
  exists.
* `Content.lines` gives the lines of a file up to the first that is not
  text.
-/

set_option autoImplicit false

namespace DefIndex

/-- What a file holds. -/
inductive Content where
  | text (text : Text)
  /-- Bytes that are not text. -/
  | binary (bytes : List UInt8)
deriving DecidableEq, Repr

namespace Content

/-- What a file of these bytes holds. -/
def ofBytes (bytes : List UInt8) : Content :=
  match Text.ofUtf8? bytes with
  | some t => text t
  | none => binary bytes

/-- The line feed as a byte. -/
def lineFeed : UInt8 := 10

/-- The lines of a file, as far as they are text. -/
def lines : Content → List Text
  | text t => Text.lines t
  | binary bytes =>
    let readable := ((Text.cut lineFeed bytes).map Text.ofUtf8?).takeWhile Option.isSome
    Text.lines (readable.flatMap fun line => line.getD [] ++ ['\n'])

end Content

/-- A file or a folder. -/
inductive Entry where
  | file (content : Content)
  | folder (entries : List (Segment × Entry))
deriving Repr

/-- Why a path gives no file. -/
inductive DiskError where
  | notFound
  | notFolder
  | isFolder
  | notText
  | tooLong
deriving DecidableEq, Repr

/-- The wording of a fault. -/
def DiskError.message : DiskError → Text
  | notFound => "No such file or directory (os error 2)"
  | notFolder => "Not a directory (os error 20)"
  | isFolder => "Is a directory (os error 21)"
  | notText => "stream did not contain valid UTF-8"
  | tooLong => "File name too long (os error 36)"

namespace Entry

/-- The entry of a name in a folder. -/
def child? : Entry → Segment → Option Entry
  | folder entries, name => entries.lookup name
  | file _, _ => none

/-- The entry below, name after name. -/
def find? (e : Entry) : List Segment → Option Entry
  | [] => some e
  | name :: names => (e.child? name).bind fun c => c.find? names

/-- Whether an entry is a folder. -/
def isFolder : Entry → Bool
  | folder _ => true
  | file _ => false

/-- Put an entry under a name, in place of one that has it. -/
def putChild (entries : List (Segment × Entry)) (name : Segment) (e : Entry) :
    List (Segment × Entry) :=
  if entries.any fun old => old.1 = name then
    entries.map fun old => if old.1 = name then (name, e) else old
  else entries ++ [(name, e)]

/-- Write a file, with the folders on the way to it. -/
def write (content : Content) : List Segment → Entry → Entry
  | [], _ => file content
  | name :: names, e =>
    let entries := match e with
      | folder entries => entries
      | file _ => []
    let old := (entries.lookup name).getD (folder [])
    folder (putChild entries name (write content names old))

/-- Delete an entry. -/
def delete : List Segment → Entry → Entry
  | [], e => e
  | _ :: _, file content => file content
  | [name], folder entries => folder (entries.filter fun e => e.1 ≠ name)
  | name :: names, folder entries =>
    match entries.lookup name with
    | some e => folder (putChild entries name (delete names e))
    | none => folder entries

end Entry

/-- The folder that holds everything. -/
structure Disk where
  root : Entry

namespace Disk

/-- Nothing but the root folder. -/
def empty : Disk := ⟨.folder []⟩

/-- How many bytes a name has at most. -/
def nameLimit : Nat := 255

/-- How many bytes a written path has at most. -/
def pathLimit : Nat := 4095

/-- Whether there are more bytes than a limit. -/
def exceeds (limit : Nat) (bytes : List UInt8) : Bool := decide (bytes.length > limit)

/-- Walk segments from a place given by its names, last name first. -/
def walk (disk : Disk) (place : List Segment) :
    List Segment → Except DiskError (List Segment)
  | [] => .ok place
  | segment :: rest =>
    match disk.root.find? place.reverse with
    | none => .error .notFound
    | some (.file _) => .error .notFolder
    | some (.folder entries) =>
      match segment with
      | .here => disk.walk place rest
      | .up => disk.walk place.tail rest
      | name =>
        if exceeds nameLimit name.bytes then .error .tooLong
        else if (entries.lookup name).isSome then disk.walk (name :: place) rest
        else .error .notFound

/-- Whether names from the root lead to a file. -/
def isFile (disk : Disk) (names : List Segment) : Bool :=
  match disk.root.find? names with
  | some (.file _) => true
  | _ => false

/-- The names from the root to the entry of a path. Relative paths start
at the root; the empty path leads nowhere. -/
def locate (disk : Disk) (l : Locator) : Except DiskError (List Segment) := do
  if l.path = Path.empty then throw .notFound
  if exceeds pathLimit (Text.utf8 l.text) then throw .tooLong
  let place ← disk.walk [] l.path.segments
  if l.asFolder && disk.isFile place.reverse then throw .notFolder
  return place.reverse

/-- The absolute path of names from the root. -/
def pathOf (names : List Segment) : Path := ⟨true, names⟩

/-- The path of an existing entry without `.` and `..`. -/
def canonical (disk : Disk) (l : Locator) : Except DiskError Path :=
  (disk.locate l).map pathOf

/-- The entry of a path, if it exists. -/
def entry? (disk : Disk) (l : Locator) : Option Entry :=
  match disk.locate l with
  | .ok names => disk.root.find? names
  | .error _ => none

/-- The text of a file. -/
def read (disk : Disk) (l : Locator) : Except DiskError Text := do
  let names ← disk.locate l
  match disk.root.find? names with
  | some (.file (.text t)) => return t
  | some (.file (.binary _)) => throw .notText
  | some (.folder _) => throw .isFolder
  | none => throw .notFound

/-- Write the file of an absolute path. -/
def write (disk : Disk) (names : List Segment) (content : Content) : Disk :=
  ⟨disk.root.write content names⟩

/-- Delete the file of an absolute path. -/
def delete (disk : Disk) (names : List Segment) : Disk := ⟨disk.root.delete names⟩

end Disk

end DefIndex
