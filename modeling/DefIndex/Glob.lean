import DefIndex.Text.Utf8

/-!
# `DefIndex.Glob`: globs over the bytes of a path

A glob is read from a text and fits whole paths, byte by byte. `*` stands
for any run of bytes within a name, `?` for one of them and `[...]` for
one byte of a class. `**` as a whole name stands for any number of
folders. `{a,b}` offers alternatives, which may nest. A backslash takes
the next character as it is, but not inside a class.

A glob with alternatives is kept as the list of its spellings, the ways to
write it without them; it fits what one of them fits. An alternative
without any part is no alternative.

* `Glob.parse?` reads a glob. A group that is never closed, or closed
  without being open, makes it invalid, and so does a range of a class
  that runs backwards. A class that is never closed makes it invalid too,
  unless the reader is lenient: then its bracket stands for itself.
* `Glob.fits` is the match.
-/

set_option autoImplicit false

namespace DefIndex

/-- One part of a glob. -/
inductive GlobPart where
  | byte (b : UInt8)
  /-- One byte of a name. -/
  | one
  /-- A run of bytes of a name. -/
  | run
  /-- One byte within, or outside, a class of ranges. -/
  | oneOf (negated : Bool) (ranges : List (UInt8 × UInt8))
  /-- Folders, none or more, each with its separator. -/
  | folders
  /-- A separator with folders after it, none or more. -/
  | below
  /-- A separator with anything after it. -/
  | inside
deriving DecidableEq, Repr

/-- A glob, as its spellings. -/
structure Glob where
  spellings : List (List GlobPart)
deriving DecidableEq, Repr

namespace Glob

/-! ### Matching -/

/-- The separator of a path. -/
def separator : UInt8 := 47

/-- What may remain after a run of bytes of a name. -/
def runRests : List UInt8 → List (List UInt8)
  | [] => [[]]
  | b :: bs => (b :: bs) :: (if b = separator then [] else runRests bs)

/-- What remains after each separator. -/
def slashRests : List UInt8 → List (List UInt8)
  | [] => []
  | b :: bs => if b = separator then bs :: slashRests bs else slashRests bs

/-- What may remain after anything. -/
def rests : List UInt8 → List (List UInt8)
  | [] => [[]]
  | b :: bs => (b :: bs) :: rests bs

/-- Whether a byte lies in one of the ranges. -/
def inClass (ranges : List (UInt8 × UInt8)) (b : UInt8) : Bool :=
  ranges.any fun r => decide (r.1 ≤ b) && decide (b ≤ r.2)

/-- Whether one spelling fits a whole path. -/
def fitsParts : List GlobPart → List UInt8 → Bool
  | [], path => path.isEmpty
  | .byte b :: parts, path =>
    match path with
    | c :: rest => c == b && fitsParts parts rest
    | [] => false
  | .one :: parts, path =>
    match path with
    | c :: rest => c != separator && fitsParts parts rest
    | [] => false
  | .run :: parts, path => (runRests path).any (fitsParts parts)
  | .oneOf negated ranges :: parts, path =>
    match path with
    | c :: rest => (negated != inClass ranges c) && fitsParts parts rest
    | [] => false
  | .folders :: parts, path => fitsParts parts path || (slashRests path).any (fitsParts parts)
  | .below :: parts, path =>
    match path with
    | c :: rest =>
      c == separator && (fitsParts parts rest || (slashRests rest).any (fitsParts parts))
    | [] => false
  | .inside :: parts, path =>
    match path with
    | c :: rest => c == separator && (rests rest).any (fitsParts parts)
    | [] => false

/-- Whether a glob fits a whole path. -/
def fits (g : Glob) (path : List UInt8) : Bool :=
  g.spellings.any fun parts => fitsParts parts path

/-! ### Classes -/

/-- What reading a class gives. -/
inductive ClassReading where
  | closed (ranges : List (Char × Char)) (rest : Text)
  | unclosed
  /-- A range runs backwards. -/
  | backwards

/-- Read a class up to its closing bracket. A bracket or a dash directly at
the start belongs to the class, and so does a dash at the end. Every other
dash makes the range before it go on to the character after it. -/
def readClass (ranges : List (Char × Char)) (first dashed : Bool) : Text → ClassReading
  | [] => .unclosed
  | c :: rest =>
    if c = ']' ∧ !first then
      .closed (if dashed then ('-', '-') :: ranges else ranges) rest
    else if c = '-' ∧ !first ∧ !dashed then readClass ranges false true rest
    else
      match dashed, ranges with
      | true, (low, _) :: others =>
        if c < low then .backwards else readClass ((low, c) :: others) false false rest
      | _, _ => readClass ((c, c) :: ranges) false false rest

/-- A range of characters as ranges of bytes. Of the bytes of both ends
only the neighbours span a range. -/
def byteRanges (r : Char × Char) : List (UInt8 × UInt8) :=
  let single (b : UInt8) : UInt8 × UInt8 := (b, b)
  let low := String.utf8EncodeChar r.1
  let high := String.utf8EncodeChar r.2
  if r.1 = r.2 then low.map single
  else
    low.dropLast.map single
      ++ (match low.getLast?, high.head? with
        | some a, some b => [(a, b)]
        | _, _ => [])
      ++ high.tail.map single

/-! ### Reading -/

/-- The branch of a group that is being read. -/
structure Branch where
  /-- The spellings of the branches before it. -/
  finished : List (List GlobPart)
  /-- The spellings of this branch, their last part first. -/
  spellings : List (List GlobPart)
  /-- Whether anything was read in this branch. -/
  started : Bool

namespace Branch

/-- A branch of which nothing was read. -/
def fresh : Branch := ⟨[], [[]], false⟩

/-- Add a part. -/
def push (b : Branch) (part : GlobPart) : Branch :=
  { b with spellings := b.spellings.map (part :: ·), started := true }

/-- Add the bytes of a character. -/
def pushChar (b : Branch) (c : Char) : Branch :=
  (String.utf8EncodeChar c).foldl (fun b byte => b.push (.byte byte)) b

/-- The spellings of the branches so far. -/
def alternatives (b : Branch) : List (List GlobPart) :=
  b.finished ++ (if b.spellings = [[]] then [] else b.spellings)

/-- Go on with the next branch of the group. -/
def next (b : Branch) : Branch := ⟨b.alternatives, [[]], false⟩

/-- Close a group inside a branch: each spelling so far goes on with each
alternative. -/
def close (outer group : Branch) : Branch :=
  match group.alternatives with
  | [] => { outer with started := true }
  | found =>
    { outer with
      spellings := outer.spellings.flatMap fun lead => found.map (· ++ lead)
      started := true }

/-- Take back the separator before `**`, which then stands for folders; a
`**` directly after another one adds nothing. -/
def pushFolders (b : Branch) (part : GlobPart) : Branch :=
  { b with
    spellings := b.spellings.map fun
      | .folders :: lead => .folders :: lead
      | .inside :: lead => .inside :: lead
      | _ :: lead => part :: lead
      | [] => [part] }

end Branch

/-- A glob while it is being read. -/
structure Draft where
  /-- The character before. -/
  last : Option Char
  /-- Whether a bracket opens a class; not after one that was never closed. -/
  classes : Bool
  branch : Branch
  /-- The branches around the group, innermost first. -/
  outer : List Branch

namespace Draft

/-- Nothing read yet. -/
def start : Draft := ⟨none, true, .fresh, []⟩

/-- Go on after a character with the branch changed. -/
def after (d : Draft) (c : Char) (branch : Branch) : Draft :=
  { d with last := some c, branch := branch }

/-- What `**` adds, given the text after it, and what of that remains. It
stands for folders if it is a whole name. -/
def stars (d : Draft) (rest : Text) : Draft × Text :=
  let plain := (d.after '*' ((d.branch.push .run).push .run), rest)
  let grouped := !d.outer.isEmpty
  if !d.branch.started then
    match rest with
    | [] => (d.after '*' (d.branch.push .folders), [])
    | '/' :: rest => (d.after '/' (d.branch.push .folders), rest)
    | _ => plain
  else
    let startsName :=
      match d.last with
      | some c => c == '/' || (grouped && (c == ',' || c == '{'))
      | none => false
    if !startsName then plain
    else
      match rest with
      | [] => (d.after '*' (d.branch.pushFolders .inside), [])
      | '/' :: rest => (d.after '/' (d.branch.pushFolders .below), rest)
      | c :: _ =>
        if grouped && (c == ',' || c == '}') then
          (d.after '*' (d.branch.pushFolders .inside), rest)
        else plain

end Draft

/-- Read the rest of a glob into its spellings. The budget bounds the
characters that remain. -/
def read? (lenient : Bool) : (budget : Nat) → Draft → Text → Option (List (List GlobPart))
  | 0, _, _ => none
  | budget + 1, d, t =>
    match t with
    | [] => if d.outer.isEmpty then some (d.branch.spellings.map List.reverse) else none
    | '*' :: '*' :: rest =>
      let (d, rest) := d.stars rest
      read? lenient budget d rest
    | '*' :: rest => read? lenient budget (d.after '*' (d.branch.push .run)) rest
    | '?' :: rest => read? lenient budget (d.after '?' (d.branch.push .one)) rest
    | '\\' :: c :: rest => read? lenient budget (d.after c (d.branch.pushChar c)) rest
    | ['\\'] => none
    | '{' :: rest =>
      read? lenient budget
        { d with last := some '{', branch := .fresh, outer := d.branch :: d.outer } rest
    | '}' :: rest =>
      match d.outer with
      | [] => none
      | branch :: outer =>
        read? lenient budget
          { d with last := some '}', branch := branch.close d.branch, outer := outer } rest
    | ',' :: rest =>
      let branch := if d.outer.isEmpty then d.branch.pushChar ',' else d.branch.next
      read? lenient budget (d.after ',' branch) rest
    | '[' :: rest =>
      if !d.classes then read? lenient budget (d.after '[' (d.branch.pushChar '[')) rest
      else
        let (negated, body) :=
          match rest with
          | '!' :: body => (true, body)
          | '^' :: body => (true, body)
          | body => (false, body)
        match readClass [] true false body with
        | .closed ranges rest =>
          let part := GlobPart.oneOf negated (ranges.flatMap byteRanges)
          read? lenient budget (d.after ']' (d.branch.push part)) rest
        | .unclosed =>
          if lenient then
            read? lenient budget
              { d.after '[' (d.branch.pushChar '[') with classes := false } rest
          else none
        | .backwards => none
    | c :: rest => read? lenient budget (d.after c (d.branch.pushChar c)) rest

/-- Read a glob. One of nothing but `**` fits everything. -/
def parse? (lenient : Bool) (t : Text) : Option Glob :=
  (read? lenient (t.length + 1) .start t).map fun spellings =>
    if spellings = [[.folders]] ∧ !t.contains '{' then ⟨[[.folders, .run]]⟩ else ⟨spellings⟩

end Glob

end DefIndex
