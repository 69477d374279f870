import DefIndex.Path
import DefIndex.Uri.Host

/-!
# `DefIndex.Uri`: files as resource identifiers

An editor names files by identifiers: a scheme, for most schemes a host
and a path of segments, then a query and a fragment. `Uri.parse` reads
one, resolving `.` and `..` and escaping what may not stand in its parts,
so that two spellings of one identifier become the same value. Reading
follows the scheme: `file` has a host that is mostly empty, the schemes of
the web have one that is not, and any other scheme may do without host and
segments.

* `Uri.render` writes an identifier.
* `Uri.locator?` is the file that an identifier names: the path of any
  identifier with segments whose host is this machine, its escapes undone.
* `Uri.ofPath?` is the identifier of a path.
-/

set_option autoImplicit false

namespace DefIndex

/-- What stands between `//` and the path of an identifier. -/
structure UriAuthority where
  /-- The written user name and password. -/
  user : Text
  host : Text
  /-- The number of the service on the host, unless it is the usual one of
  the scheme. -/
  service : Option Nat
deriving DecidableEq, Repr

/-- A resource identifier, its parts in written form. -/
structure Uri where
  scheme : Text
  authority : Option UriAuthority
  path : Text
  /-- Whether the path is made of segments; otherwise it is one word. -/
  segmented : Bool
  query : Option Text
  fragment : Option Text
deriving DecidableEq, Repr

namespace Uri

/-! ### Segments -/

/-- Whether a segment is `.`, also written with an escape. -/
def isHere (segment : Text) : Bool :=
  [".", "%2e"].contains (String.ofList (segment.map Char.toLower))

/-- Whether a segment is `..`, also written with escapes. -/
def isUp (segment : Text) : Bool :=
  ["..", ".%2e", "%2e.", "%2e%2e"].contains (String.ofList (segment.map Char.toLower))

/-- Whether a text is a drive: a letter with `:` or `|` after it. -/
def isDrive : Text → Bool
  | [letter, mark] => letter.isAlpha && (mark == ':' || mark == '|')
  | _ => false

/-- Whether a segment is a drive, perhaps with a backslash and more after
it. -/
def startsWithDrive (segment : Text) : Bool :=
  isDrive (segment.take 2) && ((segment.drop 2).isEmpty || segment[2]? == some '\\')

/-- A segment as it was written. -/
structure Segment where
  text : Text
  /-- Whether a tab or a line end stands between its first two characters
  and the rest. -/
  torn : Bool
deriving DecidableEq, Repr

/-- The part of a path that has been read. -/
structure Trail where
  /-- Its segments, last first. -/
  stack : List Text
  /-- Whether it starts on a drive. -/
  onDrive : Bool
deriving DecidableEq, Repr

/-- Add a segment. The first segment of a file may be a drive, which is
written with a colon; a drive that is torn from the rest of its segment
becomes one of its own. -/
def Trail.push (file : Bool) (trail : Trail) (segment : Segment) : Trail :=
  let simple : Trail := { trail with stack := segment.text :: trail.stack }
  if file && trail.stack.isEmpty then
    match segment.text with
    | [letter, _] => if isDrive segment.text then ⟨[[letter, ':']], true⟩ else simple
    | letter :: ':' :: rest =>
      if segment.torn && letter.isAlpha then { trail with stack := [rest, [letter, ':']] }
      else simple
    | _ => simple
  else simple

/-- Take the last segment off; a drive stays. -/
def Trail.pop (trail : Trail) : Trail :=
  match trail.stack with
  | [] => trail
  | segment :: rest => if startsWithDrive segment then trail else { trail with stack := rest }

/-- Follow segments, resolving `.` and `..`. A dot segment at the end
leaves an empty last segment. -/
def Trail.follow (file : Bool) (trail : Trail) : List Segment → Trail
  | [] => trail
  | [last] =>
    if isUp last.text then { trail.pop with stack := [] :: trail.pop.stack }
    else if isHere last.text then { trail with stack := [] :: trail.stack }
    else trail.push file last
  | segment :: rest =>
    if isUp segment.text then trail.pop.follow file rest
    else if isHere segment.text then trail.follow file rest
    else (trail.push file segment).follow file rest

/-- A character of an identifier, and whether a tab or a line end stands
directly before it. -/
abbrev Mark := Char × Bool

/-- The characters of an identifier. Tabs and line ends do not count among
them; `after` tells whether one was just passed. -/
def marksOf (after : Bool) : Text → List Mark
  | [] => []
  | c :: rest =>
    if ['\t', '\n', '\r'].contains c then marksOf true rest else (c, after) :: marksOf false rest

/-- The segments of a path after its first slash, escaped. -/
def segmentsOf (marks : List Mark) : List Segment :=
  let plain := marks.map fun (c, after) => if c = '/' then (c, false) else (c, after)
  (Text.cut ('/', false) plain).map fun piece =>
    ⟨escape inPath (piece.map Prod.fst), (piece[2]?.map Prod.snd).getD false⟩

/-- Segments as a path. -/
def pathOf (segments : List Text) : Text := '/' :: Text.join ['/'] segments

/-- The path that leads along segments, for an identifier that names no
file. -/
def pathAlong (marks : List Mark) : Text :=
  pathOf ((Trail.mk [] false).follow false (segmentsOf marks)).stack.reverse

/-! ### Authorities -/

/-- What stands before the last `@` of an authority, if there is one, and
what stands after it. -/
def splitUser (authority : Text) : Option Text × Text :=
  match (Text.cut '@' authority).reverse with
  | host :: part :: parts => (some (Text.join ['@'] (part :: parts).reverse), host)
  | _ => (none, authority)

/-- The written form of a user name and a password; an empty password does
not count. -/
def writtenUser (user : Text) : Text :=
  let name := user.takeWhile (· != ':')
  let password := (user.dropWhile (· != ':')).drop 1
  escape inUser name ++ (if password.isEmpty then [] else ':' :: escape inUser password)

/-- Split a host from the colon and the number after it. A colon inside
brackets belongs to the host. -/
def splitService (inside : Bool) : Text → Text × Option Text
  | [] => ([], none)
  | c :: rest =>
    if c = ':' ∧ !inside then ([], some rest)
    else
      let inside := if c = '[' then true else if c = ']' then false else inside
      let (host, service) := splitService inside rest
      (c :: host, service)

/-- The usual service of a scheme. -/
def usualService? (scheme : Text) : Option Nat :=
  if scheme = "http" ∨ scheme = "ws" then some 80
  else if scheme = "https" ∨ scheme = "wss" then some 443
  else if scheme = "ftp" then some 21
  else none

/-- Whether a scheme is one of the web. -/
def isWeb (scheme : Text) : Bool := (usualService? scheme).isSome

/-- The service that an identifier names, none for the usual one, and what
follows its number. Only a backslash may follow; it belongs to the path. -/
def serviceOf (scheme t : Text) : Except Fault (Option Nat × Text) :=
  let digits := t.takeWhile Char.isDigit
  let rest := t.dropWhile Char.isDigit
  let n := (numberIn? 10 digits).getD 0
  if (rest.isEmpty || rest.head? == some '\\') && decide (n < UInt16.size) then
    .ok (if digits.isEmpty || usualService? scheme == some n then none else some n, rest)
  else .error .service

/-- Read an authority, and give what of the text belongs to the path.
`followed` tells whether more of the identifier comes after it. -/
def authorityOf (scheme authority : Text) (followed : Bool) :
    Except Fault (UriAuthority × Text) := do
  let (user, hostAndService) := splitUser authority
  let (host, service) := splitService false hostAndService
  if user = some [] ∧ hostAndService.isEmpty ∧ followed then throw .noHost
  let written := writtenUser (user.getD [])
  if host.isEmpty && (isWeb scheme || service.isSome || !written.isEmpty) then throw .noHost
  let host ← if isWeb scheme then webHost host else plainHost host
  let (service, rest) ← serviceOf scheme (service.getD [])
  return (⟨written, host, service⟩, rest)

/-! ### Reading -/

/-- The scheme of an identifier in lower case, and what follows its
colon. -/
def scheme? (t : Text) : Option (Text × Text) :=
  let isSchemeChar (c : Char) : Bool := c.isAlphanum || ['+', '-', '.'].contains c
  let scheme := t.takeWhile isSchemeChar
  match scheme.head?, t.dropWhile isSchemeChar with
  | some first, ':' :: rest =>
    if first.isAlpha then some (scheme.map Char.toLower, rest) else none
  | _, _ => none

/-- The authority and the path of a file. Where no host is named the path
starts with an empty segment, so that only a drive right after the scheme
is one. -/
def fileParts (marks : List Mark) : Except Fault (UriAuthority × Text) := do
  let (host, stack, path) ←
    match marks with
    | ('/', _) :: ('/', _) :: after =>
      let host := after.takeWhile fun (c, _) => c != '/'
      let rest := after.drop host.length
      if isDrive (host.map Prod.fst) then pure (([] : Text), ([] : List Text), after)
      else
        let written ← if host.isEmpty then pure [] else webHost (host.map Prod.fst)
        if written.isEmpty || written == "localhost" then
          pure ([], if rest.isEmpty then [] else [[]], rest.drop 1)
        else pure (written, [], rest.drop 1)
    | ('/', _) :: after => pure ([], [], after)
    | marks => pure ([], [], marks)
  let trail := (Trail.mk stack false).follow true (segmentsOf path)
  -- A file on a drive is a file of this machine.
  let host := if trail.onDrive then [] else host
  return (⟨[], host, none⟩, '/' :: (pathOf trail.stack.reverse).dropWhile (· == '/'))

/-- The authority, the path, and whether the path has segments, of an
identifier that names no file. -/
def otherParts (scheme : Text) (marks : List Mark) (followed : Bool) :
    Except Fault (Option UriAuthority × Text × Bool) := do
  let t := marks.map Prod.fst
  let afterSlashes? :=
    if isWeb scheme then some (t.dropWhile (· == '/')) else Text.dropStart? "//" t
  match afterSlashes? with
  | some after =>
    let written := after.takeWhile (· != '/')
    let rest := after.drop written.length
    let (authority, lead) ← authorityOf scheme written (followed || !rest.isEmpty)
    let path := lead ++ rest
    let marks := marks.drop (marks.length - path.length)
    if path.isEmpty && !isWeb scheme then return (some authority, [], true)
    else
      return (some authority, pathAlong (if lead.isEmpty then marks.drop 1 else marks), true)
  | none =>
    if t.head? = some '/' then return (none, pathAlong (marks.drop 1), true)
    else return (none, escape isControl t, false)

/-- Read an identifier. Tabs and line ends in it do not count, nor do
blanks and controls around it. In the schemes of files and of the web a
backslash is a slash. -/
def parse (source : Text) : Except Fault Uri := do
  let marks := marksOf false (Text.trimBy (fun c => decide (c.toNat ≤ 0x20)) source)
  match scheme? (marks.map Prod.fst) with
  | none => throw .relative
  | some (scheme, rest) =>
    let isFile := decide (scheme = "file")
    let special := isFile || isWeb scheme
    let isEnd (c : Char) : Bool := c == '?' || c == '#'
    let tail := rest.dropWhile fun c => !isEnd c
    let body := (marks.drop (marks.length - rest.length)).take (rest.length - tail.length)
    let body :=
      if special then body.map fun (c, after) => (if c = '\\' then '/' else c, after) else body
    let query := match tail with
      | '?' :: query => some (escape (inQuery special) (query.takeWhile (· != '#')))
      | _ => none
    let fragment := match tail.dropWhile (· != '#') with
      | '#' :: fragment => some (escape inFragment fragment)
      | _ => none
    if isFile then
      let (authority, path) ← fileParts body
      return ⟨scheme, some authority, path, true, query, fragment⟩
    else
      let (authority, path, segmented) ← otherParts scheme body (!tail.isEmpty)
      return ⟨scheme, authority, path, segmented, query, fragment⟩

/-! ### Writing -/

/-- The written form of an authority. -/
def renderAuthority (a : UriAuthority) : Text :=
  "//" ++ (if a.user.isEmpty then [] else a.user ++ ['@']) ++ a.host
    ++ (match a.service with
      | some n => ':' :: Text.ofNat n
      | none => ([] : Text))

/-- The written form of an identifier. A path that starts with two slashes
gets a dot in front where it could be taken for an authority. -/
def render (u : Uri) : Text :=
  u.scheme ++ [':']
    ++ (match u.authority with
      | some a => renderAuthority a
      | none =>
        if u.segmented && (Text.dropStart? "//" u.path).isSome then "/." else ([] : Text))
    ++ u.path
    ++ (match u.query with
      | some query => '?' :: query
      | none => ([] : Text))
    ++ (match u.fragment with
      | some fragment => '#' :: fragment
      | none => ([] : Text))

/-! ### Files -/

/-- Whether the host of an identifier is this machine. -/
def isLocal (u : Uri) : Bool :=
  match u.authority with
  | some a => a.host.isEmpty || a.host == "localhost"
  | none => true

/-- Whether bytes end like a drive; such a path asks for a folder. -/
def endsInDrive (bytes : List UInt8) : Bool :=
  match bytes.reverse with
  | mark :: letter :: _ :: _ => isDrive [Char.ofNat letter.toNat, Char.ofNat mark.toNat]
  | _ => false

/-- The file that an identifier names, if it names one. -/
def locator? (u : Uri) : Option Locator :=
  if u.segmented && u.path.head? == some '/' && u.isLocal then
    let bytes := unescape u.path
    some (.ofBytes (if endsInDrive bytes then bytes ++ [Path.separatorByte] else bytes))
  else none

/-- The path that an identifier names, if it names one. -/
def filePath? (u : Uri) : Option Path := u.locator?.map Locator.path

/-- The identifier of a file; a relative path has none. -/
def ofPath? (p : Path) : Option Uri :=
  if !p.absolute then none
  else
    some
      { scheme := "file"
        authority := some ⟨[], [], none⟩
        path := pathOf (p.segments.map fun s => escapeBytes inSegment s.bytes)
        segmented := true
        query := none
        fragment := none }

end Uri

end DefIndex
