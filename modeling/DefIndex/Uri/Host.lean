import DefIndex.Uri.Domain
import DefIndex.Uri.Escape

/-!
# `DefIndex.Uri.Host`: the machine that an identifier names

For the schemes of the web a host is a domain name, which is written in
lower case and in ASCII, or the address of a machine, which is written in
its shortest usual form. For other schemes it is any word. Either way an
address in brackets is one of eight pieces.

`Uri.webHost` and `Uri.plainHost` give the written form of a host or say
what is wrong with it.
-/

set_option autoImplicit false

namespace DefIndex.Uri

/-- Why a text is no identifier. -/
inductive Fault where
  | relative
  | noHost
  /-- A domain that cannot be written in ASCII. -/
  | domain
  /-- A character that no host may hold. -/
  | hostCharacter
  | fourPartAddress
  | eightPartAddress
  | service
deriving DecidableEq, Repr

/-- The wording of a fault. -/
def Fault.message : Fault → Text
  | relative => "relative URL without a base"
  | noHost => "empty host"
  | domain => "invalid international domain name"
  | hostCharacter => "invalid domain character"
  | fourPartAddress => "invalid IPv4 address"
  | eightPartAddress => "invalid IPv6 address"
  | service => "invalid port number"

/-! ### Numbers -/

/-- A number in a base of at most sixteen. -/
def numberIn? (base : Nat) (t : Text) : Option Nat :=
  (t.mapM hexValue?).bind fun digits =>
    if digits.all fun d => decide (d < base) then
      some (digits.foldl (fun n d => base * n + d) 0)
    else none

/-- A part of a four-part address: decimal, hexadecimal after `0x`, or
octal after `0`. -/
def addressPart? : Text → Option Nat
  | [] => none
  | '0' :: 'x' :: rest => numberIn? 16 rest
  | '0' :: 'X' :: rest => numberIn? 16 rest
  | '0' :: c :: rest => numberIn? 8 (c :: rest)
  | t => numberIn? 10 t

/-! ### Four-part addresses -/

/-- The parts of a host, without an empty one at the end. -/
def hostParts (host : Text) : List Text :=
  match (Text.cut '.' host).reverse with
  | [] :: rest => rest.reverse
  | parts => parts.reverse

/-- Whether a host has to be a four-part address: its last part is a
number. -/
def endsInNumber (host : Text) : Bool :=
  match (hostParts host).getLast? with
  | some last => (!last.isEmpty && last.all Char.isDigit) || (addressPart? last).isSome
  | none => false

/-- The number of a four-part address. The last part fills all places that
the parts before it leave. -/
def fourPartNumber? (host : Text) : Option Nat := do
  let numbers ← (hostParts host).mapM addressPart?
  let last ← numbers.getLast?
  let leading := numbers.dropLast
  if leading.length ≤ 3 ∧ leading.all (fun n => decide (n ≤ 255))
      ∧ last < Nat.pow 256 (4 - leading.length) then
    some (leading.foldl (fun n part => 256 * n + part) 0
      * Nat.pow 256 (4 - leading.length) + last)
  else none

/-- The written form of a four-part address. -/
def renderFourPart (n : Nat) : Text :=
  Text.join ['.'] ([n / 16777216, n / 65536 % 256, n / 256 % 256, n % 256].map Text.ofNat)

/-! ### Eight-part addresses -/

/-- A piece of an eight-part address. -/
def piece? (t : Text) : Option Nat :=
  if t.isEmpty || decide (t.length > 4) then none else numberIn? 16 t

/-- A part of a four-part address inside an eight-part one: decimal and
without a zero in front. -/
def plainByte? (t : Text) : Option Nat :=
  match t with
  | [] => none
  | '0' :: _ :: _ => none
  | t => (numberIn? 10 t).filter fun n => n ≤ 255

/-- The last two pieces, written as a four-part address. -/
def tailPieces? (t : Text) : Option (List Nat) := do
  match ← (Text.cut '.' t).mapM plainByte? with
  | [a, b, c, d] => some [256 * a + b, 256 * c + d]
  | _ => none

/-- Pieces with colons between them; at the end of the address a four-part
address may stand for the last two. -/
def pieces? (atEnd : Bool) (t : Text) : Option (List Nat) :=
  if t.isEmpty then some []
  else
    let parts := Text.cut ':' t
    let last := parts.getLast?.getD []
    if atEnd && last.contains '.' then do
      return (← parts.dropLast.mapM piece?) ++ (← tailPieces? last)
    else parts.mapM piece?

/-- What stands before the first `::` and after it. -/
def splitAtGap : Text → Option (Text × Text)
  | ':' :: ':' :: rest => some ([], rest)
  | c :: rest => (splitAtGap rest).map fun (lead, tail) => (c :: lead, tail)
  | [] => none

/-- The eight pieces of an address; `::` stands for zeros. -/
def eightPieces? (t : Text) : Option (List Nat) :=
  match splitAtGap t with
  | none => (pieces? true t).filter fun pieces => pieces.length = 8
  | some (lead, tail) => do
    let lead ← pieces? false lead
    let tail ← pieces? true tail
    if lead.length + tail.length ≤ 7 then
      some (lead ++ List.replicate (8 - (lead.length + tail.length)) 0 ++ tail)
    else none

/-- Where the longest run of zeros starts and how long it is. -/
def longestZeros (pieces : List Nat) : Nat × Nat :=
  (List.range pieces.length).foldl (fun best start =>
    let length := ((pieces.drop start).takeWhile (· == 0)).length
    if length > best.2 then (start, length) else best) (0, 0)

/-- The written form of an eight-part address: the longest run of zeros,
if it is longer than one, becomes `::`. -/
def renderEightPart (pieces : List Nat) : Text :=
  let written (pieces : List Nat) : Text := Text.join [':'] (pieces.map (Nat.toDigits 16))
  let (start, length) := longestZeros pieces
  if length < 2 then '[' :: written pieces ++ [']']
  else
    '[' :: written (pieces.take start) ++ "::" ++ written (pieces.drop (start + length)) ++ [']']

/-- A host in brackets, if it is one. -/
def bracketed? (host : Text) : Option (Except Fault Text) :=
  match host with
  | '[' :: rest =>
    match Text.dropEnd? [']'] rest with
    | some body =>
      some (((eightPieces? body).map fun pieces => Except.ok (renderEightPart pieces)).getD
        (.error .eightPartAddress))
    | none => some (.error .eightPartAddress)
  | _ => none

/-! ### Hosts -/

/-- A character that no word for a host may hold. -/
def isForbidden (c : Char) : Bool :=
  ['\x00', '\t', '\n', '\r', ' ', '#', '/', ':', '<', '>', '?', '@', '[', '\\', ']', '^',
    '|'].contains c

/-- The host of a scheme outside the web. -/
def plainHost (host : Text) : Except Fault Text :=
  match bracketed? host with
  | some result => result
  | none =>
    if host.any isForbidden then .error .hostCharacter else .ok (escape isControl host)

/-- The host of a scheme of the web. -/
def webHost (host : Text) : Except Fault Text :=
  match bracketed? host with
  | some result => result
  | none =>
    match (Text.ofUtf8? (unescape host)).bind Domain.toAscii? with
    | none => .error .domain
    | some [] => .error .noHost
    | some domain =>
      if endsInNumber domain then
        match fourPartNumber? domain with
        | some n => .ok (renderFourPart n)
        | none => .error .fourPartAddress
      else .ok domain

end DefIndex.Uri
