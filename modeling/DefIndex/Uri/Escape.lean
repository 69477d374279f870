import DefIndex.Text.Utf8

/-!
# `DefIndex.Uri.Escape`: escapes in identifiers

What may not stand in a part of an identifier is written as `%` with the
two hexadecimal digits of each of its bytes. Which characters that are
depends on the part; whatever is not ASCII is always escaped. An escape
that is already there stays as it is.

* `Uri.escape` writes a text with a set of characters escaped.
* `Uri.unescape` gives the bytes that a written text stands for.
-/

set_option autoImplicit false

namespace DefIndex.Uri

/-! ### Hexadecimal digits -/

/-- The upper-case hexadecimal digit of a number below sixteen. -/
def hexDigit (n : Nat) : Char :=
  if n < 10 then Char.ofNat ('0'.toNat + n) else Char.ofNat ('A'.toNat + (n - 10))

/-- The value of a hexadecimal digit of either case. -/
def hexValue? (c : Char) : Option Nat :=
  if c.isDigit then some (c.toNat - '0'.toNat)
  else if 'a' ≤ c ∧ c ≤ 'f' then some (c.toNat - 'a'.toNat + 10)
  else if 'A' ≤ c ∧ c ≤ 'F' then some (c.toNat - 'A'.toNat + 10)
  else none

/-! ### Sets of characters -/

/-- The controls of ASCII. -/
def isControl (c : Char) : Bool := decide (c.toNat < 0x20) || c.toNat == 0x7F

/-- What is escaped in a fragment. -/
def inFragment (c : Char) : Bool := isControl c || [' ', '"', '<', '>', '\x60'].contains c

/-- What is escaped in a query; the schemes of the web escape the
apostrophe too. -/
def inQuery (web : Bool) (c : Char) : Bool :=
  isControl c || [' ', '"', '#', '<', '>'].contains c || (web && c == '\'')

/-- What is escaped in a path. -/
def inPath (c : Char) : Bool := inFragment c || ['#', '?', '{', '}'].contains c

/-- What is escaped in a name that becomes one segment of a path. -/
def inSegment (c : Char) : Bool := inPath c || ['/', '%', '\\'].contains c

/-- What is escaped in a user name and a password. -/
def inUser (c : Char) : Bool :=
  inPath c || ['/', ':', ';', '=', '@', '[', '\\', ']', '^', '|'].contains c

/-! ### Escaping and back -/

/-- A byte as an escape. -/
def escapeByte (b : UInt8) : Text :=
  ['%', hexDigit (b.toNat / 16), hexDigit (b.toNat % 16)]

/-- Write bytes: what is ASCII and not in the set stands for itself. -/
def escapeBytes (set : Char → Bool) (bytes : List UInt8) : Text :=
  bytes.flatMap fun b =>
    let c := Char.ofNat b.toNat
    if b.toNat < 0x80 && !set c then [c] else escapeByte b

/-- Write a text with the characters of a set escaped. -/
def escape (set : Char → Bool) (t : Text) : Text := escapeBytes set (Text.utf8 t)

/-- The bytes of a text with its escapes undone. A `%` without two
hexadecimal digits stands for itself. -/
def unescape : Text → List UInt8
  | [] => []
  | '%' :: a :: b :: rest =>
    match hexValue? a, hexValue? b with
    | some x, some y => UInt8.ofNat (16 * x + y) :: unescape rest
    | _, _ => '%'.toUInt8 :: unescape (a :: b :: rest)
  | c :: rest => String.utf8EncodeChar c ++ unescape rest

end DefIndex.Uri
