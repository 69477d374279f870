import DefIndex.Sorting
import DefIndex.Text.Basic

/-!
# `DefIndex.JsonValue`: JSON output

Two layouts: one line without blanks, and one value per line indented by
two blanks. An empty list or object is written without a line break in
both. Fields are written in the order given; `JsonValue.record` puts them
in order of their names first.
-/

set_option autoImplicit false

namespace DefIndex

/-- A JSON value; numbers are whole and not negative. -/
inductive JsonValue where
  | bool (value : Bool)
  | number (value : Nat)
  | text (value : Text)
  | list (items : List JsonValue)
  | object (fields : List (Text × JsonValue))
deriving Repr

namespace JsonValue

/-- An object with its fields in order of their names. -/
def record (fields : List (Text × JsonValue)) : JsonValue :=
  .object (sortBy (fun a b => (compare a.1 b.1).isLE) fields)

/-! ### Strings -/

/-- A hexadecimal digit in lower case. -/
def hexDigit (n : Nat) : Char :=
  if n < 10 then Char.ofNat ('0'.toNat + n) else Char.ofNat ('a'.toNat + (n - 10))

/-- A character inside a string. -/
def escapeChar (c : Char) : Text :=
  if c = '"' then ['\\', '"']
  else if c = '\\' then ['\\', '\\']
  else if c = '\n' then ['\\', 'n']
  else if c = '\r' then ['\\', 'r']
  else if c = '\t' then ['\\', 't']
  else if c = '\x08' then ['\\', 'b']
  else if c = '\x0c' then ['\\', 'f']
  else if c.toNat < 0x20 then
    ['\\', 'u', '0', '0', hexDigit (c.toNat / 16), hexDigit (c.toNat % 16)]
  else [c]

/-- A string with its quotes. -/
def quote (t : Text) : Text := '"' :: t.flatMap escapeChar ++ ['"']

/-- A truth value. -/
def boolText (b : Bool) : Text := if b then "true" else "false"

/-! ### One line -/

mutual

/-- A value on one line. -/
def compact : JsonValue → Text
  | bool b => boolText b
  | number n => Text.ofNat n
  | text t => quote t
  | list items => '[' :: Text.join [','] (compactItems items) ++ [']']
  | object fields => '{' :: Text.join [','] (compactFields fields) ++ ['}']

/-- The items of a list. -/
def compactItems : List JsonValue → List Text
  | [] => []
  | v :: vs => compact v :: compactItems vs

/-- The fields of an object. -/
def compactFields : List (Text × JsonValue) → List Text
  | [] => []
  | (name, v) :: rest => (quote name ++ ':' :: compact v) :: compactFields rest

end

/-! ### Indented -/

/-- A line break and the blanks of a depth. -/
def newline (depth : Nat) : Text := '\n' :: List.replicate (2 * depth) ' '

/-- The parts of a list or an object between its brackets, one per
line. -/
def block (depth : Nat) (opening closing : Char) (parts : List Text) : Text :=
  if parts.isEmpty then [opening, closing]
  else
    opening :: newline (depth + 1) ++ Text.join (',' :: newline (depth + 1)) parts
      ++ newline depth ++ [closing]

mutual

/-- A value at a depth, one part per line. -/
def indented (depth : Nat) : JsonValue → Text
  | bool b => boolText b
  | number n => Text.ofNat n
  | text t => quote t
  | list items => block depth '[' ']' (indentedItems (depth + 1) items)
  | object fields => block depth '{' '}' (indentedFields (depth + 1) fields)

/-- The items of a list. -/
def indentedItems (depth : Nat) : List JsonValue → List Text
  | [] => []
  | v :: vs => indented depth v :: indentedItems depth vs

/-- The fields of an object. -/
def indentedFields (depth : Nat) : List (Text × JsonValue) → List Text
  | [] => []
  | (name, v) :: rest =>
    (quote name ++ ':' :: ' ' :: indented depth v) :: indentedFields depth rest

end

/-- A value over several lines. -/
def pretty (v : JsonValue) : Text := indented 0 v

end JsonValue

end DefIndex
