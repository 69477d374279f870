import DefIndex.Text.Basic

/-!
# `DefIndex.Toml.Quoted`: blanks, comments and strings of settings files

What stands between the values of a settings file, and its strings: in
double quotes with escapes or in single quotes without, on one line or,
in three quotes, on several. Each reader takes a text and gives what it
read with the rest of the text, or nothing.
-/

set_option autoImplicit false

namespace DefIndex.Toml

/-! ### Characters -/

/-- A blank inside a line. -/
def isSpace (c : Char) : Bool := c == ' ' || c == '\t'

/-- Skip blanks inside a line. -/
def skipSpace (t : Text) : Text := t.dropWhile isSpace

/-- A character that no comment and no string may hold. -/
def isControl (c : Char) : Bool :=
  (decide (c.toNat < 0x20) && c != '\t') || c.toNat == 0x7F

/-- A character of a key without quotes. -/
def isKeyChar (c : Char) : Bool := c.isAlphanum || c == '_' || c == '-'

/-- Skip a line end. -/
def lineEnd? : Text → Option Text
  | '\n' :: rest => some rest
  | '\r' :: '\n' :: rest => some rest
  | _ => none

/-- Skip a comment if one starts here. -/
def skipComment? : Text → Option Text
  | '#' :: rest =>
    let rest := rest.dropWhile fun c => !isControl c
    match rest with
    | [] => some []
    | '\n' :: _ => some rest
    | '\r' :: '\n' :: _ => some rest
    | _ => none
  | t => some t

/-- Skip blanks, comments and line ends. The budget bounds the number of
lines. -/
def skipLines? : (budget : Nat) → Text → Option Text
  | 0, t => some t
  | budget + 1, t => do
    let t ← skipComment? (skipSpace t)
    match lineEnd? t with
    | some rest => skipLines? budget rest
    | none => return t

/-! ### Strings -/

/-- The value of a hexadecimal digit. -/
def hexDigit? (c : Char) : Option Nat :=
  if c.isDigit then some (c.toNat - '0'.toNat)
  else if 'a' ≤ c ∧ c ≤ 'f' then some (c.toNat - 'a'.toNat + 10)
  else if 'A' ≤ c ∧ c ≤ 'F' then some (c.toNat - 'A'.toNat + 10)
  else none

/-- The character with a code point written in hexadecimal digits. -/
def hexChar? (ds : Text) : Option Char := do
  let values ← ds.mapM hexDigit?
  let n := values.foldl (fun n d => 16 * n + d) 0
  if n.isValidChar then some (Char.ofNat n) else none

/-- The character after a backslash, and what follows it. -/
def escape? : Text → Option (Char × Text)
  | 'b' :: rest => some ('\x08', rest)
  | 't' :: rest => some ('\t', rest)
  | 'n' :: rest => some ('\n', rest)
  | 'f' :: rest => some ('\x0c', rest)
  | 'r' :: rest => some ('\r', rest)
  | '"' :: rest => some ('"', rest)
  | '\\' :: rest => some ('\\', rest)
  | 'u' :: rest =>
    if rest.length < 4 then none
    else (hexChar? (rest.take 4)).map (·, rest.drop 4)
  | 'U' :: rest =>
    if rest.length < 8 then none
    else (hexChar? (rest.take 8)).map (·, rest.drop 8)
  | _ => none

/-- Put a character in front of a string that was read. -/
def lead (c : Char) (read : Option (Text × Text)) : Option (Text × Text) :=
  read.map fun (t, rest) => (c :: t, rest)

/-- The rest of a string in double quotes on one line. -/
def basic? : (budget : Nat) → Text → Option (Text × Text)
  | 0, _ => none
  | _ + 1, '"' :: rest => some ([], rest)
  | budget + 1, '\\' :: rest =>
    match escape? rest with
    | some (c, rest) => lead c (basic? budget rest)
    | none => none
  | budget + 1, c :: rest => if isControl c then none else lead c (basic? budget rest)
  | _ + 1, [] => none

/-- The rest of a string in single quotes on one line. -/
def literal? : Text → Option (Text × Text)
  | [] => none
  | '\'' :: rest => some ([], rest)
  | c :: rest => if isControl c then none else lead c (literal? rest)

/-- Up to two quotes may stand directly before the closing three. -/
def closeLong (quote : Char) : Text → Option (Text × Text)
  | a :: b :: c :: d :: e :: rest =>
    if a = quote ∧ b = quote ∧ c = quote then
      if d = quote ∧ e = quote then some ([quote, quote], rest)
      else if d = quote then some ([quote], e :: rest)
      else some ([], d :: e :: rest)
    else none
  | [a, b, c, d] =>
    if a = quote ∧ b = quote ∧ c = quote then
      if d = quote then some ([quote], []) else some ([], [d])
    else none
  | [a, b, c] => if a = quote ∧ b = quote ∧ c = quote then some ([], []) else none
  | _ => none

/-- Skip blanks and line ends. The budget bounds the number of lines. -/
def skipLineEnds : (budget : Nat) → Text → Text
  | 0, t => t
  | budget + 1, t =>
    match lineEnd? (skipSpace t) with
    | some rest => skipLineEnds budget rest
    | none => skipSpace t

/-- The rest of a string in three quotes; escapes count in double ones.
A backslash at the end of a line swallows the blanks and line ends after
it. -/
def long? (quote : Char) : (budget : Nat) → Text → Option (Text × Text)
  | 0, _ => none
  | budget + 1, t =>
    match closeLong quote t with
    | some closed => some closed
    | none =>
      match t with
      | [] => none
      | '\r' :: '\n' :: rest => lead '\n' (long? quote budget rest)
      | c :: rest =>
        if c = '\\' ∧ quote = '"' then
          match lineEnd? (skipSpace rest) with
          | some rest => long? quote budget (skipLineEnds budget rest)
          | none =>
            match escape? rest with
            | some (c, rest) => lead c (long? quote budget rest)
            | none => none
        else if c ≠ '\n' ∧ isControl c then none
        else lead c (long? quote budget rest)

/-- A line end directly after the opening three quotes does not count. -/
def dropFirstLineEnd (t : Text) : Text := (lineEnd? t).getD t

/-- A string of any form. -/
def string? (t : Text) : Option (Text × Text) :=
  match t with
  | '"' :: '"' :: '"' :: rest => long? '"' (rest.length + 1) (dropFirstLineEnd rest)
  | '\'' :: '\'' :: '\'' :: rest => long? '\'' (rest.length + 1) (dropFirstLineEnd rest)
  | '"' :: rest => basic? (rest.length + 1) rest
  | '\'' :: rest => literal? rest
  | _ => none

end DefIndex.Toml
