import DefIndex.Toml

/-!
# `DefIndex.Environment`: settings from environment variables

A variable whose name starts with `PARSAUR_`, in any case, sets the value
named by the rest of it in lower case; a name with dots in it sets a group
of values. The text of a variable is read as a value: `true` and `false`,
whole numbers, `[a, b]` for a list, `"abc"` for a quoted text with the
escapes of settings files, and `'a'` for a single character. A text that
is not exactly one such value stands for itself.
-/

set_option autoImplicit false

namespace DefIndex.Environment

/-! ### Numbers -/

/-- A run of decimal digits as a number. -/
def digits? (t : Text) : Option Nat :=
  if t.isEmpty || !t.all Char.isDigit then none
  else some (t.foldl (fun n c => 10 * n + (c.toNat - '0'.toNat)) 0)

/-- The largest number of 64 bits without a sign. -/
def maxUnsigned : Nat := UInt64.size - 1

/-- A whole number that fits into 64 bits, with or without a sign. -/
def integer? : Text → Option Int
  | '+' :: ds => (digits? ds).bind fun n => if n ≤ maxUnsigned then some n else none
  | '-' :: ds => (digits? ds).bind fun n => if n ≤ UInt64.size / 2 then some (-(n : Int)) else none
  | ds => (digits? ds).bind fun n => if n ≤ maxUnsigned then some n else none

/-- Drop a sign. -/
def dropSign : Text → Text
  | '+' :: rest => rest
  | '-' :: rest => rest
  | t => t

/-- Whether a text is a decimal fraction, with an exponent or without. -/
def isFraction (t : Text) : Bool :=
  let isMark (c : Char) : Bool := c == 'e' || c == 'E'
  let mantissa := (dropSign t).takeWhile fun c => !isMark c
  let exponent := (dropSign t).dropWhile fun c => !isMark c
  let point := mantissa.filter (· == '.')
  let figures := mantissa.filter (· != '.')
  point.length == 1 && (digits? figures).isSome
    && (exponent.isEmpty || (digits? (dropSign (exponent.drop 1))).isSome)

/-! ### Values -/

/-- Whether a character ends a bare value inside a list. -/
def isSeparator (c : Char) : Bool := [',', '{', '}', '[', ']'].contains c

/-- White space between the parts of a value. -/
def isSpace (c : Char) : Bool := [' ', '\t', '\n', '\r', '\x0c'].contains c

/-- What a bare value stands for. -/
def bare (t : Text) : SettingValue :=
  if t.contains '.' && isFraction t then .other
  else
    match integer? t with
    | some n => .integer n
    | none => .text t

/-- The characters at the start of a text that lie within a number of
bytes. -/
def withinBytes : (bytes : Nat) → Text → Text
  | _, [] => []
  | bytes, c :: rest =>
    if c.utf8Size ≤ bytes then c :: withinBytes (bytes - c.utf8Size) rest else []

/-- The rest of a text in double quotes. If it has an escape, then of what
precedes the first escape as many bytes count as it has characters. -/
def quoted? (t : Text) : Option (Text × Text) :=
  let isPlain (c : Char) : Bool := c != '"' && c != '\\'
  let plain := t.takeWhile isPlain
  match t.dropWhile isPlain with
  | '"' :: rest => if plain.any Toml.isControl then none else some (plain, rest)
  | rest =>
    if plain.any Toml.isControl then none
    else
      (Toml.basic? (rest.length + 1) rest).map fun (escaped, rest) =>
        (withinBytes plain.length plain ++ escaped, rest)

mutual

/-- Read one value and the space around it. The depth bounds the nesting
of lists. -/
def value? : (depth : Nat) → Text → Option (SettingValue × Text)
  | 0, _ => none
  | depth + 1, t =>
    let t := t.dropWhile isSpace
    -- A word that only starts with `true` leaves a rest, which makes the
    -- whole text stand for itself.
    let found : Option (SettingValue × Text) :=
      match Text.dropStart? "true" t, Text.dropStart? "false" t with
      | some rest, _ => some (.boolean true, rest)
      | _, some rest => some (.boolean false, rest)
      | _, _ =>
        match t with
        | '[' :: rest => items? depth rest
        | '{' :: _ => none
        | '"' :: rest => (quoted? rest).map fun (text, after) => (.text text, after)
        | '\'' :: c :: '\'' :: rest => some (.text [c], rest)
        | '\'' :: _ => none
        | t =>
          some (bare (Text.trim (t.takeWhile fun c => !isSeparator c)),
            t.dropWhile fun c => !isSeparator c)
    found.map fun (v, rest) => (v, rest.dropWhile isSpace)

/-- Read the items of a list up to its closing bracket. -/
def items? : (depth : Nat) → Text → Option (SettingValue × Text)
  | 0, _ => none
  | _ + 1, ']' :: rest => some (.list [], rest)
  | depth + 1, t =>
    match value? depth t with
    | some (item, ',' :: rest) =>
      match items? depth rest with
      | some (.list items, rest) => some (.list (item :: items), rest)
      | _ => none
    | some (item, ']' :: rest) => some (.list [item], rest)
    | _ => none

end

/-- The value of a variable. -/
def valueOf (t : Text) : SettingValue :=
  match value? (2 * t.length + 2) t with
  | some (v, []) => v
  | _ => .text t

/-! ### Variables -/

/-- The start of the variables that are settings. -/
def variableLead : Text := "PARSAUR_"

/-- The name of the value that a variable sets, if it sets one, as its
parts between dots; no part is empty. -/
def settingPath? (name : Text) : Option (List Text) :=
  (Text.dropStart? (variableLead.map Char.toLower) ((Text.trim name).map Char.toLower)).bind
    fun setting =>
      let parts := Text.cut '.' (Text.trim setting)
      if parts.any List.isEmpty then none else some parts

/-- What a variable sets, if it is a setting. -/
def setting? (name text : Text) : Option (Text × SettingValue) :=
  match settingPath? name with
  | some [setting] => some (setting, valueOf text)
  | some (group :: _) => some (group, .other)
  | _ => none

/-- The layer of the environment. -/
def layer (environment : List (Text × Text)) : SettingLayer :=
  environment.filterMap fun (name, text) => setting? name text

end DefIndex.Environment
