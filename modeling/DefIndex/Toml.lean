import DefIndex.Toml.Moment
import DefIndex.Toml.Tree

/-!
# `DefIndex.Toml`: settings files

A reader for TOML documents: lines of `key = value` and table headers,
comments after `#`. It accepts or refuses a whole document; a document
with a fault gives no settings at all.

Each reader takes a text and gives what it read with the rest of the
text, or nothing. Values nest, up to a limit; their readers take a budget,
which the length of the document bounds.

`Toml.layer?` is the layer of settings of a document.
-/

set_option autoImplicit false

namespace DefIndex.Toml

/-! ### Bare values -/

/-- A character of a number, a date or a truth value. -/
def isBareChar (c : Char) : Bool :=
  c.isAlphanum || ['_', '+', '-', '.', ':'].contains c

/-- The bare token at the start of a text. A date and a time with one
blank between them are one token. -/
def bareToken (t : Text) : Text :=
  let token := t.takeWhile isBareChar
  match t.drop token.length with
  | ' ' :: rest =>
    let time := rest.takeWhile isBareChar
    if fits "0000-00-00" token && fits "00:" (time.take 3) then token ++ ' ' :: time else token
  | _ => token

/-- What a bare token stands for. -/
def bareValue? (token : Text) : Option SettingValue :=
  if token = "true" then some (.boolean true)
  else if token = "false" then some (.boolean false)
  else
    match integer? token with
    | some n => some (.integer n)
    | none => if isFloat token || isDate token then some .other else none

/-! ### Keys -/

/-- One part of a key. -/
def keyPart? (t : Text) : Option (Text × Text) :=
  match t with
  | '"' :: rest => basic? (rest.length + 1) rest
  | '\'' :: rest => literal? rest
  | _ =>
    let part := t.takeWhile isKeyChar
    if part.isEmpty then none else some (part, t.dropWhile isKeyChar)

/-- Parts of a key with dots between them, blanks around the dots. -/
def keyParts? : (budget : Nat) → Text → Option (List Text × Text)
  | 0, _ => none
  | budget + 1, t => do
    let (part, rest) ← keyPart? (skipSpace t)
    match skipSpace rest with
    | '.' :: rest =>
      let (parts, rest) ← keyParts? budget rest
      return (part :: parts, rest)
    | rest => return ([part], rest)

/-- Keys have fewer parts than this, and values nest less deep. -/
def depthLimit : Nat := 80

/-- A key. -/
def key? (t : Text) : Option (List Text × Text) :=
  (keyParts? (t.length + 1) t).filter fun (parts, _) => parts.length < depthLimit

/-! ### Values and lines -/

mutual

/-- Read a value inside `depth` lists and tables in braces. The budget
bounds the steps. -/
def value? (depth : Nat) : (budget : Nat) → Text → Option (SettingValue × Text)
  | 0, _ => none
  | budget + 1, t =>
    match t with
    | '"' :: _ => (string? t).map fun (s, rest) => (.text s, rest)
    | '\'' :: _ => (string? t).map fun (s, rest) => (.text s, rest)
    | '[' :: rest => if depth + 1 < depthLimit then items? (depth + 1) budget rest else none
    | '{' :: rest =>
      if depth + 1 < depthLimit then
        match skipSpace rest with
        | '}' :: rest => some (.other, rest)
        | rest => fields? (depth + 1) budget [] rest
      else none
    | _ =>
      let token := bareToken t
      (bareValue? token).map (·, t.drop token.length)

/-- Read the items of a list up to its closing bracket. -/
def items? (depth : Nat) : (budget : Nat) → Text → Option (SettingValue × Text)
  | 0, _ => none
  | budget + 1, t => do
    match ← skipLines? t.length t with
    | ']' :: rest => return (.list [], rest)
    | t =>
      let (item, rest) ← value? depth budget t
      match ← skipLines? rest.length rest with
      | ',' :: rest =>
        match ← items? depth budget rest with
        | (.list items, rest) => return (.list (item :: items), rest)
        | _ => none
      | ']' :: rest => return (.list [item], rest)
      | _ => none

/-- Read the fields of a table in braces up to its closing brace. -/
def fields? (depth : Nat) : (budget : Nat) → Entries → Text → Option (SettingValue × Text)
  | 0, _, _ => none
  | budget + 1, entries, t => do
    let (key, rest) ← key? t
    match rest with
    | '=' :: rest =>
      let (leaf, rest) ← value? depth budget (skipSpace rest)
      let entries ← insert? leaf true entries key
      match skipSpace rest with
      | ',' :: rest => fields? depth budget entries rest
      | '}' :: rest => return (.other, rest)
      | _ => none
    | _ => none

end

/-- A document while it is being read: its tree and the current header. -/
structure Draft where
  entries : Entries
  header : List Text

/-- Read one line that is not blank, up to the blanks or the comment
before its line end. -/
def readLine? (d : Draft) (t : Text) : Option (Draft × Text) :=
  match t with
  | '[' :: '[' :: rest => do
    let (header, rest) ← key? rest
    match rest with
    | ']' :: ']' :: rest =>
      let entries ← descend? openRow d.entries header
      return (⟨entries, header⟩, rest)
    | _ => none
  | '[' :: rest => do
    let (header, rest) ← key? rest
    match rest with
    | ']' :: rest =>
      let entries ← descend? openTable d.entries header
      return (⟨entries, header⟩, rest)
    | _ => none
  | t => do
    let (key, rest) ← key? t
    match rest with
    | '=' :: rest =>
      let (leaf, rest) ← value? 0 (2 * rest.length + 2) (skipSpace rest)
      let entries ← set? d.entries d.header key leaf
      return (⟨entries, d.header⟩, rest)
    | _ => none

/-- Read the lines of a document. -/
def readLines? : (budget : Nat) → Draft → Text → Option Draft
  | 0, d, t => if t.isEmpty then some d else none
  | budget + 1, d, t => do
    match ← skipLines? t.length t with
    | [] => return d
    | t =>
      let (d, rest) ← readLine? d t
      match ← skipComment? (skipSpace rest) with
      | [] => return d
      | rest =>
        let rest ← lineEnd? rest
        readLines? budget d rest

/-- What an entry at the top of a document sets. -/
def Node.setting : Node → SettingValue
  | .value v => v
  | _ => .other

/-- A text without a byte order mark at its start. -/
def dropByteOrderMark : Text → Text
  | '\uFEFF' :: rest => rest
  | t => t

/-- The layer of a document, or nothing if the document has a fault. -/
def layer? (source : Text) : Option SettingLayer :=
  let source := dropByteOrderMark source
  (readLines? (source.length + 1) ⟨[], []⟩ source).map fun d =>
    d.entries.map fun (name, node) => (name, node.setting)

end DefIndex.Toml
