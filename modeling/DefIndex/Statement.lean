import DefIndex.Kind
import DefIndex.Text.CharClass

/-!
# `DefIndex.Statement`: what one statement says

A statement is looked at in this order, and the first form that fits
wins.

1. `IMPORT` as a word with white space after it, anywhere: an import of
   the last token of the statement, which names a path.
2. A `?` as the first character that is not blank: an inherit statement,
   `?Target` or `?Target AS Alias`.
3. A keyword phrase anywhere, the forms tried in the order of
   `Kind.byKeyword`: a declaration of the name after it.

A word starts at a boundary: the character before it is no word
character. White space of any amount stands between the words of a
phrase and after it.

Offsets count the characters of the statement before the token.
-/

set_option autoImplicit false

namespace DefIndex

/-- A token of a statement and the number of characters before it. -/
structure Token where
  text : Text
  offset : Nat
deriving DecidableEq, Repr

/-- What a statement says. -/
inductive Statement where
  /-- An import; the path is the token without its quotes. -/
  | imports (token : Token)
  /-- A statement that starts with `?`: the name it declares and the
  definition it inherits, if it names one. -/
  | inherits (found : Option (Token × Text))
  /-- A declaration by keyword. -/
  | declares (kind : Kind) (name : Token)
  /-- Anything else. -/
  | other
deriving DecidableEq, Repr

namespace Statement

/-! ### Words and phrases -/

/-- Skip white space, at least one character of it. -/
def skipBlanks? : Text → Option Text
  | [] => none
  | c :: cs => if Text.isBlank c then some (cs.dropWhile Text.isBlank) else none

/-- Skip the words of a phrase, each with white space after it. -/
def skipPhrase? : List Text → Text → Option Text
  | [], t => some t
  | word :: words, t =>
    ((Text.dropStart? word t).bind skipBlanks?).bind (skipPhrase? words)

/-- What follows the first occurrence of a phrase that starts at a word
boundary; `inWord` tells whether the character before is a word
character. -/
def afterPhrase? (words : List Text) (inWord : Bool) : Text → Option Text
  | [] => none
  | c :: cs =>
    match if inWord then none else skipPhrase? words (c :: cs) with
    | some rest => some rest
    | none => afterPhrase? words (Text.isWord c) cs

/-! ### Imports -/

/-- The marks around a path token that are not part of the path. -/
def isQuote (c : Char) : Bool := ['"', '\'', ';', '\r'].contains c

/-- The path that an import token names. -/
def pathText (token : Text) : Text := Text.trimBy isQuote token

/-- The import of the last token of `rest`, the end of a statement of
`length` characters. A token of nothing but quotes imports nothing. -/
def readImport (length : Nat) (rest : Text) : Statement :=
  let body := Text.trimEnd rest
  let token := Text.takeEndWhile (fun c => !Text.isBlank c) body
  if (pathText token).isEmpty then other
  else imports ⟨token, length - rest.length + (body.length - token.length)⟩

/-! ### Inherit statements -/

/-- Whether a character belongs to a dotted name. -/
def isDotted (c : Char) : Bool := Text.isWord c || c == '.'

/-- The alias after ` AS `, with what follows it, if there is one. -/
def alias? (rest : Text) : Option Text :=
  ((skipBlanks? rest).bind (skipPhrase? ["AS"])).bind fun t =>
    if (t.takeWhile Text.isWord).isEmpty then none else some t

/-- The declaration of an inherit statement whose text after the `?` is
`body`, with `indent` characters before that. Dots at the end of the
target do not belong to it. -/
def readInherit (indent : Nat) (body : Text) : Option (Token × Text) :=
  let target := Text.dropEndWhile (· == '.') (body.takeWhile isDotted)
  if target.isEmpty then none
  else
    match alias? (body.dropWhile isDotted) with
    | some t => some (⟨t.takeWhile Text.isWord, indent + (body.length - t.length)⟩, target)
    | none => some (⟨target, indent⟩, target)

/-! ### Declarations -/

/-- Whether a character is cut off at the end of a declared name. -/
def isNameEnd (c : Char) : Bool := [';', '{', '}', '\r', '\t', '\n'].contains c

/-- The name after a keyword phrase: up to white space or a parenthesis. -/
def nameOf (rest : Text) : Text :=
  Text.dropEndWhile isNameEnd (rest.takeWhile fun c => !Text.isBlank c && c != '(')

/-- The declaration by the first of the forms whose phrase occurs. A
phrase without a name after it declares nothing. -/
def readDeclaration (text : Text) : List Kind → Statement
  | [] => other
  | kind :: kinds =>
    match afterPhrase? kind.words false text with
    | some rest =>
      if (nameOf rest).isEmpty then other
      else declares kind ⟨nameOf rest, text.length - rest.length⟩
    | none => readDeclaration text kinds

/-- What a statement says. -/
def read (text : Text) : Statement :=
  match afterPhrase? ["IMPORT"] false text with
  | some rest => readImport text.length rest
  | none =>
    match Text.trimStart text with
    | '?' :: body => inherits (readInherit (text.length - body.length) body)
    | _ => readDeclaration text Kind.byKeyword

end Statement

end DefIndex
