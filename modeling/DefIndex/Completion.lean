import DefIndex.Reference

/-!
# `DefIndex.Completion`: what may be typed next, and loose search

Everything up to the last dot of the typed text names a definition, and
the candidates are the definitions below it; without a dot they are the
definitions at the top. Keywords depend on the innermost declaration
around the cursor: constructors, tags and links each take a narrower
set.
-/

set_option autoImplicit false

namespace DefIndex

/-! ### Keywords -/

namespace Keyword

/-- Words written as string literals. -/
def spell (words : List String) : List Text := words.map String.toList

/-- Every keyword of the language. -/
def all : List Text := spell
  ["CONSTRUCTOR", "CHARACTER", "BASE", "INT", "ADD", "CREATE", "IMPORT",
   "General", "Decorator", "DefaultItem", "CastItem", "ParallelDecorator",
   "Generator", "LIST", "None", "AS", "GeneralStrict", "Reference",
   "BreakItem", "DecoratorItem", "Optional", "OptionalGroup", "Input",
   "Output", "BreakPersist", "StopItem", "ListDelimiter", "ListItem",
   "ContainItem", "Rule", "Condition", "Display", "Remove", "Inherit",
   "TAG", "LINK", "PYLINK", "GRID", "DisplayItem", "PROPERTY"]

/-- The keywords that make sense inside a constructor. -/
def inConstructor : List Text := spell
  ["CREATE", "GRID", "BASE", "LIST", "General", "Optional", "ListItem",
   "ListDelimiter", "DisplayItem", "AS"]

/-- The keywords that make sense inside a tag. -/
def inTag : List Text := spell ["AS", "CREATE", "TAG"]

/-- The keywords that make sense inside a link. -/
def inLink : List Text := spell ["AS", "CREATE", "ADD", "LINK"]

/-- The keywords that make sense inside a declaration of a form, or
outside every declaration. -/
def within : Option Kind → List Text
  | some .constructor => inConstructor
  | some .tag => inTag
  | some .link => inLink
  | _ => all

end Keyword

/-- The form of the innermost declaration open at the end of a text. A
declaration that still waits for its block counts as open. -/
def enclosingKind (file : Path) (lead : Text) : Option Kind :=
  let outline := Outline.read file lead
  (outline.pending.or outline.openScopes.getLast?).bind fun ix =>
    outline.declarations[ix]?.map Declaration.kind

/-! ### Candidates -/

/-- What a candidate stands for. -/
inductive CandidateKind where
  | definition (kind : Kind)
  | keyword
deriving DecidableEq, Repr

/-- Something that may be typed next. -/
structure Candidate where
  label : Text
  kind : CandidateKind
  /-- The full name of a definition. -/
  detail : Option Text
deriving DecidableEq, Repr

namespace Candidate

/-- A definition as a candidate. -/
def ofDefinition (d : Definition) : Candidate :=
  ⟨d.name, .definition d.kind, some d.fullName⟩

/-- A keyword as a candidate. -/
def ofKeyword (word : Text) : Candidate := ⟨word, .keyword, none⟩

end Candidate

namespace Completion

/-- Drop one mark of a reference at the start. -/
def dropSigil : Text → Text
  | '?' :: rest => rest
  | t => t

/-- The name before the last dot of the typed text, if it has a dot. -/
def owner? (typed : Text) : Option Text :=
  match (Text.cut '.' typed).dropLast with
  | [] => none
  | first :: rest => some (Text.join ['.'] (dropSigil first :: rest))

/-- The definitions that may follow the typed text, of several with one
name the first. -/
def members (t : Table) (typed : Text) : List Candidate :=
  let definitions :=
    match owner? typed with
    | none => t.roots
    | some owner => t.children owner
  (firstPerKey Definition.name definitions).map Candidate.ofDefinition

/-- The keywords for a cursor at the end of a text. -/
def keywords (file : Path) (lead : Text) : List Candidate :=
  (Keyword.within (enclosingKind file lead)).map Candidate.ofKeyword

/-- Whether typed text asks for definitions and not for keywords. -/
def wantsDefinitions (typed : Text) : Bool :=
  typed.head? == some sigil || typed.contains '.'

/-- The candidates for a cursor at the end of a document's text. -/
def atEnd (t : Table) (file : Path) (lead : Text) : List Candidate :=
  let typed := Word.typed (Text.takeEndWhile (· != '\n') lead)
  if wantsDefinitions typed then members t typed
  else keywords file lead ++ members t []

end Completion

/-! ### Loose search -/

/-- A definition by loose input: the first whose name equals it ignoring
case, else the first whose full name contains it ignoring case. -/
def Table.searchNode (t : Table) (input : Text) : Option Definition :=
  let needle := Text.toUpper (dropSigils (Text.trim input))
  if needle.isEmpty then none
  else
    (t.definitions.find? fun d => Text.toUpper d.name = needle).or
      (t.definitions.find? fun d => Text.holds needle (Text.toUpper d.fullName))

end DefIndex
