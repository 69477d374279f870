import DefIndex.Text.Basic

/-!
# `DefIndex.Kind`: the forms of declarations

Seven forms are introduced by a keyword phrase and may own a block; an
inherit statement names another definition and never owns one.
-/

set_option autoImplicit false

namespace DefIndex

/-- The form that introduced a definition. -/
inductive Kind where
  | tag
  | int
  | base
  | grid
  | list
  | link
  | constructor
  | inherit
deriving DecidableEq, Repr

namespace Kind

/-- Whether a brace after the declaration opens a block that it owns. -/
def opensScope : Kind → Bool
  | inherit => false
  | _ => true

/-- The words that introduce a declaration by keyword, with the second
word of the phrase telling the forms apart. -/
def words : Kind → List Text
  | tag => ["CREATE", "TAG"]
  | int => ["CREATE", "INT"]
  | base => ["CREATE", "BASE"]
  | grid => ["CREATE", "GRID"]
  | list => ["CREATE", "LIST"]
  | link => ["CREATE", "LINK"]
  | constructor => ["ADD", "CONSTRUCTOR"]
  | inherit => ["?"]

/-- The phrase as written in source. -/
def phrase (k : Kind) : Text := Text.join [' '] k.words

/-- The name of a form in answers. -/
def label : Kind → Text
  | tag => "Tag"
  | int => "Int"
  | base => "Base"
  | grid => "Grid"
  | list => "List"
  | link => "Link"
  | constructor => "Constructor"
  | inherit => "Inherit"

/-- The forms introduced by keywords, in the order they are tried. -/
def byKeyword : List Kind := [tag, int, base, grid, list, link, constructor]

/-- Exactly the forms introduced by keywords own blocks. -/
theorem mem_byKeyword_iff (k : Kind) : k ∈ byKeyword ↔ k.opensScope = true := by
  cases k <;> decide

end Kind

/-- A name under a context, with a dot between unless the context is
empty. -/
def qualify (context name : Text) : Text :=
  if context.isEmpty then name else context ++ '.' :: name

end DefIndex
