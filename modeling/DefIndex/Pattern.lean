import DefIndex.Text.Basic

/-!
# `DefIndex.Pattern`: searching full names

A pattern without a star names the end of a full name at a dot: `Price`
finds `Shop.Price` and not `Shop.UnitPrice`. In a pattern with stars each
star stands for any run of characters, and the whole name has to match.
-/

set_option autoImplicit false

namespace DefIndex.Pattern

/-- Match what follows a star: the middle pieces at their first
occurrence, one after the other, and the last piece at the end. -/
def matchRest : List Text → Text → Bool
  | [], rest => rest.isEmpty
  | [last], rest => (Text.dropEnd? last rest).isSome
  | piece :: pieces, rest =>
    match Text.afterFirst? piece rest with
    | some after => matchRest pieces after
    | none => false

/-- Match a name against the pieces between stars. -/
def matchPieces : List Text → Text → Bool
  | [], name => name.isEmpty
  | first :: pieces, name =>
    match Text.dropStart? first name with
    | some rest => matchRest pieces rest
    | none => false

/-- Whether `pattern` is the name or its end after a dot. -/
def matchEnd (pattern name : Text) : Bool :=
  match Text.dropEnd? pattern name with
  | some lead => lead.isEmpty || lead.getLast? == some '.'
  | none => false

/-- Whether a full name matches a pattern. -/
def holds (pattern name : Text) : Bool :=
  if pattern.contains '*' then matchPieces (Text.cut '*' pattern) name
  else matchEnd pattern name

end DefIndex.Pattern
