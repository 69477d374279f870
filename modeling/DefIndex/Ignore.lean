import DefIndex.Glob
import DefIndex.Text.CharClass

/-!
# `DefIndex.Ignore`: ignore files

A line of an ignore file is a rule: a glob with an optional `!` in front,
which takes entries back in, and an optional `/` at the end, which limits
it to folders. A glob without a `/` in the middle or at the start fits a
name at any depth; every other glob is tied to the folder of the file.
Empty lines, lines that start with `#` and lines whose glob is invalid say
nothing. Of several rules that fit an entry the last one decides.
-/

set_option autoImplicit false

namespace DefIndex

/-- A rule of an ignore file. -/
structure IgnoreRule where
  /-- Whether the rule takes entries back in. -/
  takesBack : Bool
  foldersOnly : Bool
  glob : Glob
deriving DecidableEq, Repr

/-- What a list of rules says about an entry. -/
inductive Verdict where
  | silent
  | ignored
  | kept
deriving DecidableEq, Repr

/-- The first verdict that says something. -/
def Verdict.or : Verdict → Verdict → Verdict
  | silent, v => v
  | v, _ => v

namespace Ignore

/-! ### Rules -/

/-- Read a line of an ignore file. A lenient reader takes the bracket of a
class that is never closed as it stands. -/
def rule? (lenient : Bool) (line : Text) : Option IgnoreRule :=
  let line := if (Text.dropEnd? "\\ " line).isSome then line else Text.trimEnd line
  match line with
  | [] => none
  | '#' :: _ => none
  | _ =>
    let (takesBack, anchored, body) :=
      match line with
      | '\\' :: '!' :: rest => (false, false, '!' :: rest)
      | '\\' :: '#' :: rest => (false, false, '#' :: rest)
      | '!' :: '/' :: rest => (true, true, rest)
      | '!' :: rest => (true, false, rest)
      | '/' :: rest => (false, true, rest)
      | rest => (false, false, rest)
    -- A separator at the end is no part of the glob.
    let (foldersOnly, body) :=
      match Text.dropEnd? ['/'] body with
      | some body => (true, (Text.dropEnd? ['\\'] body).getD body)
      | none => (false, body)
    -- Without a separator the glob fits a name in any folder below.
    let anywhere := !anchored && !body.contains '/'
    let body :=
      if anywhere && !(body == "**" || (Text.dropStart? "**/" body).isSome) then "**/" ++ body
      else body
    -- Everything below a folder does not include the folder.
    let body := if (Text.dropEnd? "/**" body).isSome then body ++ "/*" else body
    (Glob.parse? lenient body).map (⟨takesBack, foldersOnly, ·⟩)

/-- A line without the byte order marks at its start. -/
def dropByteOrderMarks (line : Text) : Text := line.dropWhile (· == '\uFEFF')

/-- The rules of an ignore file with these lines. Byte order marks at its
start do not count. -/
def rules : (lines : List Text) → List IgnoreRule
  | [] => []
  | first :: lines => (dropByteOrderMarks first :: lines).filterMap (rule? true)

/-- What rules say about the entry of a path relative to their folder, given
by its bytes. -/
def judge (rules : List IgnoreRule) (isFolder : Bool) (relative : List UInt8) : Verdict :=
  match rules.reverse.find? fun r => (isFolder || !r.foldersOnly) && r.glob.fits relative with
  | some r => if r.takesBack then .kept else .ignored
  | none => .silent

end Ignore

end DefIndex
