import DefIndex.Text.Basic
import DefIndex.Text.CaseRun
import DefIndex.Text.Cased

/-!
# `DefIndex.Text.Case`: upper and lower case

The full case mappings: one character may become several (`ß` becomes
`SS`). The only mapping that looks at its surroundings is the lower case
of a capital sigma, which is final at the end of a word: some cased
character comes before it and none after it, case-ignorable characters
not counted.
-/

set_option autoImplicit false

namespace DefIndex.Text

/-- The image of a character under a table of runs and expansions, the
character itself if neither mentions it. -/
def mapCase (runs : List CaseRun) (expansions : List (Nat × List Nat))
    (c : Char) : Text :=
  match expansions.lookup c.toNat with
  | some codes => codes.map Char.ofNat
  | none =>
    match runs.findSome? (CaseRun.image? · c.toNat) with
    | some code => [Char.ofNat code]
    | none => [c]

/-- The upper-case form of a character. -/
def upperChar (c : Char) : Text :=
  if c.toNat < 0x80 then [c.toUpper] else mapCase upperRuns upperExpansions c

/-- The lower-case form of a character that stands alone. -/
def lowerChar (c : Char) : Text :=
  if c.toNat < 0x80 then [c.toLower] else mapCase lowerRuns lowerExpansions c

/-- The upper-case form of a text, character by character. -/
def toUpper (t : Text) : Text := t.flatMap upperChar

/-- Whether a character has the property `Cased`. -/
def isCased (c : Char) : Bool := c.isAlpha || inRanges casedRanges c

/-- Whether a character is transparent to the end of a word: the
property `Case_Ignorable`. -/
def isCaseIgnorable (c : Char) : Bool :=
  ['\'', '.', ':', '^', '\x60'].contains c || inRanges caseIgnorableRanges c

/-- Whether the first character that is not case-ignorable is cased. -/
def meetsCased (t : Text) : Bool :=
  match t.dropWhile isCaseIgnorable with
  | [] => false
  | c :: _ => isCased c

/-- Lower case of a text whose characters before it are `seen`, nearest
first. -/
def lowerAfter (seen : Text) : Text → Text
  | [] => []
  | c :: cs =>
    let image :=
      if c = 'Σ' then
        if meetsCased seen && !meetsCased cs then ['ς'] else ['σ']
      else lowerChar c
    image ++ lowerAfter (c :: seen) cs

/-- The lower-case form of a text. -/
def toLower (t : Text) : Text := lowerAfter [] t

end DefIndex.Text
