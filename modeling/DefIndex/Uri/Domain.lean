import DefIndex.Text.Joining
import DefIndex.Uri.Domain.Direction
import DefIndex.Uri.Domain.Joiner
import DefIndex.Uri.Domain.Mapping
import DefIndex.Uri.Punycode

/-!
# `DefIndex.Uri.Domain`: domain names in ASCII

A domain is a list of labels with dots between them. Each character is
replaced by the usual one, each label is brought into composed form, and a
label that is not ASCII is written after the mark `xn--`. A label that
carries the mark already must stand for one that could have been written
that way.

`Domain.toAscii?` gives the ASCII form of a domain, or nothing if a label
holds what a domain may not hold.
-/

set_option autoImplicit false

namespace DefIndex.Uri.Domain

open Text

/-- Whether a character is ASCII. -/
def isAscii (c : Char) : Bool := decide (c.toNat < 0x80)

/-- The characters of ASCII that no domain holds. -/
def isDenied (c : Char) : Bool :=
  decide (c.toNat ≤ 0x20) || c.toNat == 0x7F
    || ['%', '#', '/', ':', '<', '>', '?', '@', '[', '\\', ']', '^', '|'].contains c

/-- A label: what it is written as in ASCII if that is known already, and
the characters that it stands for. -/
structure Label where
  written? : Option Text
  shown : Text
deriving DecidableEq, Repr

/-- The label that a text with the mark `xn--` stands for, given what
follows the mark. It must need the mark and be in the form that reading
gives. -/
def marked? (body : Text) : Option Text :=
  if body.getLast? = some '-' ∨ body.length > 2000 ∨ !body.all isAscii then none
  else
    (Punycode.decode? body).filter fun shown =>
      !shown.all isAscii
        && (shown.all fun c => mapChar? c == some [c])
        && compose shown == shown

/-- Read a label whose characters have been replaced. -/
def Label.ofText? (t : Text) : Option Label :=
  match Text.dropStart? "xn--" t with
  | some body => (marked? body).map fun shown => ⟨some t, shown⟩
  | none => some ⟨none, t⟩

/-- Whether a label holds only what it may hold, whatever stands beside
it. -/
def Label.isSound (l : Label) : Bool :=
  let startsWithMark := match l.shown with
    | [] => false
    | c :: _ => inRanges markRanges c
  !startsWithMark
    && !l.shown.any isDenied
    && joinersFit [] l.shown
    && (l.shown.all isAscii || decide (l.shown.length ≤ 1000))

/-- The ASCII form of a label. -/
def Label.render (l : Label) : Text := l.written?.getD (Punycode.encode l.shown)

/-- The ASCII form of a domain. If a character of it turns the direction of
reading, every label must read one way. -/
def toAscii? (domain : Text) : Option Text := do
  let replaced := compose (← domain.mapM mapChar?).flatten
  let labels ← (Text.cut '.' replaced).mapM Label.ofText?
  let directions := labels.map fun l => l.shown.map Direction.ofChar
  let turning := directions.any fun ds => ds.any Direction.isTurning
  if labels.all Label.isSound && (!turning || directions.all readsOneWay) then
    some (Text.join ['.'] (labels.map Label.render))
  else none

end DefIndex.Uri.Domain
