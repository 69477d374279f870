import DefIndex.Text.Alphabetic
import DefIndex.Text.Basic
import DefIndex.Text.Joining
import DefIndex.Text.Numeric
import DefIndex.Text.Recent

/-!
# `DefIndex.Text.CharClass`: blanks, alphanumerics and word characters

Three classes decide where names, terms and words end.

* `isBlank`: the property `White_Space`.
* `isAlphanumeric`: letters and numbers of every kind.
* `isWord`: what a keyword boundary looks at: letters, marks, decimal
  digits, connectors and joiners. A fraction or a superscript is
  alphanumeric and not a word character; a combining mark is a word
  character and need not be alphanumeric. The newest letters, marks and
  digits of the standard are not word characters yet.

ASCII is decided by core's classes, the rest by the tables.
-/

set_option autoImplicit false

namespace DefIndex.Text

/-- The ranges of the property `White_Space`. -/
def blankRanges : List CodeRange :=
  [(0x9, 0xD), (0x20, 0x20), (0x85, 0x85), (0xA0, 0xA0), (0x1680, 0x1680),
   (0x2000, 0x200A), (0x2028, 0x2029), (0x202F, 0x202F), (0x205F, 0x205F),
   (0x3000, 0x3000)]

/-- Whether a character is white space. -/
def isBlank (c : Char) : Bool := inRanges blankRanges c

/-- Whether a character is a letter or a number. -/
def isAlphanumeric (c : Char) : Bool :=
  c.isAlphanum || inRanges alphabeticRanges c || inRanges decimalRanges c
    || inRanges numberRanges c

/-- Whether a character belongs to a word, for a word boundary. -/
def isWord (c : Char) : Bool :=
  c.isAlphanum || c == '_'
    || ((inRanges alphabeticRanges c || inRanges decimalRanges c || inRanges markRanges c
        || inRanges connectorRanges c || inRanges joinControlRanges c)
      && !inRanges recentRanges c)

/-- Drop the white space at the start. -/
def trimStart (t : Text) : Text := t.dropWhile isBlank

/-- Drop the white space at the end. -/
def trimEnd (t : Text) : Text := dropEndWhile isBlank t

/-- Drop the white space at both ends. -/
def trim (t : Text) : Text := trimBy isBlank t

/-- Whether a text holds nothing but white space. -/
def allBlank (t : Text) : Bool := t.all isBlank

end DefIndex.Text
