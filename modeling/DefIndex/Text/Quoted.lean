import DefIndex.Text.Basic
import DefIndex.Text.Nonspacing
import DefIndex.Text.Unassigned

/-!
# `DefIndex.Text.Quoted`: text between quotes

A message shows a text between double quotes. Quotes, backslashes and line
ends in it are written with a backslash, and whatever cannot be seen, or
would be drawn on the character before it, as its code point.
-/

set_option autoImplicit false

namespace DefIndex.Text

/-- The characters besides the nonspacing marks that extend the one before
them. -/
def extendingRanges : List CodeRange :=
  [(0x9BE, 0x9BE), (0x9D7, 0x9D7), (0xB3E, 0xB3E), (0xB57, 0xB57),
   (0xBBE, 0xBBE), (0xBD7, 0xBD7), (0xCC0, 0xCC0), (0xCC2, 0xCC2),
   (0xCC7, 0xCC8), (0xCCA, 0xCCB), (0xCD5, 0xCD6), (0xD3E, 0xD3E),
   (0xD57, 0xD57), (0xDCF, 0xDCF), (0xDDF, 0xDDF), (0x1715, 0x1715),
   (0x1734, 0x1734), (0x1B35, 0x1B35), (0x1B3B, 0x1B3B), (0x1B3D, 0x1B3D),
   (0x1B43, 0x1B44), (0x1BAA, 0x1BAA), (0x1BF2, 0x1BF3), (0x200C, 0x200C),
   (0x302E, 0x302F), (0xA953, 0xA953), (0xA9C0, 0xA9C0), (0xFF9E, 0xFF9F),
   (0x111C0, 0x111C0), (0x11235, 0x11235), (0x1133E, 0x1133E),
   (0x1134D, 0x1134D), (0x11357, 0x11357), (0x113B8, 0x113B8),
   (0x113C2, 0x113C2), (0x113C5, 0x113C5), (0x113C7, 0x113C9),
   (0x113CF, 0x113CF), (0x114B0, 0x114B0), (0x114BD, 0x114BD),
   (0x115AF, 0x115AF), (0x116B6, 0x116B6), (0x11930, 0x11930),
   (0x1193D, 0x1193D), (0x11F41, 0x11F41), (0x16FF0, 0x16FF1),
   (0x1D165, 0x1D166), (0x1D16D, 0x1D172), (0xE0020, 0xE007F)]

/-- Characters that leave nothing to see: controls, formats, blanks,
fillers, the private ones. -/
def hiddenRanges : List CodeRange :=
  [(0x0, 0x1F), (0x7F, 0xA0), (0xAD, 0xAD), (0x600, 0x605), (0x61C, 0x61C),
   (0x6DD, 0x6DD), (0x70F, 0x70F), (0x890, 0x891), (0x8E2, 0x8E2),
   (0x115F, 0x1160), (0x1680, 0x1680), (0x180E, 0x180E), (0x2000, 0x200F),
   (0x2028, 0x202F), (0x205F, 0x2064), (0x2066, 0x206F), (0x3000, 0x3000),
   (0x3164, 0x3164), (0xE000, 0xF8FF), (0xFEFF, 0xFEFF), (0xFFA0, 0xFFA0),
   (0xFFF9, 0xFFFB), (0x110BD, 0x110BD), (0x110CD, 0x110CD),
   (0x13430, 0x1343F), (0x1BCA0, 0x1BCA3), (0x1D173, 0x1D17A),
   (0xE0001, 0xE0001), (0xE0020, 0xE007F), (0xF0000, 0xFFFFD),
   (0x100000, 0x10FFFD)]

/-- Whether a character is drawn together with the one before it. -/
def isExtending (c : Char) : Bool :=
  decide (c.toNat ≥ 0x300) && (inRanges nonspacingRanges c || inRanges extendingRanges c)

/-- Whether a character can be seen when it stands alone. -/
def isVisible (c : Char) : Bool :=
  if 0x20 ≤ c.toNat ∧ c.toNat < 0x7F then true
  else !(inRanges hiddenRanges c || inRanges unassignedRanges c)

/-- A character between quotes. -/
def quotedChar (c : Char) : Text :=
  if c = '\x00' then "\\0"
  else if c = '\t' then "\\t"
  else if c = '\n' then "\\n"
  else if c = '\r' then "\\r"
  else if c = '"' then "\\\""
  else if c = '\\' then "\\\\"
  else if !isExtending c && isVisible c then [c]
  else "\\u\x7b" ++ Nat.toDigits 16 c.toNat ++ "\x7d"

/-- A text between quotes. -/
def quoted (t : Text) : Text := '"' :: t.flatMap quotedChar ++ ['"']

end DefIndex.Text
