import DefIndex.Toml.Quoted

/-!
# `DefIndex.Toml.Number`: numbers of settings files

Whole numbers in four bases, with underscores between digits, and
numbers with a fraction or an exponent. Of the latter it only matters
whether they are numbers at all, which they are not if they round to
infinity.
-/

set_option autoImplicit false

namespace DefIndex.Toml

/-! ### Whole numbers -/

/-- Whether digits of a class are written with single underscores between
them. -/
def groupedDigits (isDigit : Char → Bool) (t : Text) : Bool :=
  (Text.cut '_' t).all fun piece => !piece.isEmpty && piece.all isDigit

/-- Digits without their underscores. -/
def ungrouped (t : Text) : Text := t.filter (· != '_')

/-- Whether decimal digits start with a zero that does not stand alone. -/
def hasLeadingZero (t : Text) : Bool :=
  match t with
  | '0' :: _ :: _ => true
  | _ => false

/-- The number of digits in a base. -/
def inBase (base : Nat) (t : Text) : Nat :=
  (ungrouped t).foldl (fun n c => base * n + (hexDigit? c).getD 0) 0

/-- Digits after their base mark. -/
def based? (base : Nat) (isDigit : Char → Bool) (t : Text) : Option Int :=
  if groupedDigits isDigit t then some (inBase base t) else none

/-- Drop a sign; the flag tells whether it was a minus. -/
def unsign : Text → Bool × Text
  | '+' :: rest => (false, rest)
  | '-' :: rest => (true, rest)
  | t => (false, t)

/-- A whole number that fits into 64 bits with a sign. -/
def integer? (t : Text) : Option Int :=
  let found : Option Int :=
    match t with
    | '0' :: 'x' :: rest => based? 16 (fun c => (hexDigit? c).isSome) rest
    | '0' :: 'o' :: rest => based? 8 (fun c => c.isDigit && decide (c < '8')) rest
    | '0' :: 'b' :: rest => based? 2 (fun c => c == '0' || c == '1') rest
    | t =>
      let (negative, ds) := unsign t
      if groupedDigits Char.isDigit ds && !hasLeadingZero ds then
        some (if negative then -(inBase 10 ds : Int) else inBase 10 ds)
      else none
  found.bind fun n => if Int64.minValue.toInt ≤ n ∧ n ≤ Int64.maxValue.toInt then some n else none

/-! ### Fractions -/

/-- A number with a fraction or an exponent: its digits without the point,
and the power of ten that they are multiplied with. -/
structure Scientific where
  digits : Text
  exponent : Int
deriving DecidableEq, Repr

namespace Scientific

/-- The least number that rounds to infinity in 64 bits: half a step above
the greatest number, which is `2 ^ 53 - 1` times `2 ^ 971`. -/
def infinite : Nat := (Nat.pow 2 54 - 1) * Nat.pow 2 970

/-- How many digits `infinite` has. -/
def infiniteLength : Nat := 309

/-- Whether a number rounds to infinity. Its length decides unless it is
that of the bound. -/
def overflows (s : Scientific) : Bool :=
  let digits := s.digits.dropWhile (· == '0')
  let length : Int := digits.length + s.exponent
  if digits.isEmpty then false
  else if length < infiniteLength then false
  else if length > infiniteLength then true
  else
    match s.exponent with
    | .ofNat n => decide (infinite ≤ inBase 10 digits * Nat.pow 10 n)
    | .negSucc n => decide (infinite * Nat.pow 10 (n + 1) ≤ inBase 10 digits)

end Scientific

/-- A fraction or an exponential number without its sign. -/
def scientific? (t : Text) : Option Scientific :=
  let isMark (c : Char) : Bool := c == 'e' || c == 'E'
  let mantissa := t.takeWhile fun c => !isMark c
  let exponent := t.dropWhile fun c => !isMark c
  let whole := mantissa.takeWhile (· != '.')
  let fraction := mantissa.dropWhile (· != '.')
  let (negative, power) := unsign (exponent.drop 1)
  if groupedDigits Char.isDigit whole && !hasLeadingZero whole
      && (fraction.isEmpty || groupedDigits Char.isDigit (fraction.drop 1))
      && (exponent.isEmpty || groupedDigits Char.isDigit power)
      && (!fraction.isEmpty || !exponent.isEmpty) then
    let places := ungrouped (fraction.drop 1)
    let shift : Int := if negative then -(inBase 10 power : Int) else inBase 10 power
    some ⟨ungrouped whole ++ places, shift - places.length⟩
  else none

/-- Whether a text is a fraction, an exponential number, or infinite or not
a number. A number too great for 64 bits counts only if it is negative. -/
def isFloat (t : Text) : Bool :=
  let (negative, body) := unsign t
  if body = "inf" ∨ body = "nan" then true
  else
    match scientific? body with
    | some s => negative || !s.overflows
    | none => false

end DefIndex.Toml
