import DefIndex.Toml.Number

/-!
# `DefIndex.Toml.Moment`: dates and times of settings files

A date, a time of day, or both with an offset from universal time. The
parts have to exist: no month 13, no 30th of February, no hour 24. A
minute may have a 61st second.
-/

set_option autoImplicit false

namespace DefIndex.Toml

/-- Whether a text follows a picture: `0` stands for a digit, every other
character for itself. -/
def fits : (picture : Text) → Text → Bool
  | [], t => t.isEmpty
  | '0' :: ps, c :: cs => c.isDigit && fits ps cs
  | p :: ps, c :: cs => p == c && fits ps cs
  | _ :: _, [] => false

/-- The number that the digits from a place on stand for. -/
def numberAt (start length : Nat) (t : Text) : Nat := inBase 10 ((t.drop start).take length)

/-- Whether a year has a 29th of February. -/
def isLeapYear (year : Nat) : Bool :=
  year % 4 == 0 && (year % 100 != 0 || year % 400 == 0)

/-- How many days a month has. -/
def daysIn (year month : Nat) : Nat :=
  if month = 2 then if isLeapYear year then 29 else 28
  else if [4, 6, 9, 11].contains month then 30
  else 31

/-- Whether a text is a day of the calendar. -/
def isDay (t : Text) : Bool :=
  let year := numberAt 0 4 t
  let month := numberAt 5 2 t
  let day := numberAt 8 2 t
  fits "0000-00-00" t && decide (1 ≤ month ∧ month ≤ 12)
    && decide (1 ≤ day ∧ day ≤ daysIn year month)

/-- Whether a text is an hour and a minute. -/
def isHourMinute (t : Text) : Bool :=
  fits "00:00" t && decide (numberAt 0 2 t ≤ 23) && decide (numberAt 3 2 t ≤ 59)

/-- Whether a text is an offset from universal time, or empty. -/
def isOffset : Text → Bool
  | [] => true
  | ['Z'] => true
  | ['z'] => true
  | '+' :: t => isHourMinute t
  | '-' :: t => isHourMinute t
  | _ => false

/-- Whether a text is a time of day, with an offset if `zoned`. -/
def isTime (zoned : Bool) (t : Text) : Bool :=
  let rest := t.drop 8
  let afterFraction :=
    match rest with
    | '.' :: c :: more => if c.isDigit then more.dropWhile Char.isDigit else rest
    | _ => rest
  isHourMinute (t.take 5) && fits ":00" ((t.drop 5).take 3) && decide (numberAt 6 2 t ≤ 60)
    && (if zoned then isOffset afterFraction else afterFraction.isEmpty)

/-- Whether a text is a date, a time, or both. -/
def isDate (t : Text) : Bool :=
  isTime false t
    || (isDay (t.take 10)
      && (match t.drop 10 with
        | [] => true
        | c :: time => (c == 'T' || c == 't' || c == ' ') && isTime true time))

end DefIndex.Toml
