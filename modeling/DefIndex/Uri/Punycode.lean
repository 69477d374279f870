import DefIndex.Text.Basic

/-!
# `DefIndex.Uri.Punycode`: labels of a domain in ASCII

A label with characters outside ASCII is written as its ASCII characters
and, after a dash, the steps that put the other characters in, lowest code
point first. A step is a number in a variable base: each digit has a
threshold, and a digit below its threshold is the last. The thresholds
adapt to the steps before.

* `Punycode.encode` writes a label in ASCII.
* `Punycode.decode?` reads what follows the mark of such a label. Numbers
  that need more than 32 bits are refused.
-/

set_option autoImplicit false

namespace DefIndex.Uri.Punycode

/-- The digit of a number below 36: the letters, then the figures. -/
def digit (n : Nat) : Char :=
  if n < 26 then Char.ofNat ('a'.toNat + n) else Char.ofNat ('0'.toNat + (n - 26))

/-- The threshold of the digit that has `k / 36 - 1` digits before it. -/
def threshold (k bias : Nat) : Nat := min 26 (max 1 (k - bias))

/-- Shrink a step until it is small; `k` grows with every division. -/
def shrink : (budget k delta : Nat) → Nat × Nat
  | 0, k, delta => (k, delta)
  | budget + 1, k, delta =>
    if delta > 455 then shrink budget (k + 36) (delta / 35) else (k, delta)

/-- The bias after a step, given how many characters are in place. -/
def adapt (delta count : Nat) (first : Bool) : Nat :=
  let delta := if first then delta / 700 else delta / 2
  let delta := delta + delta / count
  let (k, delta) := shrink delta 0 delta
  k + 36 * delta / (delta + 38)

/-- A step in digits. -/
def stepDigits (bias : Nat) : (budget k q : Nat) → Text
  | 0, _, _ => []
  | budget + 1, k, q =>
    let t := threshold k bias
    if q < t then [digit q]
    else digit (t + (q - t) % (36 - t)) :: stepDigits bias budget (k + 36) ((q - t) / (36 - t))

/-- A label while its characters are put in. -/
structure Progress where
  /-- The step so far. -/
  delta : Nat
  bias : Nat
  /-- How many characters are in place. -/
  count : Nat
  first : Bool
  written : Text

/-- Pass a character of the label on the way to the code point `point`: a
lower one is in place, and an equal one is put in. -/
def Progress.pass (point : Nat) (p : Progress) (c : Char) : Progress :=
  if c.toNat < point then { p with delta := p.delta + 1 }
  else if c.toNat = point then
    { delta := 0
      bias := adapt p.delta (p.count + 1) p.first
      count := p.count + 1
      first := false
      written := p.written ++ stepDigits p.bias (p.delta + 1) 36 p.delta }
  else p

/-- Put in the characters of each code point in turn; `low` is the least
that may come next. -/
def putIn (label : Text) : (low : Nat) → Progress → List Nat → Text
  | _, p, [] => p.written
  | low, p, point :: points =>
    let p := { p with delta := p.delta + (point - low) * (p.count + 1) }
    let p := label.foldl (Progress.pass point) p
    putIn label (point + 1) { p with delta := p.delta + 1 } points

/-- Insert a number into an ascending list, once. -/
def insertOnce (n : Nat) : List Nat → List Nat
  | [] => [n]
  | m :: ms => if n < m then n :: m :: ms else if n = m then m :: ms else m :: insertOnce n ms

/-- A label in ASCII, after its mark `xn--` if it needs one. -/
def encode (label : Text) : Text :=
  let plain := label.filter fun c => decide (c.toNat < 0x80)
  if plain.length = label.length then label
  else
    let points := (label.filter fun c => decide (c.toNat ≥ 0x80)).foldl
      (fun points c => insertOnce c.toNat points) []
    let lead := if plain.isEmpty then [] else plain ++ ['-']
    "xn--" ++ putIn label 0x80 ⟨0, 72, plain.length, true, lead⟩ points

/-! ### Reading -/

/-- The value of a digit of either case. -/
def digitValue? (c : Char) : Option Nat :=
  if 'a' ≤ c ∧ c ≤ 'z' then some (c.toNat - 'a'.toNat)
  else if 'A' ≤ c ∧ c ≤ 'Z' then some (c.toNat - 'A'.toNat)
  else if c.isDigit then some (c.toNat - '0'.toNat + 26)
  else none

/-- A number if 32 bits hold it. -/
def word? (n : Nat) : Option Nat := if n < UInt32.size then some n else none

/-- A label while it is read. -/
structure Reading where
  /-- The least code point that may come next. -/
  point : Nat
  bias : Nat
  /-- Where the last character was put in. -/
  place : Nat
  /-- The step so far, on top of `place`. -/
  sum : Nat
  weight : Nat
  /-- The place of the next digit, times 36. -/
  k : Nat
  first : Bool
  label : Text

/-- Put the character that a whole step leads to into a label. -/
def Reading.put? (r : Reading) : Option Reading := do
  let count := r.label.length + 1
  let point ← word? (r.point + r.sum / count)
  if 0xD800 ≤ point ∧ point < 0xE000 ∨ 0x10FFFF < point then none
  else
    let place := r.sum % count
    some
      { point := point
        bias := adapt (r.sum - r.place) count r.first
        place := place + 1
        sum := place + 1
        weight := 1
        k := 36
        first := false
        label := r.label.take place ++ Char.ofNat point :: r.label.drop place }

/-- Read steps; a step must not break off. -/
def readSteps? (r : Reading) : Text → Option Text
  | [] => if r.k = 36 then some r.label else none
  | c :: rest => do
    let d ← digitValue? c
    let sum ← word? (r.sum + (← word? (d * r.weight)))
    let t := threshold r.k r.bias
    if d < t then readSteps? (← { r with sum := sum }.put?) rest
    else
      let weight ← word? (r.weight * (36 - t))
      readSteps? { r with sum := sum, weight := weight, k := r.k + 36 } rest

/-- The label that a text in ASCII stands for. What is before the last dash
stands for itself; a dash at the start belongs to the steps. -/
def decode? (t : Text) : Option Text :=
  let steps := Text.takeEndWhile (· != '-') t
  let plain := (t.take (t.length - steps.length)).dropLast
  let start (plain : Text) : Reading := ⟨0x80, 72, 0, 0, 1, 36, true, plain⟩
  if plain.isEmpty then readSteps? (start []) t else readSteps? (start plain) steps

end DefIndex.Uri.Punycode
