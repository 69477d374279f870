import DefIndex.Text.Basic

/-!
# `DefIndex.Text.Utf8`: text as bytes

Files, paths and identifiers come as bytes, which are text if they are
UTF-8. A decoder reads one byte at a time: between characters it takes a
first byte, inside a character it wants a byte of a certain range.

* `Text.utf8` writes a text.
* `Text.decodeUtf8` reads bytes; a stretch that starts no character, or
  that breaks off inside one, gives a gap.
* `Text.ofUtf8?` reads bytes without a gap; `Text.ofUtf8Lossy` shows each
  gap as the replacement character.
* `Text.ofUtf8?_utf8`: the bytes of a text are read as this text.
-/

set_option autoImplicit false

namespace DefIndex.Text

/-- The bytes of a text. -/
def utf8 (t : Text) : List UInt8 := t.flatMap String.utf8EncodeChar

/-- A character of which some bytes have been read. -/
structure Utf8Head where
  /-- The bits read so far, as a number. -/
  bits : Nat
  /-- The least and the greatest byte that may come next. -/
  low : Nat
  high : Nat
  /-- How many bytes come after the next one. -/
  more : Nat
deriving DecidableEq, Repr

namespace Utf8Head

/-- The head that a first byte of several opens. The narrower ranges keep
out forms that are too long, surrogates and numbers above the last code
point. -/
def ofByte? (b : Nat) : Option Utf8Head :=
  if 0xC2 ≤ b ∧ b ≤ 0xDF then some ⟨b - 0xC0, 0x80, 0xBF, 0⟩
  else if b = 0xE0 then some ⟨0, 0xA0, 0xBF, 1⟩
  else if b = 0xED then some ⟨0xD, 0x80, 0x9F, 1⟩
  else if 0xE1 ≤ b ∧ b ≤ 0xEF then some ⟨b - 0xE0, 0x80, 0xBF, 1⟩
  else if b = 0xF0 then some ⟨0, 0x90, 0xBF, 2⟩
  else if 0xF1 ≤ b ∧ b ≤ 0xF3 then some ⟨b - 0xF0, 0x80, 0xBF, 2⟩
  else if b = 0xF4 then some ⟨4, 0x80, 0x8F, 2⟩
  else none

/-- Whether a byte may come next. -/
def takes (h : Utf8Head) (b : Nat) : Bool := decide (h.low ≤ b) && decide (b ≤ h.high)

/-- The bits with those of a further byte. -/
def bitsWith (h : Utf8Head) (b : Nat) : Nat := h.bits * 64 + (b - 0x80)

end Utf8Head

/-- Read bytes, after the head of a character if there is one. A byte that
cannot continue the head leaves a gap and starts anew. -/
def decodeUtf8From : (head : Option Utf8Head) → List UInt8 → List (Option Char)
  | none, [] => []
  | some _, [] => [none]
  | head, byte :: rest =>
    let b := byte.toNat
    let fresh :=
      if b < 0x80 then some (Char.ofNat b) :: decodeUtf8From none rest
      else
        match Utf8Head.ofByte? b with
        | some h => decodeUtf8From (some h) rest
        | none => none :: decodeUtf8From none rest
    match head with
    | none => fresh
    | some h =>
      if h.takes b then
        match h.more with
        | 0 => some (Char.ofNat (h.bitsWith b)) :: decodeUtf8From none rest
        | more + 1 => decodeUtf8From (some ⟨h.bitsWith b, 0x80, 0xBF, more⟩) rest
      else none :: fresh

/-- The characters of bytes, with a gap for each stretch that is no
character. -/
def decodeUtf8 (bytes : List UInt8) : List (Option Char) := decodeUtf8From none bytes

/-- Bytes as text, if they are text. -/
def ofUtf8? (bytes : List UInt8) : Option Text := (decodeUtf8 bytes).mapM id

/-- Bytes as text, each gap as the replacement character. -/
def ofUtf8Lossy (bytes : List UInt8) : Text :=
  (decodeUtf8 bytes).map fun c => c.getD '\uFFFD'

/-! ### Reading back what was written -/

namespace Utf8Head

/-- The first of three bytes opens a head that takes the second. -/
theorem exists_ofByte?_three {n : Nat} (hlow : 0x7FF < n) (hhigh : n ≤ 0xFFFF)
    (hvalid : n.isValidChar) :
    ∃ low high, ofByte? (n / 4096 + 0xE0) = some ⟨n / 4096, low, high, 1⟩ ∧
      low ≤ n / 64 % 64 + 0x80 ∧ n / 64 % 64 + 0x80 ≤ high := by
  rw [Nat.isValidChar] at hvalid
  by_cases hfirst : n / 4096 = 0
  · exact ⟨0xA0, 0xBF, by simp [ofByte?, hfirst], by omega, by omega⟩
  by_cases hsurrogate : n / 4096 = 0xD
  · exact ⟨0x80, 0x9F, by simp [ofByte?, hsurrogate], by omega, by omega⟩
  · refine ⟨0x80, 0xBF, ?_, by omega, by omega⟩
    rw [ofByte?, if_neg (by omega), if_neg (by omega), if_neg (by omega), if_pos (by omega),
      Nat.add_sub_cancel]

/-- The first of four bytes opens a head that takes the second. -/
theorem exists_ofByte?_four {n : Nat} (hlow : 0xFFFF < n) (hhigh : n < 0x110000) :
    ∃ low high, ofByte? (n / 262144 + 0xF0) = some ⟨n / 262144, low, high, 2⟩ ∧
      low ≤ n / 4096 % 64 + 0x80 ∧ n / 4096 % 64 + 0x80 ≤ high := by
  by_cases hfirst : n / 262144 = 0
  · exact ⟨0x90, 0xBF, by simp [ofByte?, hfirst], by omega, by omega⟩
  by_cases hlast : n / 262144 = 4
  · exact ⟨0x80, 0x8F, by simp [ofByte?, hlast], by omega, by omega⟩
  · refine ⟨0x80, 0xBF, ?_, by omega, by omega⟩
    rw [ofByte?, if_neg (by omega), if_neg (by omega), if_neg (by omega), if_neg (by omega),
      if_neg (by omega), if_pos (by omega), Nat.add_sub_cancel]

end Utf8Head

/-- The number of a byte. -/
theorem toNat_byte {n : Nat} (h : n < 256) : (UInt8.ofNat n).toNat = n := by
  rw [UInt8.toNat_ofNat']
  exact Nat.mod_eq_of_lt h

/-- A first byte of several opens its head. -/
theorem decodeUtf8From_first {n : Nat} {h : Utf8Head} (hlow : 0x80 ≤ n) (hhigh : n < 256)
    (hhead : Utf8Head.ofByte? n = some h) (rest : List UInt8) :
    decodeUtf8From none (UInt8.ofNat n :: rest) = decodeUtf8From (some h) rest := by
  rw [decodeUtf8From]
  simp only [toNat_byte hhigh, if_neg (Nat.not_lt.2 hlow), hhead]

variable {h : Utf8Head} {n : Nat}

/-- A further byte adds its bits. -/
theorem decodeUtf8From_next (hn : n < 256) (hrange : h.low ≤ n ∧ n ≤ h.high) {more : Nat}
    (hmore : h.more = more + 1) (rest : List UInt8) :
    decodeUtf8From (some h) (UInt8.ofNat n :: rest)
      = decodeUtf8From (some ⟨h.bitsWith n, 0x80, 0xBF, more⟩) rest := by
  have htakes : h.takes n = true := by simp [Utf8Head.takes, hrange]
  rw [decodeUtf8From]
  simp only [toNat_byte hn, htakes, if_true, hmore]

/-- The last byte gives the character. -/
theorem decodeUtf8From_last (hn : n < 256) (hrange : h.low ≤ n ∧ n ≤ h.high)
    (hmore : h.more = 0) (rest : List UInt8) :
    decodeUtf8From (some h) (UInt8.ofNat n :: rest)
      = some (Char.ofNat (h.bitsWith n)) :: decodeUtf8From none rest := by
  have htakes : h.takes n = true := by simp [Utf8Head.takes, hrange]
  rw [decodeUtf8From]
  simp only [toNat_byte hn, htakes, if_true, hmore]

/-- The bytes of a character are read as this character. -/
theorem decodeUtf8From_utf8EncodeChar (c : Char) (rest : List UInt8) :
    decodeUtf8From none (String.utf8EncodeChar c ++ rest) = some c :: decodeUtf8From none rest := by
  have hvalid : c.toNat.isValidChar := c.valid
  have hc : Char.ofNat c.toNat = c := Char.ofNat_toNat c
  have hbound : c.toNat < 0x110000 := by
    rw [Nat.isValidChar] at hvalid
    omega
  simp only [String.utf8EncodeChar, show c.val.toNat = c.toNat from rfl]
  have hbitsWith (bits low high more k : Nat) :
      Utf8Head.bitsWith ⟨bits, low, high, more⟩ (k + 0x80) = bits * 64 + k :=
    congrArg (bits * 64 + ·) (Nat.add_sub_cancel k 0x80)
  generalize c.toNat = n at *
  have hlast : n % 64 + 0x80 < 256 ∧ 0x80 ≤ n % 64 + 0x80 ∧ n % 64 + 0x80 ≤ 0xBF := by omega
  have hmiddle : n / 64 % 64 + 0x80 < 256 ∧ 0x80 ≤ n / 64 % 64 + 0x80 ∧
      n / 64 % 64 + 0x80 ≤ 0xBF := by omega
  split
  next hone =>
    rw [List.singleton_append, decodeUtf8From]
    simp only [toNat_byte (show n < 256 by omega), if_pos (show n < 0x80 by omega), hc]
  split
  next hone htwo =>
    have hfirst : Utf8Head.ofByte? (n / 64 + 0xC0) = some ⟨n / 64, 0x80, 0xBF, 0⟩ := by
      rw [Utf8Head.ofByte?, if_pos (by omega), Nat.add_sub_cancel]
    have hbits : n / 64 * 64 + n % 64 = n := by omega
    rw [show n / 64 % 32 = n / 64 by omega, List.cons_append, List.singleton_append,
      decodeUtf8From_first (by omega) (by omega) hfirst,
      decodeUtf8From_last hlast.1 hlast.2 rfl]
    simp only [hbitsWith, hbits, hc]
  split
  next htwo hthree =>
    obtain ⟨low, high, hfirst, hsecond⟩ :=
      Utf8Head.exists_ofByte?_three (by omega) (by omega) hvalid
    have hbits : (n / 4096 * 64 + n / 64 % 64) * 64 + n % 64 = n := by omega
    rw [show n / 4096 % 16 = n / 4096 by omega, List.cons_append, List.cons_append,
      List.singleton_append, decodeUtf8From_first (by omega) (by omega) hfirst,
      decodeUtf8From_next hmiddle.1 hsecond rfl, decodeUtf8From_last hlast.1 hlast.2 rfl]
    simp only [hbitsWith, hbits, hc]
  next hthree =>
    obtain ⟨low, high, hfirst, hsecond⟩ := Utf8Head.exists_ofByte?_four (by omega) hbound
    have hbits : ((n / 262144 * 64 + n / 4096 % 64) * 64 + n / 64 % 64) * 64 + n % 64 = n := by
      omega
    rw [show n / 262144 % 8 = n / 262144 by omega, List.cons_append, List.cons_append,
      List.cons_append, List.singleton_append, decodeUtf8From_first (by omega) (by omega) hfirst,
      decodeUtf8From_next (by omega) hsecond rfl, decodeUtf8From_next hmiddle.1 hmiddle.2 rfl,
      decodeUtf8From_last hlast.1 hlast.2 rfl]
    simp only [hbitsWith, hbits, hc]

/-- The bytes of a text are read as this text. -/
theorem ofUtf8?_utf8 (t : Text) : ofUtf8? (utf8 t) = some t := by
  have hread : decodeUtf8 (utf8 t) = t.map some := by
    rw [decodeUtf8]
    induction t with
    | nil => rfl
    | cons c cs ih =>
        rw [utf8, List.flatMap_cons, decodeUtf8From_utf8EncodeChar, ← utf8, ih, List.map_cons]
  rw [ofUtf8?, hread, List.mapM_map]
  have hpure : t.mapM (fun c => some (id c)) = some (t.map id) := List.mapM_pure
  rw [List.map_id] at hpure
  exact hpure

/-- Bytes tell texts apart. -/
theorem utf8_inj {s t : Text} : utf8 s = utf8 t ↔ s = t := by
  refine ⟨fun h => ?_, congrArg utf8⟩
  have hread : ofUtf8? (utf8 s) = some t := by rw [h, ofUtf8?_utf8]
  rw [ofUtf8?_utf8] at hread
  exact Option.some.inj hread

end DefIndex.Text
