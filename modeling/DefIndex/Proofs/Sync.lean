import DefIndex.Proofs.Positions
import DefIndex.Proofs.Token
import DefIndex.Text.Utf8

/-!
# `DefIndex.Proofs.Sync`: an open document follows its editor

An editor sends a change as two positions and a text. A document is stored as
UTF-8, and the positions are turned into byte offsets, at which the bytes are
cut. If an offset is wrong, the document differs from what the editor shows
from then on, and if it falls inside a character, the cut fails.

The bytes come first. `Document.byteOffset?`, `Document.applyBytes?` and
`Document.beforeBytes?` count and cut bytes, with `Text.cutAt?` for a cut
that may fail. `Document.byteOffset?_eq`, `Document.applyBytes?_eq` and
`Document.beforeBytes?_eq` say that they do what the functions on characters
do, and that no cut fails.

The positions follow. `Position.EndOf` is the position of the end of a text,
told by its line feeds and the characters behind the last of them.
`Document.offsetIn?_endOf` finds it again in any text that goes on from
there, if no carriage return stands alone and the place is not inside of a
line end.

`Document.synced` puts them together.
-/

set_option autoImplicit false

namespace DefIndex

/-! ### Bytes -/

namespace Text

/-- The number of bytes of a text. -/
def byteLength (t : Text) : Nat := (utf8 t).length

/-- The empty text has no bytes. -/
theorem byteLength_nil : byteLength [] = 0 := rfl

/-- The bytes of a character and of those behind it. -/
theorem byteLength_cons (c : Char) (cs : Text) :
    byteLength (c :: cs) = c.utf8Size + byteLength cs := by
  rw [byteLength, utf8, List.flatMap_cons, List.length_append, String.length_utf8EncodeChar]
  rfl

/-- The bytes of a text and of what follows it. -/
theorem byteLength_append (front back : Text) :
    byteLength (front ++ back) = byteLength front + byteLength back := by
  rw [byteLength, utf8, List.flatMap_append, List.length_append]
  rfl

/-- Starts of a text are ordered by their bytes as by their characters. -/
theorem byteLength_take_le_iff {t : Text} {m n : Nat} (hm : m ≤ t.length) :
    byteLength (t.take m) ≤ byteLength (t.take n) ↔ m ≤ n := by
  constructor
  · intro h
    by_contra hlt
    -- The longer start is the shorter one and at least one more character.
    have hcut : t.take m = t.take n ++ (t.take m).drop n := by
      have hshorter := List.take_append_drop n (t.take m)
      rwa [List.take_take, Nat.min_eq_left (by omega), eq_comm] at hshorter
    obtain ⟨c, cs, hmore⟩ := List.exists_cons_of_ne_nil (l := (t.take m).drop n) (by
      rw [← List.length_pos_iff, List.length_drop, List.length_take_of_le hm]
      omega)
    rw [hcut, hmore, byteLength_append, byteLength_cons] at h
    have := c.utf8Size_pos
    omega
  · intro h
    obtain ⟨more, hmore⟩ := List.take_prefix_take_left (l := t) h
    rw [← hmore, byteLength_append]
    exact Nat.le_add_right _ _

/-- A number of bytes behind which no character goes on. -/
def IsBoundary (t : Text) (n : Nat) : Prop :=
  ∃ front back, t = front ++ back ∧ byteLength front = n

/-- A boundary does not lie behind the end. -/
theorem IsBoundary.le {t : Text} {n : Nat} (h : IsBoundary t n) : n ≤ byteLength t := by
  obtain ⟨front, back, rfl, rfl⟩ := h
  rw [byteLength_append]
  exact Nat.le_add_right _ _

/-- A text cut behind some bytes. Inside a character it cannot be cut. -/
def cutAt? : Text → Nat → Option (Text × Text)
  | t, 0 => some ([], t)
  | [], _ + 1 => none
  | c :: cs, n + 1 =>
    if c.utf8Size ≤ n + 1 then
      (cutAt? cs (n + 1 - c.utf8Size)).map fun cut => (c :: cut.1, cut.2)
    else none

/-- It can be cut behind the bytes of any of its starts. -/
theorem cutAt?_append (front back : Text) :
    cutAt? (front ++ back) (byteLength front) = some (front, back) := by
  induction front with
  | nil => rw [List.nil_append, byteLength_nil, cutAt?]
  | cons c cs ih =>
      -- A character has at least one byte, so the cut is not at the start.
      obtain ⟨n, hn⟩ := Nat.exists_eq_succ_of_ne_zero (Nat.ne_of_gt c.utf8Size_pos)
      have hbytes : byteLength (c :: cs) = n + byteLength cs + 1 := by
        rw [byteLength_cons]
        omega
      have hrest : n + byteLength cs + 1 - c.utf8Size = byteLength cs := by omega
      rw [hbytes, List.cons_append, cutAt?, if_pos (by omega), hrest, ih, Option.map_some]

/-- A start and the rest. -/
theorem cutAt?_take (t : Text) (n : Nat) :
    cutAt? t (byteLength (t.take n)) = some (t.take n, t.drop n) := by
  have hcut := cutAt?_append (t.take n) (t.drop n)
  rwa [List.take_append_drop] at hcut

/-- It can be cut where no character goes on, and nowhere else. -/
theorem isSome_cutAt?_iff {t : Text} {n : Nat} : (cutAt? t n).isSome = true ↔ IsBoundary t n := by
  constructor
  · intro h
    fun_induction cutAt? t n with
    | case1 t => exact ⟨[], t, rfl, rfl⟩
    | case2 n => cases h
    | case3 c cs n hfits ih =>
        obtain ⟨front, back, rfl, hbytes⟩ := ih (by rwa [Option.isSome_map] at h)
        exact ⟨c :: front, back, rfl, by rw [byteLength_cons, hbytes]; omega⟩
    | case4 c cs n hfits => cases h
  · rintro ⟨front, back, rfl, rfl⟩
    rw [cutAt?_append]
    rfl

/-- The characters of a text, each with the number of bytes before it, of
which there are `n` before the first. -/
def charIndices (n : Nat) : Text → List (Nat × Char)
  | [] => []
  | c :: cs => (n, c) :: charIndices (n + c.utf8Size) cs

/-- The number of bytes before the character of index `k`, and of all bytes
if there are fewer characters. -/
def byteIndex (t : Text) (k : Nat) : Nat :=
  ((charIndices 0 t)[k]?.map Prod.fst).getD (byteLength t)

/-- A character has the bytes of those before it in front of it. -/
theorem getElem?_charIndices (n : Nat) (t : Text) (k : Nat) :
    (charIndices n t)[k]? = t[k]?.map fun c => (n + byteLength (t.take k), c) := by
  induction t generalizing n k with
  | nil => rfl
  | cons c cs ih =>
      cases k with
      | zero => rfl
      | succ k =>
          rw [charIndices, List.getElem?_cons_succ, ih, List.getElem?_cons_succ, List.take_succ_cons,
            byteLength_cons, Nat.add_assoc]

/-- The bytes before a character are those of the characters before it. -/
theorem byteIndex_eq (t : Text) (k : Nat) : byteIndex t k = byteLength (t.take k) := by
  rw [byteIndex, getElem?_charIndices]
  cases hk : t[k]? with
  | some c => simp
  | none => rw [List.take_of_length_le (List.getElem?_eq_none_iff.1 hk)]; rfl

end Text

namespace Document

/-! ### Offsets in bytes -/

/-- The characters of a line before its line end. -/
def body (piece : Text) : Text := Text.dropEndWhile (fun c => c == '\n' || c == '\r') piece

/-- The number of bytes before a place in the given lines. -/
def byteOffsetIn? : List Text → (line character : Nat) → Option Nat
  | [], line, character => if line = 0 ∧ character = 0 then some 0 else none
  | piece :: _, 0, character => some (Text.byteIndex (body piece) character)
  | piece :: pieces, line + 1, character =>
    (byteOffsetIn? pieces line character).map (Text.byteLength piece + ·)

/-- The number of bytes before a position, if the position exists. -/
def byteOffset? (d : Document) (p : Position) : Option Nat :=
  byteOffsetIn? (linePieces d.content) p.line.toNat p.character.toNat

/-- The pieces of a text are the text. -/
theorem flatten_linePieces (t : Text) : (linePieces t).flatten = t := by
  fun_induction linePieces t with
  | case1 => rfl
  | case2 cs ih => rw [List.flatten_cons, ih, List.singleton_append]
  | case3 c cs _ hnone ih => rw [← ih, hnone]; rfl
  | case4 c cs _ piece pieces hsome ih => rw [← ih, hsome]; rfl

/-- A column of a piece is as many characters of its body into it. -/
theorem take_body (piece : Text) (rest : Text) (character : Nat) :
    (piece ++ rest).take (min character (bodyLength piece)) = (body piece).take character := by
  obtain ⟨ending, hpiece⟩ : body piece <+: piece := Text.dropEndWhile_isPrefix _ piece
  have hlength : bodyLength piece = (body piece).length := rfl
  have hcut : piece ++ rest = body piece ++ (ending ++ rest) := by
    rw [← List.append_assoc, hpiece]
  rw [hcut, hlength, List.take_append_of_le_length (Nat.min_le_right _ _), List.take_eq_take_iff]
  omega

/-- A place has the bytes of the characters before it in front of it. -/
theorem byteOffsetIn?_eq (pieces : List Text) (line character : Nat) :
    byteOffsetIn? pieces line character
      = (offsetIn? pieces line character).map fun n => Text.byteLength (pieces.flatten.take n) := by
  fun_induction offsetIn? pieces line character with
  | case1 line character h => rw [byteOffsetIn?, if_pos h]; rfl
  | case2 line character h => rw [byteOffsetIn?, if_neg h]; rfl
  | case3 piece pieces character =>
      rw [byteOffsetIn?, Text.byteIndex_eq, List.flatten_cons, Option.map_some, take_body]
  | case4 piece pieces line character ih =>
      rw [byteOffsetIn?, ih, Option.map_map, Option.map_map]
      refine congrArg (Option.map · _) (funext fun n => ?_)
      show Text.byteLength piece + _ = Text.byteLength ((piece ++ pieces.flatten).take _)
      rw [List.take_length_add_append, Text.byteLength_append]

/-- No place lies behind the end. -/
theorem offsetIn?_le {pieces : List Text} {line character n : Nat}
    (h : offsetIn? pieces line character = some n) : n ≤ pieces.flatten.length := by
  fun_induction offsetIn? pieces line character generalizing n with
  | case1 line character _ => exact (Option.some.inj h) ▸ Nat.zero_le _
  | case2 line character _ => cases h
  | case3 piece pieces character =>
      have hbody : bodyLength piece ≤ piece.length :=
        (Text.dropEndWhile_isPrefix _ piece).length_le
      rw [← Option.some.inj h, List.flatten_cons, List.length_append]
      omega
  | case4 piece pieces line character ih =>
      obtain ⟨m, hm, rfl⟩ := Option.map_eq_some_iff.1 h
      rw [List.flatten_cons, List.length_append]
      exact Nat.add_le_add_left (ih hm) _

/-- Later places have no smaller offsets. -/
theorem offsetIn?_mono {pieces : List Text} {line line' character character' m n : Nat}
    (h : line < line' ∨ line = line' ∧ character ≤ character')
    (hm : offsetIn? pieces line character = some m)
    (hn : offsetIn? pieces line' character' = some n) : m ≤ n := by
  induction pieces generalizing line line' m n with
  | nil =>
      -- There is one place without pieces.
      rw [offsetIn?, Option.ite_none_right_eq_some] at hm
      rw [← Option.some.inj hm.2]
      exact Nat.zero_le _
  | cons piece pieces ih =>
      cases line with
      | zero =>
          rw [offsetIn?, Option.some.injEq] at hm
          cases line' with
          | zero =>
              rw [offsetIn?, Option.some.injEq] at hn
              omega
          | succ line' =>
              -- A place on a line lies in front of all lines below.
              obtain ⟨n, -, rfl⟩ := Option.map_eq_some_iff.1 hn
              have hbody : bodyLength piece ≤ piece.length :=
                (Text.dropEndWhile_isPrefix _ piece).length_le
              omega
      | succ line =>
          -- Both places are behind the first piece.
          obtain ⟨k, hk, rfl⟩ := Option.map_eq_some_iff.1 hm
          cases line' with
          | zero => omega
          | succ line' =>
              obtain ⟨l, hl, rfl⟩ := Option.map_eq_some_iff.1 hn
              exact Nat.add_le_add_left (ih (by omega) hk hl) _

/-- The offset in bytes is that of the characters. -/
theorem byteOffset?_eq (d : Document) (p : Position) :
    d.byteOffset? p = (d.offset? p).map fun n => Text.byteLength (d.content.take n) := by
  rw [byteOffset?, byteOffsetIn?_eq, flatten_linePieces]
  rfl

/-- No position lies behind the end. -/
theorem offset?_le {d : Document} {p : Position} {n : Nat} (h : d.offset? p = some n) :
    n ≤ d.content.length := by
  have hle := offsetIn?_le h
  rwa [flatten_linePieces] at hle

/-! ### Changes in bytes -/

/-- The content with the bytes from `first` up to `last` replaced. It cannot
be cut inside of characters, nor from behind to front. -/
def replaceBytes? (content : Text) (first last : Nat) (text : Text) : Option Text :=
  if first ≤ last then
    (Text.cutAt? content first).bind fun front =>
      (Text.cutAt? content last).map fun back => front.1 ++ text ++ back.2
  else none

/-- Carry out one change on the bytes, if it does not fail. -/
def changeBytes? (d : Document) (c : Change) : Option Document :=
  match c.range with
  | none => some { d with content := c.text }
  | some range =>
    match d.byteOffset? range.start, d.byteOffset? range.stop with
    | some first, some last =>
      if first ≤ last then
        (replaceBytes? d.content first last c.text).map fun content => { d with content := content }
      else some d
    | _, _ => some d

/-- Carry out changes on the bytes in order, if none fails. -/
def applyBytes? (d : Document) (changes : List Change) (version : Int) : Option Document :=
  (changes.foldlM changeBytes? d).map fun changed => { changed with version := version }

/-- Cut off everything behind a position, if that does not fail. -/
def beforeBytes? (d : Document) (p : Position) : Option Text :=
  (Text.cutAt? d.content ((d.byteOffset? p).getD (Text.byteLength d.content))).map Prod.fst

/-- Bytes are replaced as the characters are. -/
theorem replaceBytes?_take {content : Text} {first last : Nat} (text : Text) (h : first ≤ last)
    (hlast : last ≤ content.length) :
    replaceBytes? content (Text.byteLength (content.take first))
        (Text.byteLength (content.take last)) text
      = some (replace content first last text) := by
  rw [replaceBytes?, if_pos ((Text.byteLength_take_le_iff (h.trans hlast)).2 h), Text.cutAt?_take,
    Text.cutAt?_take]
  rfl

/-- No change fails, and it does to the bytes what it does to the
characters. -/
theorem changeBytes?_eq (d : Document) (c : Change) : d.changeBytes? c = some (d.change c) := by
  obtain ⟨range, text⟩ := c
  cases range with
  | none => rfl
  | some range =>
      -- The ends resolve in bytes if they do in characters, and in the same order.
      simp only [changeBytes?, change, byteOffset?_eq]
      cases hfirst : d.offset? range.start with
      | none => rfl
      | some first =>
          cases hlast : d.offset? range.stop with
          | none => rfl
          | some last =>
              simp only [Option.map_some, Text.byteLength_take_le_iff (offset?_le hfirst)]
              by_cases hle : first ≤ last
              · rw [if_pos hle, if_pos hle, replaceBytes?_take text hle (offset?_le hlast)]
                rfl
              · rw [if_neg hle, if_neg hle]

/-- No changes fail. -/
theorem applyBytes?_eq (d : Document) (changes : List Change) (version : Int) :
    d.applyBytes? changes version = some (d.apply changes version) := by
  have hfold (d : Document) : changes.foldlM changeBytes? d = some (changes.foldl change d) := by
    induction changes generalizing d with
    | nil => rfl
    | cons c changes ih => rw [List.foldlM_cons, changeBytes?_eq, List.foldl_cons]; exact ih _
  rw [applyBytes?, hfold]
  rfl

/-- No look at what comes before a position fails. -/
theorem beforeBytes?_eq (d : Document) (p : Position) : d.beforeBytes? p = some (d.before p) := by
  rw [beforeBytes?, before, byteOffset?_eq]
  cases d.offset? p with
  | some n => rw [Option.map_some, Option.getD_some, Option.getD_some, Text.cutAt?_take]; rfl
  | none =>
      have hcut := Text.cutAt?_append d.content []
      rw [List.append_nil] at hcut
      rw [Option.map_none, Option.getD_none, Option.getD_none, hcut, List.take_length]
      rfl

end Document

/-! ### Where a text ends -/

namespace Text

/-- What stands behind the last line feed of a text. -/
def lastLine (t : Text) : Text := takeEndWhile (· != '\n') t

/-- Behind a line feed stands nothing yet. -/
theorem lastLine_feed (t : Text) : lastLine (t ++ ['\n']) = [] := by
  simp [lastLine, takeEndWhile]

/-- Any other character stands on the last line. -/
theorem lastLine_concat {c : Char} (hc : c ≠ '\n') (t : Text) :
    lastLine (t ++ [c]) = lastLine t ++ [c] := by
  simp [lastLine, takeEndWhile, hc]

/-- A text is whole lines, as many as it has line feeds, and its last line. -/
theorem exists_broken_lastLine (t : Text) :
    ∃ above, Unbroken above ∧ above.length = t.count '\n' ∧ t = broken above ++ lastLine t ∧
      '\n' ∉ lastLine t := by
  induction t using List.reverseRecOn with
  | nil => exact ⟨[], by simp [Unbroken], rfl, rfl, by simp [lastLine, takeEndWhile]⟩
  | append_singleton t c ih =>
      obtain ⟨above, habove, hlength, ht, hlast⟩ := ih
      by_cases hc : c = '\n'
      · subst hc
        refine ⟨above ++ [lastLine t], ?_, by simp [hlength], ?_, by simp [lastLine_feed]⟩
        · exact List.forall_mem_append.2 ⟨habove, List.forall_mem_singleton.2 hlast⟩
        · rw [lastLine_feed, List.append_nil]
          conv_lhs => rw [ht]
          simp [broken]
      · refine ⟨above, habove, ?_, ?_, ?_⟩
        · rw [hlength, List.count_append, List.count_singleton, if_neg (by simpa using hc),
            Nat.add_zero]
        · rw [lastLine_concat hc, ← List.append_assoc, ← ht]
        · rw [lastLine_concat hc, List.mem_append, List.mem_singleton, not_or]
          exact ⟨hlast, Ne.symm hc⟩

/-- Every carriage return of a text stands directly before a line feed. -/
def Paired (t : Text) : Prop := ∀ front back, t = front ++ '\r' :: back → back.head? = some '\n'

/-- A text is cut between the two characters of a line end. -/
def CutsLineEnd (front back : Text) : Prop :=
  front.getLast? = some '\r' ∧ back.head? = some '\n'

/-- Elsewhere the last line in front of the cut is open, unless nothing
stands on it. -/
theorem Paired.open_lastLine {front back : Text} (h : Paired (front ++ back))
    (hcut : ¬ CutsLineEnd front back) (hne : lastLine front ≠ []) : Open (lastLine front) := by
  obtain ⟨above, -, -, hfront, hunbroken⟩ := exists_broken_lastLine front
  obtain ⟨line, c, hline⟩ := List.eq_nil_or_concat (lastLine front) |>.resolve_left hne
  rw [List.concat_eq_append] at hline
  refine ⟨hunbroken, line, c, hline, ?_⟩
  -- A carriage return in front of the cut has its line feed behind it.
  rintro rfl
  rw [hline, ← List.append_assoc] at hfront
  refine hcut ⟨by rw [hfront, List.getLast?_concat], h (broken above ++ line) back ?_⟩
  rw [hfront, List.append_assoc]
  rfl

end Text

/-- A position is that of the end of a text: it counts the line feeds of the
text and the characters behind the last of them. -/
def Position.EndOf (p : Position) (front : Text) : Prop :=
  p.line.toNat = front.count '\n' ∧ p.character.toNat = (Text.lastLine front).length

/-- A position stands before another one, or is the same. -/
def Position.le (p q : Position) : Prop :=
  p.line < q.line ∨ p.line = q.line ∧ p.character ≤ q.character

namespace Document

open Text (Paired CutsLineEnd lastLine)

/-- The end of a text is found again in what goes on from there. -/
theorem offsetIn?_endOf {front back : Text} (h : Paired (front ++ back))
    (hcut : ¬ CutsLineEnd front back) :
    offsetIn? (linePieces (front ++ back)) (front.count '\n') (lastLine front).length
      = some front.length := by
  obtain ⟨above, habove, hlength, hfront, -⟩ := Text.exists_broken_lastLine front
  have hpieces : front ++ back = broken above ++ (lastLine front ++ back) := by
    rw [← List.append_assoc, ← hfront]
  have hsize : front.length = (broken above).length + (lastLine front).length := by
    rw [← List.length_append, ← hfront]
  rw [hpieces, hsize, ← hlength]
  by_cases hne : lastLine front = []
  · -- The position is the start of a line, or the end of everything.
    rw [hne, List.nil_append, linePieces_broken habove, offsetIn?_append]
    cases linePieces back <;> simp [offsetIn?]
  · exact offsetIn?_open habove (h.open_lastLine hcut hne) back (Nat.le_refl _)

/-- The line on which a text ends starts with the last line of that text. -/
theorem lastLine_eq_take_line {front back : Text} (h : Paired (front ++ back))
    (hcut : ¬ CutsLineEnd front back) {line : Text}
    (hline : (Text.lines (front ++ back))[front.count '\n']? = some line) :
    lastLine front = line.take (lastLine front).length := by
  obtain ⟨above, habove, hlength, hfront, -⟩ := Text.exists_broken_lastLine front
  obtain ⟨read, hread, hlines⟩ := Text.exists_lines_broken habove
  have hpieces : front ++ back = broken above ++ (lastLine front ++ back) := by
    rw [← List.append_assoc, ← hfront]
  by_cases hne : lastLine front = []
  · rw [hne]
    rfl
  · -- The lines above are read on their own, and the line goes on behind the cut.
    rw [hpieces, hlines, Text.lines_open (h.open_lastLine hcut hne), ← hlength, ← hread,
      List.getElem?_append_right (Nat.le_refl _), Nat.sub_self] at hline
    cases hrest : Text.lines back with
    | nil =>
        rw [hrest] at hline
        rw [← Option.some.inj hline, List.take_length]
    | cons first rest =>
        rw [hrest] at hline
        rw [← Option.some.inj hline, List.take_left]

/-- What an editor can rely on. -/
structure Synced (d : Document) : Prop where
  /-- The line and the column of a place lead back to the place. -/
  exact : Paired d.content → ∀ front back, d.content = front ++ back → ¬ CutsLineEnd front back →
    offsetIn? (linePieces d.content) (front.count '\n') (lastLine front).length
      = some front.length
  /-- So does its position, in characters and in bytes. What comes before it
  is what stands before the place, up to the characters in front of it on its
  line. -/
  resolved : Paired d.content → ∀ front back, d.content = front ++ back →
    ¬ CutsLineEnd front back → ∀ p : Position, p.EndOf front →
    d.offset? p = some front.length ∧ d.byteOffset? p = some (Text.byteLength front) ∧
      d.before p = front ∧
      ∀ line, d.line? p.line.toNat = some line → lastLine front = line.take p.character.toNat
  /-- A change between two places replaces what stands between them. -/
  replaced : Paired d.content → ∀ front middle back, d.content = front ++ middle ++ back →
    ¬ CutsLineEnd front (middle ++ back) → ¬ CutsLineEnd (front ++ middle) back →
    ∀ range : Range, range.start.EndOf front → range.stop.EndOf (front ++ middle) →
    ∀ text version, d.apply [⟨some range, text⟩] version = ⟨front ++ text ++ back, version⟩
  /-- Every offset falls between characters. -/
  boundary : ∀ p n, d.byteOffset? p = some n →
    Text.IsBoundary d.content n ∧ n ≤ Text.byteLength d.content
  /-- Later positions have no smaller offsets. -/
  monotone : ∀ p q m n, p.le q → d.byteOffset? p = some m → d.byteOffset? q = some n → m ≤ n
  /-- A range that runs forwards is replaced if its ends are there. -/
  applied : ∀ range : Range, range.start.le range.stop →
    ∀ first last, d.offset? range.start = some first → d.offset? range.stop = some last →
    ∀ text version, d.apply [⟨some range, text⟩] version
      = ⟨d.content.take first ++ text ++ d.content.drop last, version⟩
  /-- Changes do not fail, whatever they are. -/
  unfailing : ∀ changes version, d.applyBytes? changes version = some (d.apply changes version)
  /-- Nor does the look at what comes before a position. -/
  visible : ∀ p, d.beforeBytes? p = some (d.before p)

/-- A range that runs forwards is replaced if its ends are there. -/
theorem apply_range {d : Document} {range : Range} {first last : Nat} (h : first ≤ last)
    (hfirst : d.offset? range.start = some first) (hlast : d.offset? range.stop = some last)
    (text : Text) (version : Int) :
    d.apply [⟨some range, text⟩] version
      = ⟨d.content.take first ++ text ++ d.content.drop last, version⟩ := by
  simp only [apply, List.foldl_cons, List.foldl_nil, change, hfirst, hlast, if_pos h]
  rfl

/-- Later positions have no smaller offsets. -/
theorem offset?_mono {d : Document} {p q : Position} {m n : Nat} (h : p.le q)
    (hm : d.offset? p = some m) (hn : d.offset? q = some n) : m ≤ n := by
  refine offsetIn?_mono ?_ hm hn
  rcases h with hline | ⟨hline, hcharacter⟩
  · exact Or.inl (UInt32.lt_iff_toNat_lt.1 hline)
  · exact Or.inr ⟨congrArg UInt32.toNat hline, UInt32.le_iff_toNat_le.1 hcharacter⟩

/-- The position of a place leads back to the place. -/
theorem offset?_endOf {d : Document} {front back : Text} (hcontent : d.content = front ++ back)
    (h : Paired d.content) (hcut : ¬ CutsLineEnd front back) {p : Position} (hp : p.EndOf front) :
    d.offset? p = some front.length := by
  rw [offset?, hp.1, hp.2, hcontent]
  exact offsetIn?_endOf (hcontent ▸ h) hcut

/-- An open document follows its editor. -/
theorem synced (d : Document) : d.Synced := by
  constructor
  case exact =>
    intro h front back hcontent hcut
    rw [hcontent] at h ⊢
    exact offsetIn?_endOf h hcut
  case resolved =>
    intro h front back hcontent hcut p hp
    have hoffset := offset?_endOf hcontent h hcut hp
    have htake : d.content.take front.length = front := by rw [hcontent, List.take_left]
    refine ⟨hoffset, ?_, ?_, fun line hline => ?_⟩
    · rw [byteOffset?_eq, hoffset, Option.map_some, htake]
    · rw [before, hoffset, Option.getD_some, htake]
    · rw [line?, hp.1, hcontent] at hline
      rw [hp.2]
      exact lastLine_eq_take_line (hcontent ▸ h) hcut hline
  case replaced =>
    intro h front middle back hcontent hstart hstop range hfirst hlast text version
    have hcut : d.content = front ++ (middle ++ back) := by rw [hcontent, List.append_assoc]
    rw [apply_range (by simp) (offset?_endOf hcut h hstart hfirst)
      (offset?_endOf hcontent h hstop hlast), hcontent, List.drop_left, List.append_assoc front,
      List.take_left]
  case boundary =>
    intro p n hn
    rw [byteOffset?_eq] at hn
    obtain ⟨k, -, rfl⟩ := Option.map_eq_some_iff.1 hn
    have hboundary : Text.IsBoundary d.content (Text.byteLength (d.content.take k)) :=
      Text.isSome_cutAt?_iff.1 (by rw [Text.cutAt?_take]; rfl)
    exact ⟨hboundary, hboundary.le⟩
  case monotone =>
    intro p q m n hle hm hn
    rw [byteOffset?_eq] at hm hn
    obtain ⟨k, hk, rfl⟩ := Option.map_eq_some_iff.1 hm
    obtain ⟨l, hl, rfl⟩ := Option.map_eq_some_iff.1 hn
    exact (Text.byteLength_take_le_iff (offset?_le hk)).2 (offset?_mono hle hk hl)
  case applied =>
    intro range hle first last hfirst hlast text version
    exact apply_range (offset?_mono hle hfirst hlast) hfirst hlast text version
  case unfailing => exact d.applyBytes?_eq
  case visible => exact d.beforeBytes?_eq

/-- A letter of two bytes and a line end of two characters. -/
example : (Document.mk "\u00e9a\r\nb" 1).byteOffset? ⟨1, 1⟩ = some 6 := by
  decide +kernel

end Document

end DefIndex
