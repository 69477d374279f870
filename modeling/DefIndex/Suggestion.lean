import DefIndex.EditDistance
import DefIndex.Sorting
import DefIndex.Text.Case

/-!
# `DefIndex.Suggestion`: names and keywords that may have been meant

`findSimilar` ranks candidates by edit distance, then by text; a
candidate equal to the query is no suggestion. `keywordFixes` offers the
keywords that a word may have been meant as: the word in upper case
first, then those within a third of its length in edits.
-/

set_option autoImplicit false

namespace DefIndex

/-- A candidate and its edit distance from the query. -/
structure Suggestion where
  value : Text
  distance : Nat
deriving DecidableEq, Repr

namespace Suggestion

/-- Edits allowed between a term and a suggested full name. -/
def defaultDistance : Nat := 2

/-- Suggestions offered for a term. -/
def defaultCount : Nat := 5

/-- Whether `a` comes before `b` in order of code points, or equals it. -/
def textLe (a b : Text) : Bool := (compare a b).isLE

/-- Order by distance, then by text. -/
def le (a b : Suggestion) : Bool :=
  decide (a.distance < b.distance)
    || (a.distance == b.distance && textLe a.value b.value)

/-- The candidate as a suggestion, if it is near the query and is not the
query itself. -/
def near? (query : Text) (maxDistance : Nat) (candidate : Text) : Option Suggestion :=
  let distance := EditDistance.distance query candidate
  if 0 < distance ∧ distance ≤ maxDistance then some ⟨candidate, distance⟩ else none

/-- The best `maxCount` suggestions for a query, each value once. -/
def findSimilar (query : Text) (candidates : List Text) (maxDistance maxCount : Nat) :
    List Suggestion :=
  let found := candidates.filterMap (near? query maxDistance)
  (dropRepeats (fun a b => a.value == b.value) (sortBy le found)).take maxCount

/-- The rank of a keyword as a fix of a word: zero for the word in upper
case, else the distance if it is within budget. -/
def fix? (word keyword : Text) : Option Suggestion :=
  if keyword = word then none
  else if keyword = Text.toUpper word then some ⟨keyword, 0⟩
  else
    let distance := EditDistance.distance word keyword
    if distance ≤ word.length / 3 then some ⟨keyword, distance⟩ else none

/-- The keywords that a word may have been meant as, best first. -/
def keywordFixes (word : Text) (keywords : List Text) : List Text :=
  if word.isEmpty then []
  else
    let fixes := sortBy le (keywords.filterMap (fix? word))
    (dropRepeats (fun a b => a == b) fixes).map Suggestion.value

end Suggestion

end DefIndex
