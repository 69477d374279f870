import DefIndex.Disk

/-!
# `DefIndex.Walker`: walks below a folder

Discovery does not walk the disk itself. It asks a walker for the entries below
a folder and says which of them may be left out. A `Walker` is whatever answers
such a `WalkRequest`; discovery takes any, and the command line runs with the
one of `DefIndex.IgnoreWalk`.

An override is a line in the notation of ignore files. With a `!` in front it
leaves out what it fits; without one it takes that in.
-/

set_option autoImplicit false

namespace DefIndex

/-- What a walk is asked for. -/
structure WalkRequest where
  /-- The folder where it starts, as names from the root. -/
  root : List Segment
  /-- The lines that go before everything else. -/
  overrides : List Text
  /-- Whether entries are left out whose names start with a dot. -/
  skipsHidden : Bool
  /-- Whether ignore files count, of every kind and those of the folders above
  too. -/
  respectsIgnore : Bool
deriving DecidableEq, Repr

/-- Something that walks. -/
structure Walker where
  /-- Whether a line is taken as an override. -/
  accepts : Text → Bool
  /-- Why lines that were taken cannot be put together. -/
  fault? : List Text → Option Text
  /-- The entries that are visited, in any order, each by the names from the
  folder where the walk starts. Folders are visited too. -/
  visits : Disk → WalkRequest → List (List Segment)

end DefIndex
