import DefIndex.Text.Basic

/-!
# `DefIndex.Scope`: the stack of open blocks

Every opening brace pushes a frame. A declaration that may own a block
waits until the next brace and owns the frame that it opens; a brace with
nobody waiting opens a plain frame, which adds nothing to the context.
A closing brace pops the innermost frame and sends a waiting declaration
away.

Declarations are known here by their key, the index in their file.
-/

set_option autoImplicit false

namespace DefIndex

/-- A declaration as the owner of a block. -/
structure Owner where
  name : Text
  key : Nat
deriving DecidableEq, Repr

/-- An open block: owned by a declaration, or plain. -/
abbrev Frame := Option Owner

/-- The open blocks of a file, innermost first, and the declaration that
waits for its block. -/
structure Scope where
  frames : List Frame
  pending : Option Owner
deriving DecidableEq, Repr

namespace Scope

/-- No block open, nobody waiting. -/
def empty : Scope := ⟨[], none⟩

/-- Let a declaration wait for the next opening brace. -/
def await (s : Scope) (owner : Owner) : Scope := { s with pending := some owner }

/-- Send a waiting declaration away. -/
def dismiss (s : Scope) : Scope := { s with pending := none }

/-- An opening brace. -/
def enter (s : Scope) : Scope := ⟨s.pending :: s.frames, none⟩

/-- A closing brace; the frame that it closed, if one was open. -/
def leave (s : Scope) : Option Frame × Scope :=
  match s.frames with
  | [] => (none, ⟨[], none⟩)
  | frame :: rest => (some frame, ⟨rest, none⟩)

/-- The number of open blocks. -/
def depth (s : Scope) : Nat := s.frames.length

/-- The owners of the open blocks, innermost first. -/
def owners (s : Scope) : List Owner := s.frames.filterMap id

/-- The key of the innermost owner. -/
def current (s : Scope) : Option Nat := s.owners.head?.map Owner.key

/-- The keys of the owners, outermost first. -/
def openKeys (s : Scope) : List Nat := (s.owners.map Owner.key).reverse

/-- The names of the owners, outermost first, joined by dots. -/
def context (s : Scope) : Text :=
  Text.join ['.'] (s.owners.map Owner.name).reverse

end Scope

end DefIndex
