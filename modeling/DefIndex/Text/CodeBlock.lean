/-!
# `DefIndex.Text.CodeBlock`: mappings as blocks of neighbours

Where the images of neighbouring characters follow no rule, a table lists
them one after the other, under the first code point of the block.
-/

set_option autoImplicit false

namespace DefIndex.Text

/-- The images of the code points from `first` on. -/
structure CodeBlock where
  first : Nat
  images : List (List Nat)
deriving DecidableEq, Repr

/-- The image of a code point, if it belongs to the block. -/
def CodeBlock.image? (b : CodeBlock) (n : Nat) : Option (List Nat) :=
  if n < b.first then none else b.images[n - b.first]?

end DefIndex.Text
