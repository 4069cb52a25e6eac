set_option autoImplicit false
set_option relaxedAutoImplicit false

/-!
# Ranges of code points

A character property is given by the ranges of code points that have it.
-/

namespace LispEditor

/-- The code points from `first` to `last`, both included. -/
structure CodeRange where
  first : Nat
  last : Nat
  deriving DecidableEq, Repr

def CodeRange.contains (r : CodeRange) (n : Nat) : Bool :=
  r.first ≤ n && n ≤ r.last

def CodeRange.covers (ranges : List CodeRange) (c : Char) : Bool :=
  ranges.any (·.contains c.toNat)

end LispEditor
