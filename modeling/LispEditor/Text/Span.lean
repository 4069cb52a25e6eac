set_option autoImplicit false
set_option relaxedAutoImplicit false

/-!
# Spans of a text
-/

namespace LispEditor

/-- The offsets from `start` up to, but not including, `stop`; none if `stop ≤ start`. -/
structure Span where
  start : Nat
  stop : Nat
  deriving DecidableEq, Repr, Ord

namespace Span

def length (s : Span) : Nat :=
  s.stop - s.start

def isEmpty (s : Span) : Bool :=
  s.length == 0

def contains (s : Span) (offset : Nat) : Bool :=
  s.start ≤ offset && offset < s.stop

end Span

end LispEditor
