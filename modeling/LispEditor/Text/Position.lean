import LispEditor.Text.Basic

set_option autoImplicit false
set_option relaxedAutoImplicit false

/-!
# Lines and columns

Lines end at line feeds, which belong to no line. A text has one line more than line feeds, so an
empty text has one empty line.
-/

namespace LispEditor

/-- A line and a column, both counted from zero. -/
structure Position where
  line : Nat
  col : Nat
  deriving DecidableEq, Repr

namespace Text

/-- The lines of the characters from offset `here` on, in a line that began at `start`. -/
def linesFrom (start here : Nat) : List Char → List Span
  | [] => [⟨start, here⟩]
  | c :: rest =>
      if c = '\n' then ⟨start, here⟩ :: linesFrom (here + 1) (here + 1) rest
      else linesFrom start (here + 1) rest

/-- The spans of the lines, without their line feeds. -/
def lines (t : Text) : List Span :=
  linesFrom 0 0 t

def position (t : Text) (offset : Nat) : Position where
  line := (t.take offset).count '\n'
  col := ((t.take offset).reverse.takeWhile (· != '\n')).length

/-- The offset of a line and column: the last line stands for those past it, and a line's end for
the columns past it. -/
def offsetAt (t : Text) (p : Position) : Nat :=
  let line := (t.lines.take (p.line + 1)).getLast?.getD ⟨0, 0⟩
  line.start + min p.col line.length

end Text

end LispEditor
