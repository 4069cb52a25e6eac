import LispEditor.Character.Blank
import LispEditor.Text.Span

set_option autoImplicit false
set_option relaxedAutoImplicit false

/-!
# Texts

A text is the list of its characters, and an offset counts the characters in front of it. An offset
past the end stands for the end.
-/

namespace LispEditor

/-- The characters of a buffer, in order. -/
abbrev Text := List Char

namespace Text

/-- The offset itself, or the end of the text if it lies past it. -/
def clamp (t : Text) (offset : Nat) : Nat :=
  min offset t.length

/-- The characters at the offsets of the span that lie in the text. -/
def slice (t : Text) (s : Span) : Text :=
  (t.take s.stop).drop s.start

def solidFrom? (t : Text) (offset : Nat) : Option Nat :=
  ((t.drop offset).findIdx? (!isBlank ·)).map (offset + ·)

/-- The characters in front of `offset`, nearest first, from the last one that is no blank. -/
def solidBack (t : Text) (offset : Nat) : List Char :=
  (t.take offset).reverse.dropWhile isBlank

def solidBefore? (t : Text) (offset : Nat) : Option Nat :=
  match t.solidBack offset with
  | [] => none
  | _ :: before => some before.length

end Text

end LispEditor
