import LispEditor.Form.Matching
import LispEditor.Refusal

set_option autoImplicit false
set_option relaxedAutoImplicit false

/-!
# The form before the caret

`Text.formBefore` finds the form that ends nearest in front of an offset, blanks apart. The scans go
backward, over the characters in front of the offset, nearest first.
-/

namespace LispEditor

namespace Text

def tokenEnd (t : Text) (offset : Nat) : Nat :=
  let inside := 0 < offset && (t[offset]?).any isToken && (t[offset - 1]?).any isToken
  if inside then offset + ((t.drop offset).takeWhile isToken).length else offset

/-- The offset of the opener at which the count of closers less openers, of all kinds together,
comes back to zero. The characters are given nearest first, from the closer on. -/
def pairedOpener : (balance : Nat) → List Char → Option Nat
  | _, [] => none
  | balance, c :: before =>
      if isCloser c then pairedOpener (balance + 1) before
      else if isOpener c then
        if balance - 1 = 0 then some before.length else pairedOpener (balance - 1) before
      else pairedOpener balance before

/-- The offset of the nearest double quote that no backslash escapes. -/
def stringStart : List Char → Option Nat
  | [] => none
  | c :: before =>
      if c = '"' && before.head? != some '\\' then some before.length else stringStart before

/-- The offset at which the form begins that ends with `c`, behind the characters `before`. For an
opener, which ends no form, it is the offset past it. -/
def formStart? (c : Char) (before : List Char) : Option Nat :=
  if isCloser c then pairedOpener 0 (c :: before)
  else if c = '"' then stringStart before
  else some ((c :: before).dropWhile isToken).length

/-- The span of the form that ends nearest in front of `offset`. Inside a token the caret counts as
at the token's end. -/
def formBefore (t : Text) (offset : Nat) : Except Refusal Span :=
  let offset := t.tokenEnd (t.clamp offset)
  match t.solidBack offset with
  | [] => .error (.nothingBefore offset)
  | c :: before =>
      match formStart? c before with
      | none => .error .noForm
      | some start =>
          let stop := before.length + 1
          if start < stop then .ok ⟨start, stop⟩ else .error .noForm

end Text

end LispEditor
