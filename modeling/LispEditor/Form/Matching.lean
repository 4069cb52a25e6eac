import LispEditor.Text.Basic
import LispEditor.Text.Delimiter

set_option autoImplicit false
set_option relaxedAutoImplicit false

/-!
# Matching of delimiters

A forward scan counts the delimiters of one kind and finds the closer of a list. A backward scan
counts the delimiters of all kinds together and finds the opener of the list around an offset. In a
well nested text an inner list is closed before the one around it, so one count is enough.
-/

namespace LispEditor

/-- A list in a text: its span, brackets included, and its kind. -/
structure Enclosure where
  span : Span
  delimiter : Delimiter
  deriving DecidableEq, Repr

namespace Text

/-- The offset past the first closer of kind `k` that closes nothing opened since; the characters
stand from offset `here` on and `depth` lists of the kind are open. -/
def matchFrom (k : Delimiter) : (depth here : Nat) → List Char → Option Nat
  | _, _, [] => none
  | depth, here, c :: rest =>
      if c = k.opener then matchFrom k (depth + 1) (here + 1) rest
      else if c = k.closer then
        match depth with
        | 0 => some (here + 1)
        | depth + 1 => matchFrom k depth (here + 1) rest
      else matchFrom k depth (here + 1) rest

/-- The offset past the closer of the list of kind `k` that begins at `start`. -/
def matchForward? (t : Text) (start : Nat) (k : Delimiter) : Option Nat :=
  matchFrom k 0 (start + 1) (t.drop (start + 1))

/-- The offset of the first opener, going backward, that is not closed on the way. The characters
are given nearest first, and `balance` closers wait for their openers. -/
def unpairedOpener : (balance : Nat) → List Char → Option Nat
  | _, [] => none
  | balance, c :: before =>
      if isCloser c then unpairedOpener (balance + 1) before
      else if isOpener c then
        match balance with
        | 0 => some before.length
        | balance + 1 => unpairedOpener balance before
      else unpairedOpener balance before

/-- The offset of the nearest opener in front of `offset` that is still open there. -/
def openBefore? (t : Text) (offset : Nat) : Option Nat :=
  unpairedOpener 0 (t.take offset).reverse

/-- The innermost list with `offset` behind its opener and in front of its end. -/
def enclosing? (t : Text) (offset : Nat) : Option Enclosure := do
  let start ← t.openBefore? (t.clamp offset)
  let kind ← Delimiter.ofOpener? (← t[start]?)
  let stop ← t.matchForward? start kind
  if stop < t.clamp offset then none else some ⟨⟨start, stop⟩, kind⟩

end Text

end LispEditor
