import LispEditor.Character.Blank

set_option autoImplicit false
set_option relaxedAutoImplicit false

/-!
# Delimiters and token characters

A list is written between one of three pairs of brackets. Every character is a blank, an opener,
a closer, a double quote or a token character, and only one of these.
-/

namespace LispEditor

/-- A pair of brackets around a list. -/
inductive Delimiter where
  | paren
  | bracket
  | brace
  deriving DecidableEq, Repr

namespace Delimiter

def opener : Delimiter → Char
  | paren => '('
  | bracket => '['
  | brace => '{'

def closer : Delimiter → Char
  | paren => ')'
  | bracket => ']'
  | brace => '}'

def ofOpener? (c : Char) : Option Delimiter :=
  if c = '(' then some paren
  else if c = '[' then some bracket
  else if c = '{' then some brace
  else none

def ofCloser? (c : Char) : Option Delimiter :=
  if c = ')' then some paren
  else if c = ']' then some bracket
  else if c = '}' then some brace
  else none

end Delimiter

def isOpener (c : Char) : Bool :=
  (Delimiter.ofOpener? c).isSome

def isCloser (c : Char) : Bool :=
  (Delimiter.ofCloser? c).isSome

/-- Whether `c` can stand in a symbol, a number or a keyword. -/
def isToken (c : Char) : Bool :=
  !isBlank c && !isOpener c && !isCloser c && c != '"'

end LispEditor
