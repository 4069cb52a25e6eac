import LispEditor.Character.Printable

set_option autoImplicit false
set_option relaxedAutoImplicit false

/-!
# Quoted texts in messages

A message shows a text between double quotes. Quotes, backslashes and characters without a glyph of
their own are escaped.
-/

namespace LispEditor

/-- The escape that names the code point of `c` in hexadecimal digits. -/
def codeEscape (c : Char) : List Char :=
  '\\' :: 'u' :: '{' :: Nat.toDigits 16 c.toNat ++ ['}']

def quoteChar (c : Char) : List Char :=
  if c = '\x00' then ['\\', '0']
  else if c = '\t' then ['\\', 't']
  else if c = '\r' then ['\\', 'r']
  else if c = '\n' then ['\\', 'n']
  else if c = '\\' then ['\\', '\\']
  else if c = '"' then ['\\', '"']
  else if isPrintable c then [c]
  else codeEscape c

def quoteText (s : String) : String :=
  String.ofList ('"' :: s.toList.flatMap quoteChar ++ ['"'])

end LispEditor
