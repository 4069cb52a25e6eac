import LispEditor.Toml.Lexical

set_option autoImplicit false
set_option relaxedAutoImplicit false

/-!
# Writing keys and strings of TOML

A key or a string is written in the plainest form that can hold it: without quotes, between quotes,
between quotes that know no escapes, over several lines, and only then with escapes.
-/

namespace LispEditor

namespace Toml

def hexDigit (n : Nat) : Char :=
  if n < 10 then Char.ofNat ('0'.toNat + n) else Char.ofNat ('A'.toNat + n - 10)

/-- The escape of a control character, a tab or a backslash; any other character stands for
itself. -/
def writeChar (c : Char) : List Char :=
  if c = '\x08' then ['\\', 'b']
  else if c = '\t' then ['\\', 't']
  else if c = '\x0c' then ['\\', 'f']
  else if c = '\r' then ['\\', 'r']
  else if c = '\n' then ['\\', 'n']
  else if c = '\\' then ['\\', '\\']
  else if isControl c then
    ['\\', 'u', '0', '0', hexDigit (c.toNat / 16), hexDigit (c.toNat % 16)]
  else [c]

def basicChars (cs : List Char) : List Char :=
  cs.flatMap fun c => if c = '"' then ['\\', '"'] else writeChar c

/-- The characters between the quotes of a basic string of several lines. Line feeds stand for
themselves, and so do quotes unless `quotes` of them, two, stand right in front. -/
def longBasicChars : (quotes : Nat) → List Char → List Char
  | _, [] => []
  | quotes, c :: rest =>
      if c = '"' then
        if quotes < 2 then '"' :: longBasicChars (quotes + 1) rest
        else '\\' :: '"' :: longBasicChars 0 rest
      else if c = '\n' then '\n' :: longBasicChars 0 rest
      else writeChar c ++ longBasicChars 0 rest

/-- The length of the longest run of `q` in a text, of which `run` stand right in front and `best`
is the length of the longest one so far. -/
def longestRun (q : Char) : (run best : Nat) → List Char → Nat
  | run, best, [] => max run best
  | run, best, c :: rest =>
      if c = q then longestRun q (run + 1) best rest else longestRun q 0 (max run best) rest

def fewInARow (q : Char) (cs : List Char) : Bool :=
  longestRun q 0 0 cs ≤ 2

def isOneLine (cs : List Char) : Bool :=
  cs.all (!isControl ·)

/-- Whether a text has no control character but tabs and line feeds. -/
def isLines (cs : List Char) : Bool :=
  cs.all fun c => !isControl c || c == '\n'

def fitsBasic (cs : List Char) : Bool :=
  isOneLine cs && !cs.contains '\\' && !cs.contains '"'

def fitsLiteral (cs : List Char) : Bool :=
  isOneLine cs && !cs.contains '\''

/-- Whether a basic string of several lines can hold the text without escapes. -/
def fitsLongBasic (cs : List Char) : Bool :=
  isLines cs && !cs.contains '\\' && fewInARow '"' cs

def fitsLongLiteral (cs : List Char) : Bool :=
  isLines cs && fewInARow '\'' cs

def writeBasic (cs : List Char) : List Char :=
  '"' :: basicChars cs ++ ['"']

def writeLiteral (cs : List Char) : List Char :=
  '\'' :: cs ++ ['\'']

/-- The line feed behind the opening quotes of a text of several lines. -/
def firstBreak (cs : List Char) : List Char :=
  if cs.contains '\n' then ['\n'] else []

def writeLongBasic (cs : List Char) : List Char :=
  ['"', '"', '"'] ++ firstBreak cs ++ longBasicChars 0 cs ++ ['"', '"', '"']

def writeLongLiteral (cs : List Char) : List Char :=
  ['\'', '\'', '\''] ++ firstBreak cs ++ cs ++ ['\'', '\'', '\'']

def writeString (cs : List Char) : List Char :=
  if fitsBasic cs then writeBasic cs
  else if fitsLiteral cs then writeLiteral cs
  else if fitsLongBasic cs then writeLongBasic cs
  else if fitsLongLiteral cs then writeLongLiteral cs
  else if cs.contains '\n' then writeLongBasic cs
  else writeBasic cs

def fitsBare (cs : List Char) : Bool :=
  !cs.isEmpty && cs.all isBare

def writeKey (cs : List Char) : List Char :=
  if fitsBare cs then cs
  else if fitsBasic cs then writeBasic cs
  else if fitsLiteral cs then writeLiteral cs
  else writeBasic cs

end Toml

end LispEditor
