set_option autoImplicit false
set_option relaxedAutoImplicit false

/-!
# Gaps, quoted texts and bare words of TOML

Readers take the characters that are left and give back what they read and what is left behind it,
or nothing if the text is not well formed.
-/

namespace LispEditor

namespace Toml

/-- A way to read a value off the front of a text. -/
abbrev Reader (α : Type) := List Char → Option (α × List Char)

def isGap (c : Char) : Bool :=
  c == ' ' || c == '\t'

/-- Whether `c` is a control character other than a tab, which only an escape can stand for. -/
def isControl (c : Char) : Bool :=
  (c.toNat < 0x20 && c != '\t') || c.toNat == 0x7F

def newline? : List Char → Option (List Char)
  | '\n' :: rest => some rest
  | '\r' :: '\n' :: rest => some rest
  | _ => none

/-- The text behind the rest of a comment, from its line ending on. -/
def afterComment : List Char → Option (List Char)
  | [] => some []
  | c :: rest =>
      if (newline? (c :: rest)).isSome then some (c :: rest)
      else if isControl c then none
      else afterComment rest

/-- The text behind the end of a line: blanks, perhaps a comment, and a line ending unless the text
ends. -/
def lineEnd (cs : List Char) : Option (List Char) :=
  let rest := match cs.dropWhile isGap with
    | '#' :: rest => afterComment rest
    | rest => some rest
  match rest with
  | some [] => some []
  | some rest => newline? rest
  | none => none

/-- The text behind blanks, line endings and comments; `comment` tells whether one has begun. -/
def skipGap : (comment : Bool) → List Char → Option (List Char)
  | _, [] => some []
  | _, '\n' :: rest => skipGap false rest
  | _, '\r' :: '\n' :: rest => skipGap false rest
  | true, c :: rest => if isControl c then none else skipGap true rest
  | false, c :: rest =>
      if isGap c then skipGap false rest
      else if c = '#' then skipGap true rest
      else some (c :: rest)

def hexDigit? (c : Char) : Option Nat :=
  if '0' ≤ c && c ≤ '9' then some (c.toNat - '0'.toNat)
  else if 'a' ≤ c && c ≤ 'f' then some (c.toNat - 'a'.toNat + 10)
  else if 'A' ≤ c && c ≤ 'F' then some (c.toNat - 'A'.toNat + 10)
  else none

def codePoint? (digits : List Char) : Option Char := do
  let n ← digits.foldlM (fun n c => (hexDigit? c).map (16 * n + ·)) 0
  if n.isValidChar then some (Char.ofNat n) else none

def escape? (c : Char) : Option Char :=
  if c = 'b' then some '\x08'
  else if c = 't' then some '\t'
  else if c = 'n' then some '\n'
  else if c = 'f' then some '\x0c'
  else if c = 'r' then some '\r'
  else if c = 'e' then some '\x1b'
  else if c = '"' then some '"'
  else if c = '\\' then some '\\'
  else none

def consRead (front : List Char) : Option (List Char × List Char) → Option (List Char × List Char)
  | some (read, rest) => some (front ++ read, rest)
  | none => none

def consCode (digits : List Char) (read : Option (List Char × List Char)) :
    Option (List Char × List Char) :=
  match codePoint? digits with
  | some c => consRead [c] read
  | none => none

def basicBody : Reader (List Char)
  | [] => none
  | '"' :: rest => some ([], rest)
  | '\\' :: 'x' :: a :: b :: rest => consCode [a, b] (basicBody rest)
  | '\\' :: 'u' :: a :: b :: c :: d :: rest => consCode [a, b, c, d] (basicBody rest)
  | '\\' :: 'U' :: a :: b :: c :: d :: e :: f :: g :: h :: rest =>
      consCode [a, b, c, d, e, f, g, h] (basicBody rest)
  | '\\' :: e :: rest =>
      match escape? e with
      | some c => consRead [c] (basicBody rest)
      | none => none
  | c :: rest => if isControl c || c = '\\' then none else consRead [c] (basicBody rest)

def literalBody : Reader (List Char)
  | [] => none
  | c :: rest =>
      if c = '\'' then some ([], rest)
      else if isControl c then none
      else consRead [c] (literalBody rest)

/-- Whether a backslash in front of the text joins two lines: only blanks are left in its line. -/
def joinsLines (cs : List Char) : Bool :=
  (newline? (cs.dropWhile isGap)).isSome

/-- Read a basic string of several lines behind its opening quotes. Two quotes may stand right in
front of the closing ones. After a backslash at the end of a line, `joining` tells to leave out the
blanks and line endings up to the next character. -/
def longBasicBody : (joining : Bool) → Reader (List Char)
  | _, [] => none
  | _, '"' :: '"' :: '"' :: '"' :: '"' :: rest => some (['"', '"'], rest)
  | _, '"' :: '"' :: '"' :: '"' :: rest => some (['"'], rest)
  | _, '"' :: '"' :: '"' :: rest => some ([], rest)
  | joining, '\n' :: rest =>
      if joining then longBasicBody true rest else consRead ['\n'] (longBasicBody false rest)
  | joining, '\r' :: '\n' :: rest =>
      if joining then longBasicBody true rest
      else consRead ['\r', '\n'] (longBasicBody false rest)
  | _, '\\' :: 'x' :: a :: b :: rest => consCode [a, b] (longBasicBody false rest)
  | _, '\\' :: 'u' :: a :: b :: c :: d :: rest =>
      consCode [a, b, c, d] (longBasicBody false rest)
  | _, '\\' :: 'U' :: a :: b :: c :: d :: e :: f :: g :: h :: rest =>
      consCode [a, b, c, d, e, f, g, h] (longBasicBody false rest)
  | _, '\\' :: e :: rest =>
      if joinsLines (e :: rest) then longBasicBody true (e :: rest)
      else
        match escape? e with
        | some c => consRead [c] (longBasicBody false rest)
        | none => none
  | joining, c :: rest =>
      if joining && isGap c then longBasicBody true rest
      else if isControl c || c = '\\' then none
      else consRead [c] (longBasicBody false rest)

/-- Read a literal string of several lines behind its opening quotes. Two quotes may stand right in
front of the closing ones. -/
def longLiteralBody : Reader (List Char)
  | [] => none
  | '\'' :: '\'' :: '\'' :: '\'' :: '\'' :: rest => some (['\'', '\''], rest)
  | '\'' :: '\'' :: '\'' :: '\'' :: rest => some (['\''], rest)
  | '\'' :: '\'' :: '\'' :: rest => some ([], rest)
  | '\r' :: '\n' :: rest => consRead ['\r', '\n'] (longLiteralBody rest)
  | c :: rest =>
      if isControl c && c != '\n' then none else consRead [c] (longLiteralBody rest)

def dropNewline (cs : List Char) : List Char :=
  (newline? cs).getD cs

def quoted : Reader (List Char)
  | '"' :: '"' :: '"' :: rest => longBasicBody false (dropNewline rest)
  | '\'' :: '\'' :: '\'' :: rest => longLiteralBody (dropNewline rest)
  | '"' :: rest => basicBody rest
  | '\'' :: rest => literalBody rest
  | _ => none

def isBare (c : Char) : Bool :=
  ('a' ≤ c && c ≤ 'z') || ('A' ≤ c && c ≤ 'Z') || ('0' ≤ c && c ≤ '9') || c == '_' || c == '-'

def simpleKey : Reader String
  | '"' :: rest => (basicBody rest).map fun (s, rest) => (String.ofList s, rest)
  | '\'' :: rest => (literalBody rest).map fun (s, rest) => (String.ofList s, rest)
  | cs =>
      match cs.takeWhile isBare with
      | [] => none
      | word => some (String.ofList word, cs.dropWhile isBare)

end Toml

end LispEditor
