import LispEditor.Toml.Lexical
import LispEditor.Toml.Value

set_option autoImplicit false
set_option relaxedAutoImplicit false

/-!
# Bare scalars of TOML

Booleans, integers, floating-point numbers, dates and times are words of letters, digits, signs,
points, colons and underscores. An underscore may stand between two digits of a number, and a single
space between a date and a time.
-/

namespace LispEditor

namespace Toml

def isScalar (c : Char) : Bool :=
  isBare c || c == '+' || c == '.' || c == ':'

/-- The values of the digits of a number in the given base, with single underscores between them;
`after` tells whether a digit stands in front. -/
def digitsFrom (base : Nat) : (after : Bool) → List Char → Option (List Nat)
  | after, [] => if after then some [] else none
  | after, c :: rest =>
      if c = '_' then if after then digitsFrom base false rest else none
      else
        match hexDigit? c with
        | some d => if d < base then (digitsFrom base true rest).map (d :: ·) else none
        | none => none

def ofDigits (base : Nat) (digits : List Nat) : Nat :=
  digits.foldl (fun n d => base * n + d) 0

def natural? (base : Nat) (word : List Char) : Option Nat :=
  (digitsFrom base false word).map (ofDigits base)

/-- The natural number of a word of decimal digits with no needless zero in front. -/
def decimal? (word : List Char) : Option Nat :=
  match word with
  | '0' :: _ :: _ => none
  | _ => natural? 10 word

def unsigned : List Char → Bool × List Char
  | '-' :: rest => (true, rest)
  | '+' :: rest => (false, rest)
  | word => (false, word)

/-- The integer, if it fits into 128 bits with a sign or without one. -/
def inRange? (n : Int) : Option Value :=
  if -(Nat.pow 2 127 : Int) ≤ n && n < (Nat.pow 2 128 : Int) then some (.integer n) else none

def integer? (word : List Char) : Option Value :=
  match word with
  | '0' :: 'x' :: digits => (natural? 16 digits).bind fun n => inRange? n
  | '0' :: 'o' :: digits => (natural? 8 digits).bind fun n => inRange? n
  | '0' :: 'b' :: digits => (natural? 2 digits).bind fun n => inRange? n
  | word =>
      let (negative, digits) := unsigned word
      (decimal? digits).bind fun n => inRange? (if negative then -n else n)

/-- The exponent of a floating-point number behind its mark; nothing there stands for zero. -/
def exponent? (word : List Char) : Option Int :=
  match word with
  | [] => some 0
  | _ :: word =>
      let (negative, digits) := unsigned word
      (natural? 10 digits).map fun n => if negative then -n else n

def isExponentMark (c : Char) : Bool :=
  c == 'e' || c == 'E'

/-- The floating-point number of a word: infinite, not a number, or decimal with a fraction, an
exponent or both. A decimal must not be too great. -/
def float? (word : List Char) : Option Value :=
  let (negative, digits) := unsigned word
  if digits = ['i', 'n', 'f'] then some (.float (.infinite negative))
  else if digits = ['n', 'a', 'n'] then some (.float .nan)
  else do
    let front := digits.takeWhile (!isExponentMark ·)
    let exponent ← exponent? (digits.dropWhile (!isExponentMark ·))
    let whole := front.takeWhile (· != '.')
    let n ← decimal? whole
    let (n, places) ← match front.dropWhile (· != '.') with
      | [] => if digits.any isExponentMark then some (n, 0) else none
      | _ :: fraction => do
          let ds ← digitsFrom 10 false fraction
          some (n * Nat.pow 10 ds.length + ofDigits 10 ds, ds.length)
    match Binary64.ofDecimal negative n (exponent - places) with
    | .infinite _ => none
    | x => some (.float x)

def scalar? (word : List Char) : Option Value :=
  if word = ['t', 'r', 'u', 'e'] then some (.boolean true)
  else if word = ['f', 'a', 'l', 's', 'e'] then some (.boolean false)
  else ((integer? word).or (float? word)).or ((dateTime? word).map .dateTime)

def scalarWord (cs : List Char) : List Char × List Char :=
  let word := cs.takeWhile isScalar
  match date word, cs.dropWhile isScalar with
  | some (_, []), ' ' :: rest =>
      if rest.head?.any isDecimal then
        (word ++ ' ' :: rest.takeWhile isScalar, rest.dropWhile isScalar)
      else (word, ' ' :: rest)
  | _, rest => (word, rest)

def scalar : Reader Value := fun cs =>
  let (word, rest) := scalarWord cs
  (scalar? word).map (·, rest)

end Toml

end LispEditor
