import LispEditor.Toml.Lexical

set_option autoImplicit false
set_option relaxedAutoImplicit false

/-!
# Dates and times of TOML

A value may be a date, a time of day, or both with a capital or small t or a space between them.
Only with both it may have an offset from universal time. `DateTime.text` writes it in one standard
form.
-/

namespace LispEditor

namespace Toml

/-- A day of the calendar. -/
structure Date where
  year : Nat
  month : Nat
  day : Nat
  deriving DecidableEq, Repr

/-- A time of day, with the digits of a fraction of a second: nine at most, and no zero at the
end. -/
structure Time where
  hour : Nat
  minute : Nat
  second : Nat
  fraction : List Char
  deriving DecidableEq, Repr

/-- How far a clock is from universal time. -/
inductive Offset where
  | universal
  | ahead (negative : Bool) (hours minutes : Nat)
  deriving DecidableEq, Repr

/-- A date, a time or both. -/
inductive DateTime where
  | date (d : Date)
  | time (t : Time)
  | both (d : Date) (t : Time) (offset? : Option Offset)
  deriving DecidableEq, Repr

def isLeapYear (year : Nat) : Bool :=
  year % 4 == 0 && (year % 100 != 0 || year % 400 == 0)

def daysInMonth (year month : Nat) : Nat :=
  if month = 2 then if isLeapYear year then 29 else 28
  else if month = 4 || month = 6 || month = 9 || month = 11 then 30
  else 31

def isDecimal (c : Char) : Bool :=
  '0' ≤ c && c ≤ '9'

/-- Read a number of exactly `width` decimal digits that lies between two bounds. -/
def fixedNumber (width low high : Nat) : Reader Nat := fun cs =>
  let digits := cs.take width
  let n := digits.foldl (fun n c => 10 * n + (c.toNat - '0'.toNat)) 0
  if digits.length = width && digits.all isDecimal && low ≤ n && n ≤ high then
    some (n, cs.drop width)
  else none

def markedNumber (mark : Char) (width low high : Nat) : Reader Nat
  | [] => none
  | c :: rest => if c = mark then fixedNumber width low high rest else none

def date : Reader Date := fun cs => do
  let (year, rest) ← fixedNumber 4 0 9999 cs
  let (month, rest) ← markedNumber '-' 2 1 12 rest
  let (day, rest) ← markedNumber '-' 2 1 (daysInMonth year month) rest
  some (⟨year, month, day⟩, rest)

def fractionDigits (digits : List Char) : List Char :=
  ((digits.take 9).reverse.dropWhile (· == '0')).reverse

def fraction : Reader (List Char)
  | '.' :: rest =>
      match rest.takeWhile isDecimal with
      | [] => none
      | digits => some (fractionDigits digits, rest.dropWhile isDecimal)
  | cs => some ([], cs)

/-- Read a time of day. The seconds may be left out, and a minute may have a leap second. -/
def time : Reader Time := fun cs => do
  let (hour, rest) ← fixedNumber 2 0 23 cs
  let (minute, rest) ← markedNumber ':' 2 0 59 rest
  match rest with
  | ':' :: more => do
      let (second, rest) ← fixedNumber 2 0 60 more
      let (fraction, rest) ← fraction rest
      some (⟨hour, minute, second, fraction⟩, rest)
  | _ => some (⟨hour, minute, 0, []⟩, rest)

def offset? : List Char → Option Offset
  | ['Z'] => some .universal
  | ['z'] => some .universal
  | sign :: rest => do
      if sign = '+' || sign = '-' then
        let (hours, rest) ← fixedNumber 2 0 23 rest
        let (minutes, rest) ← markedNumber ':' 2 0 59 rest
        if rest.isEmpty then some (.ahead (sign == '-') hours minutes) else none
      else none
  | [] => none

def isTimeMark (c : Char) : Bool :=
  c == 'T' || c == 't' || c == ' '

def dateTime? (word : List Char) : Option DateTime :=
  match date word with
  | some (d, []) => some (.date d)
  | some (d, mark :: rest) => do
      if isTimeMark mark then
        let (t, rest) ← time rest
        if rest.isEmpty then some (.both d t none)
        else some (.both d t (some (← offset? rest)))
      else none
  | none =>
      match time word with
      | some (t, []) => some (.time t)
      | _ => none

def paddedNumber (width n : Nat) : String :=
  let digits := Nat.toDigits 10 n
  String.ofList (List.replicate (width - digits.length) '0' ++ digits)

def Date.text (d : Date) : String :=
  paddedNumber 4 d.year ++ "-" ++ paddedNumber 2 d.month ++ "-" ++ paddedNumber 2 d.day

/-- The time in its standard form: with seconds, and with a fraction unless it is zero. -/
def Time.text (t : Time) : String :=
  let fraction := if t.fraction.isEmpty then "" else "." ++ String.ofList t.fraction
  paddedNumber 2 t.hour ++ ":" ++ paddedNumber 2 t.minute ++ ":" ++ paddedNumber 2 t.second ++
    fraction

def Offset.text : Offset → String
  | universal => "Z"
  | ahead negative hours minutes =>
      let sign := if negative && hours + minutes != 0 then "-" else "+"
      sign ++ paddedNumber 2 hours ++ ":" ++ paddedNumber 2 minutes

def DateTime.text : DateTime → String
  | date d => d.text
  | time t => t.text
  | both d t none => d.text ++ "T" ++ t.text
  | both d t (some offset) => d.text ++ "T" ++ t.text ++ offset.text

end Toml

end LispEditor
