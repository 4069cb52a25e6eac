set_option autoImplicit false
set_option relaxedAutoImplicit false

/-!
# Floating-point numbers

A floating-point number has 53 bits of precision. `Binary64.ofDecimal` rounds a decimal number to
the nearest one, and `Binary64.text` writes the fewest digits that read back as the same number. Of
two such decimals the nearer one is written, and a tie goes away from zero. All arithmetic is exact,
on natural numbers.
-/

namespace LispEditor

/-- A floating-point number; a finite one has the magnitude `mantissa * 2 ^ exponent`. -/
inductive Binary64 where
  | finite (negative : Bool) (mantissa : Nat) (exponent : Int)
  | infinite (negative : Bool)
  | nan
  deriving DecidableEq, Repr

/-- A quotient of natural numbers. -/
structure Ratio where
  num : Nat
  den : Nat
  deriving DecidableEq, Repr

namespace Ratio

def scale (base : Nat) (x : Ratio) : Int → Ratio
  | .ofNat n => ⟨x.num * Nat.pow base n, x.den⟩
  | .negSucc n => ⟨x.num, x.den * Nat.pow base (n + 1)⟩

/-- The greatest natural number that is no more than the quotient. -/
def floor (x : Ratio) : Nat :=
  x.num / x.den

/-- The nearest natural number, an even one if two are equally near. -/
def nearest (x : Ratio) : Nat :=
  let whole := x.num / x.den
  let twice := 2 * (x.num % x.den)
  if twice < x.den then whole
  else if x.den < twice then whole + 1
  else whole + whole % 2

def lt (x y : Ratio) : Bool :=
  x.num * y.den < y.num * x.den

def distance (x y : Ratio) : Ratio :=
  ⟨(x.num * y.den - y.num * x.den) + (y.num * x.den - x.num * y.den), x.den * y.den⟩

end Ratio

namespace Binary64

def minExponent : Int := -1074

def maxExponent : Int := 971

def ofRatio (negative : Bool) (x : Ratio) : Binary64 :=
  let bits : Int := (x.num.log2 : Int) - (x.den.log2 : Int)
  let low := max (bits - 53) minExponent
  let exponent := if (x.scale 2 (-low)).floor < Nat.pow 2 53 then low else low + 1
  let mantissa := (x.scale 2 (-exponent)).nearest
  let (mantissa, exponent) :=
    if mantissa = Nat.pow 2 53 then (Nat.pow 2 52, exponent + 1) else (mantissa, exponent)
  if maxExponent < exponent then .infinite negative else .finite negative mantissa exponent

/-- The floating-point number nearest to `digits * 10 ^ exponent`. -/
def ofDecimal (negative : Bool) (digits : Nat) (exponent : Int) : Binary64 :=
  let places : Int := ((Nat.toDigits 10 digits).length : Int) + exponent
  if digits = 0 || places < -400 then .finite negative 0 minExponent
  else if 400 < places then .infinite negative
  else ofRatio negative (Ratio.scale 10 ⟨digits, 1⟩ exponent)

def magnitude (mantissa : Nat) (exponent : Int) : Ratio :=
  Ratio.scale 2 ⟨mantissa, 1⟩ exponent

/-- Whether a quotient rounds to the number `mantissa * 2 ^ exponent`. The numbers that do lie up to
half a unit away, or a quarter below a power of two, ends included if the mantissa is even. -/
def roundsTo (mantissa : Nat) (exponent : Int) (x : Ratio) : Bool :=
  let down := if mantissa = Nat.pow 2 52 && minExponent < exponent then 1 else 2
  let low := Ratio.scale 2 ⟨4 * mantissa - down, 4⟩ exponent
  let high := Ratio.scale 2 ⟨4 * mantissa + 2, 4⟩ exponent
  if mantissa % 2 = 0 then !x.lt low && !high.lt x else low.lt x && x.lt high

/-- The number of digits in front of the decimal point of `x`, less the zeros right behind the point
if there are none in front; `fuel` bounds these zeros. -/
def decimalPlaces (x : Ratio) : (fuel : Nat) → Int
  | 0 => 0
  | fuel + 1 =>
      if x.floor = 0 then decimalPlaces (x.scale 10 1) fuel - 1
      else ((Nat.toDigits 10 x.floor).length : Int)

/-- The decimal with `count` digits nearest to the number among those that round to it, the greater
one in magnitude if two are equally near. -/
def digitsWith (mantissa : Nat) (exponent places : Int) (count : Nat) : Option (Nat × Int) :=
  let x := magnitude mantissa exponent
  let unit := places - count
  let below := (x.scale 10 (-unit)).floor
  let fits := fun n => roundsTo mantissa exponent (Ratio.scale 10 ⟨n, 1⟩ unit)
  let away := fun n => x.distance (Ratio.scale 10 ⟨n, 1⟩ unit)
  match fits below, fits (below + 1) with
  | true, true => some (if (away below).lt (away (below + 1)) then below else below + 1, unit)
  | true, false => some (below, unit)
  | false, true => some (below + 1, unit)
  | false, false => none

/-- The fewest digits that read back as the number, and the power of ten of the last one. -/
def shortest (mantissa : Nat) (exponent : Int) : Nat × Int :=
  let places := decimalPlaces (magnitude mantissa exponent) 400
  ((List.range 17).findSome? fun n => digitsWith mantissa exponent places (n + 1)).getD (0, 0)

/-- The decimal `digits * 10 ^ unit` without an exponent, at least one digit on both sides of the
point. -/
def positional (digits : Nat) : (unit : Int) → String
  | .ofNat n => toString (digits * Nat.pow 10 n) ++ ".0"
  | .negSucc n =>
      let ds := Nat.toDigits 10 digits
      let ds := List.replicate (n + 2 - ds.length) '0' ++ ds
      let whole := ds.take (ds.length - (n + 1))
      let part := ((ds.drop (ds.length - (n + 1))).reverse.dropWhile (· == '0')).reverse
      String.ofList (whole ++ '.' :: if part.isEmpty then ['0'] else part)

def text : Binary64 → String
  | finite negative mantissa exponent =>
      let number :=
        if mantissa = 0 then "0.0"
        else
          let (digits, unit) := shortest mantissa exponent
          positional digits unit
      (if negative then "-" else "") ++ number
  | infinite negative => (if negative then "-" else "") ++ "inf"
  | nan => "NaN"

end Binary64

end LispEditor
