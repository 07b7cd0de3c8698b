namespace TemplateTree

/-- The number `digits * 10 ^ exponent`. -/
structure Decimal where
  digits : Nat
  exponent : Int
deriving DecidableEq

namespace Decimal

/-- Which of two decimals to take that are equally near. -/
inductive Tie where
  | away
  | even

/-- The real numbers that round to a given positive binary number, as numerators over one
    denominator. Its ends belong to it when the mantissa is even. -/
structure Interval where
  lower : Nat
  middle : Nat
  upper : Nat
  denominator : Nat
  closed : Bool

/-- The interval around `mantissa * 2 ^ exponent`. Its lower end is half as far when the number
    below has the next smaller exponent. -/
def Interval.around (mantissa : Nat) (exponent : Int) (narrowBelow : Bool) : Interval :=
  let scale := Nat.pow 2 (exponent - 2).toNat
  { lower := (4 * mantissa - if narrowBelow then 1 else 2) * scale
    middle := 4 * mantissa * scale
    upper := (4 * mantissa + 2) * scale
    denominator := Nat.pow 2 (2 - exponent).toNat
    closed := mantissa % 2 = 0 }

/-- The decimal digits of a number, most significant first. -/
def digitChars (n : Nat) : List Char := Nat.toDigits 10 n

def digitCount (n : Nat) : Nat := (digitChars n).length

/-- The exponent `e` with `10 ^ (e - 1) ≤ middle < 10 ^ e`. -/
def Interval.magnitude (interval : Interval) : Int :=
  let guess : Int := (digitCount interval.middle : Int) - digitCount interval.denominator
  if interval.denominator * Nat.pow 10 guess.toNat ≤ interval.middle * Nat.pow 10 (-guess).toNat then guess + 1
  else guess

/-- Whether `digits * 10 ^ exponent` lies in an interval. -/
def Interval.contains (interval : Interval) (decimal : Decimal) : Bool :=
  let value := decimal.digits * Nat.pow 10 decimal.exponent.toNat * interval.denominator
  let scale := Nat.pow 10 (-decimal.exponent).toNat
  if interval.closed then interval.lower * scale ≤ value && value ≤ interval.upper * scale
  else interval.lower * scale < value && value < interval.upper * scale

/-- The best decimal of an interval on the grid of multiples of `10 ^ exponent`: one of the two
    neighbours of the middle. -/
def Interval.onGrid? (interval : Interval) (tie : Tie) (exponent : Int) : Option Decimal :=
  let numerator := interval.middle * Nat.pow 10 (-exponent).toNat
  let denominator := interval.denominator * Nat.pow 10 exponent.toNat
  let below := numerator / denominator
  let twice := 2 * (numerator % denominator)
  let preferAbove : Bool :=
    if twice = denominator then
      match tie with
      | .away => true
      | .even => below % 2 = 1
    else denominator < twice
  let (first, second) := if preferAbove then (below + 1, below) else (below, below + 1)
  if interval.contains ⟨first, exponent⟩ then some ⟨first, exponent⟩
  else if interval.contains ⟨second, exponent⟩ then some ⟨second, exponent⟩
  else none

/-- Drops up to `count` trailing zeros. -/
def dropZeros : Nat → Decimal → Decimal
  | 0, decimal => decimal
  | count + 1, decimal =>
    if decimal.digits % 10 = 0 then dropZeros count ⟨decimal.digits / 10, decimal.exponent + 1⟩ else decimal

/-- The most digits that a 64-bit number can need. -/
def maxDigits : Nat := 17

/-- The shortest decimal that rounds to `mantissa * 2 ^ exponent`, for a positive mantissa. -/
def shortest (tie : Tie) (mantissa : Nat) (exponent : Int) (narrowBelow : Bool) : Decimal :=
  let interval := Interval.around mantissa exponent narrowBelow
  let magnitude := interval.magnitude
  let found := (List.range maxDigits).findSome? fun n => interval.onGrid? tie (magnitude - (n + 1 : Nat))
  (found.getD ⟨0, 0⟩).dropZeros maxDigits

/-- The digits without an exponent: zeros fill the places up to the point or after it. -/
def positional (decimal : Decimal) : String :=
  let digits := digitChars decimal.digits
  let zeros := fun n => List.replicate n '0'
  if 0 ≤ decimal.exponent then String.ofList (digits ++ zeros decimal.exponent.toNat)
  else
    let places := (-decimal.exponent).toNat
    if digits.length ≤ places then String.ofList ('0' :: '.' :: (zeros (places - digits.length) ++ digits))
    else
      let whole := digits.length - places
      String.ofList (digits.take whole ++ '.' :: digits.drop whole)

end Decimal

end TemplateTree
