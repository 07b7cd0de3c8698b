import TemplateTree.Json.Dialect
import TemplateTree.Number

namespace TemplateTree

namespace Numeral

/-- A power of ten that a 64-bit floating-point number can hold. -/
def powerOfTen (n : Nat) : Float := Float.ofScientific 1 false n

/-- The greatest exponent of such a power. -/
def maxPower : Nat := 308

/-- Scales a significand by a power of ten. Too large a number has no value, too small a number is
    zero. -/
def scaled? (significand : Float) (exponent : Int) : Option Float :=
  if 0 ≤ exponent then
    if exponent ≤ maxPower then
      let x := significand * powerOfTen exponent.toNat
      if x.isInf then none else some x
    else if significand == 0 then some significand
    else none
  else if -exponent ≤ maxPower then some (significand / powerOfTen (-exponent).toNat)
  else
    let x := significand / powerOfTen maxPower
    if -exponent ≤ 2 * maxPower then some (x / powerOfTen (-exponent - maxPower).toNat)
    else some (x / powerOfTen maxPower)

/-- The floating-point number of a numeral that stands for no integer, unless it is too large. -/
def real? (numeral : Numeral) : Option Float :=
  let (significand, beyond) := accumulate 0 numeral.whole
  let signed := fun (x : Float) => if numeral.negative then -x else x
  if numeral.fraction.isEmpty && numeral.exponent?.isNone && beyond.isEmpty then
    some (signed (doubleOfInt significand))
  else
    let (significand, dropped) := accumulate significand numeral.fraction
    let places : Int := (numeral.fraction.length : Int) - dropped.length
    (scaled? (doubleOfInt significand) (beyond.length - places + numeral.exponent?.getD 0)).map signed

/-- The 64-bit floating-point number that a numeral stands for. -/
def double? (numeral : Numeral) : Option Float :=
  match numeral.integer? with
  | some n => some (doubleOfInt n)
  | none => numeral.real?

/-- The 32-bit floating-point number that a numeral stands for: the one nearest to the integer or to
    the 64-bit number. -/
def single? (numeral : Numeral) : Option Float32 :=
  match numeral.integer? with
  | some n => some (singleOfInt n)
  | none => numeral.real?.map fun x => singleOfDatum (doubleDatum x)

/-- Between which powers of ten a floating-point number is written without an exponent. -/
structure Positional where
  above : Int
  upTo : Int

/-- Numbers of 64 bits have an exponent from `1e16` up and below `1e-5`. -/
def doublePositional : Positional := ⟨-5, 16⟩

/-- Numbers of 32 bits have an exponent from `1e13` up and below `1e-6`. -/
def singlePositional : Positional := ⟨-6, 13⟩

/-- A decimal with its digits around the point, or with one digit before the point and an exponent.
    -/
def ofDecimal (positional : Positional) (negative : Bool) (decimal : Decimal) : Numeral :=
  let digits := digitsOf decimal.digits
  let zeros := fun n => List.replicate n Digit.zero
  let point : Int := digits.length + decimal.exponent
  if 0 ≤ decimal.exponent && point ≤ positional.upTo then
    ⟨negative, digits ++ zeros decimal.exponent.toNat, [Digit.zero], none⟩
  else if 0 < point && point ≤ positional.upTo then
    ⟨negative, digits.take point.toNat, digits.drop point.toNat, none⟩
  else if positional.above < point && point ≤ 0 then
    ⟨negative, [Digit.zero], zeros (-point).toNat ++ digits, none⟩
  else ⟨negative, digits.take 1, digits.drop 1, some (point - 1)⟩

/-- The numeral of a finite number of a format. -/
def ofDatum? (format : Binary.Format) (positional : Positional) : Binary.Datum → Option Numeral
  | .finite negative mantissa exponent =>
    if mantissa = 0 then some ⟨negative, [Digit.zero], [Digit.zero], none⟩
    else
      let narrowBelow := mantissa = Nat.pow 2 format.fractionBits && exponent ≠ format.minExponent
      some (ofDecimal positional negative (Decimal.shortest .even mantissa exponent narrowBelow))
  | _ => none

def ofDouble? (x : Float) : Option Numeral := ofDatum? Binary.double doublePositional (doubleDatum x)

def ofSingle? (x : Float32) : Option Numeral := ofDatum? Binary.single singlePositional (singleDatum x)

end Numeral

namespace Json.Coding

/-- Numbers that are written as numerals, as far as they have one. -/
def ofNumeral {α : Type} (numeral? : α → Option Numeral) (value? : Numeral → Option α) : Coding α where
  encode x := (numeral? x).elim null num
  decode?
    | num numeral => value? numeral
    | _ => none

end Json.Coding

/-- Floating-point numbers as decimals with the fewest digits, which leaves out infinities. -/
def RealForm.decimal : RealForm where
  single := .ofNumeral Numeral.ofSingle? Numeral.single?
  double := .ofNumeral Numeral.ofDouble? Numeral.double?
  isReal numeral := numeral.real?.isSome

end TemplateTree
