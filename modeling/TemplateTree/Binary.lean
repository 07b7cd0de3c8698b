namespace TemplateTree.Binary

/-- A binary interchange format: one sign bit, then the exponent, then the fraction. -/
structure Format where
  exponentBits : Nat
  fractionBits : Nat

/-- The 32-bit format. -/
def single : Format := ⟨8, 23⟩

/-- The 64-bit format. -/
def double : Format := ⟨11, 52⟩

/-- What a word of a format stands for. The number `mantissa * 2 ^ exponent` is zero when its
    mantissa is. -/
inductive Datum where
  | nan
  | infinite (negative : Bool)
  | finite (negative : Bool) (mantissa : Nat) (exponent : Int)
deriving DecidableEq

namespace Format

variable (format : Format)

/-- The least exponent that a mantissa can have, which is the exponent of all subnormal numbers. -/
def minExponent : Int := 3 - Nat.pow 2 (format.exponentBits - 1) - (format.fractionBits + 1)

/-- The bits of the sign. -/
def signBits (negative : Bool) : Nat :=
  if negative then Nat.pow 2 (format.exponentBits + format.fractionBits) else 0

/-- The word of positive infinity. -/
def infinityBits : Nat := (Nat.pow 2 format.exponentBits - 1) * Nat.pow 2 format.fractionBits

/-- The quiet word that stands for every result that is not a number. -/
def nanBits : Nat := format.infinityBits + Nat.pow 2 (format.fractionBits - 1)

/-- The number a word stands for. -/
def decode (bits : Nat) : Datum :=
  let fraction := bits % Nat.pow 2 format.fractionBits
  let biased := bits / Nat.pow 2 format.fractionBits % Nat.pow 2 format.exponentBits
  let negative := bits / Nat.pow 2 (format.exponentBits + format.fractionBits) % 2 = 1
  if biased = Nat.pow 2 format.exponentBits - 1 then
    if fraction = 0 then .infinite negative else .nan
  else if biased = 0 then .finite negative fraction format.minExponent
  else .finite negative (Nat.pow 2 format.fractionBits + fraction) (format.minExponent + (biased - 1))

/-- The quotient by a power of two, to the nearest integer and to the even one of two equally near.
    -/
def shiftRight (mantissa shift : Nat) : Nat :=
  let quotient := mantissa / Nat.pow 2 shift
  let twice := 2 * (mantissa % Nat.pow 2 shift)
  if twice < Nat.pow 2 shift then quotient
  else if twice = Nat.pow 2 shift then quotient + quotient % 2
  else quotient + 1

/-- The word nearest to `mantissa * 2 ^ exponent`, ties to even; infinite beyond the largest finite
    number. A mantissa with its leading bit carries one into the exponent field, which also covers a
    mantissa that rounds up to the next power of two. -/
def round (negative : Bool) (mantissa : Nat) (exponent : Int) : Nat :=
  if mantissa = 0 then format.signBits negative
  else
    let least := exponent + (mantissa.log2 + 1 : Nat) - (format.fractionBits + 1 : Nat)
    let target := max format.minExponent least
    let rounded :=
      if target ≤ exponent then mantissa * Nat.pow 2 (exponent - target).toNat
      else shiftRight mantissa (target - exponent).toNat
    let bits := (target - format.minExponent).toNat * Nat.pow 2 format.fractionBits + rounded
    format.signBits negative + min bits format.infinityBits

/-- The word nearest to a datum of another format. -/
def encode : Datum → Nat
  | .nan => format.nanBits
  | .infinite negative => format.signBits negative + format.infinityBits
  | .finite negative mantissa exponent => format.round negative mantissa exponent

/-- The word nearest to an integer. -/
def ofInt (n : Int) : Nat := format.round (n < 0) n.natAbs 0

end Format

namespace Datum

/-- The integer part of a datum, moved to the nearest end of a range when it lies outside; zero when
    it is not a number. -/
def clamp (lo hi : Int) : Datum → Int
  | nan => 0
  | infinite negative => if negative then lo else hi
  | finite negative mantissa exponent =>
    let magnitude : Nat :=
      if 0 ≤ exponent then mantissa * Nat.pow 2 exponent.toNat else mantissa / Nat.pow 2 (-exponent).toNat
    max lo (min hi (if negative then -(magnitude : Int) else magnitude))

/-- The remainder of a division truncated toward zero, with the sign of the dividend. It is exact:
    of the two exponents the smaller one serves both numbers, and the remainder is no larger than
    either mantissa. -/
def remainder : Datum → Datum → Datum
  | nan, _ => nan
  | infinite _, _ => nan
  | finite .., nan => nan
  | finite negative mantissa exponent, infinite _ => finite negative mantissa exponent
  | finite negative mantissa exponent, finite _ divisor divisorExponent =>
    if divisor = 0 then nan
    else
      let least := min exponent divisorExponent
      finite negative
        (mantissa * Nat.pow 2 (exponent - least).toNat % (divisor * Nat.pow 2 (divisorExponent - least).toNat)) least

end Datum

end TemplateTree.Binary
