import TemplateTree.Binary
import TemplateTree.Decimal
import TemplateTree.Ty

namespace TemplateTree

/-- The value of a number literal. -/
inductive Number where
  | int (value : Int32)
  | long (value : Int64)
  | float (value : Float32)
  | double (value : Float)
deriving DecidableEq, Inhabited

/-- What a 32-bit floating-point number stands for. -/
def singleDatum (x : Float32) : Binary.Datum := Binary.single.decode x.toBits.toNat

/-- What a 64-bit floating-point number stands for. -/
def doubleDatum (x : Float) : Binary.Datum := Binary.double.decode x.toBits.toNat

/-- The 32-bit number nearest to a datum. -/
def singleOfDatum (datum : Binary.Datum) : Float32 := Float32.ofBits (UInt32.ofNat (Binary.single.encode datum))

/-- The 64-bit number nearest to a datum. -/
def doubleOfDatum (datum : Binary.Datum) : Float := Float.ofBits (UInt64.ofNat (Binary.double.encode datum))

/-- The 32-bit number nearest to an integer. -/
def singleOfInt (n : Int) : Float32 := Float32.ofBits (UInt32.ofNat (Binary.single.ofInt n))

/-- The 64-bit number nearest to an integer. -/
def doubleOfInt (n : Int) : Float := Float.ofBits (UInt64.ofNat (Binary.double.ofInt n))

namespace Number

/-- The primitive type that a literal of this width has by itself. -/
def naturalTy : Number → Ty
  | int _ => .int
  | long _ => .long
  | float _ => .float
  | double _ => .double

/-- The integer nearest to a datum toward zero, in 32 bits. -/
def int32OfDatum (datum : Binary.Datum) : Int32 := .ofInt (datum.clamp Int32.minValue.toInt Int32.maxValue.toInt)

/-- The integer nearest to a datum toward zero, in 64 bits. -/
def int64OfDatum (datum : Binary.Datum) : Int64 := .ofInt (datum.clamp Int64.minValue.toInt Int64.maxValue.toInt)

def toInt32 : Number → Int32
  | int value => value
  | long value => value.toInt32
  | float value => int32OfDatum (singleDatum value)
  | double value => int32OfDatum (doubleDatum value)

def toInt64 : Number → Int64
  | int value => value.toInt64
  | long value => value
  | float value => int64OfDatum (singleDatum value)
  | double value => int64OfDatum (doubleDatum value)

def toSingle : Number → Float32
  | int value => singleOfInt value.toInt
  | long value => singleOfInt value.toInt
  | float value => value
  | double value => singleOfDatum (doubleDatum value)

def toDouble : Number → Float
  | int value => doubleOfInt value.toInt
  | long value => doubleOfInt value.toInt
  | float value => doubleOfDatum (singleDatum value)
  | double value => value

/-- Negation in the same width. Negating the least integer wraps around to itself. -/
def negated : Number → Number
  | int value => int (-value)
  | long value => long (-value)
  | float value => float (-value)
  | double value => double (-value)

/-- A datum of a format with its shortest digits, without an exponent and without a point when there
    is no fraction. -/
def datumText (format : Binary.Format) : Binary.Datum → String
  | .nan => "NaN"
  | .infinite negative => (if negative then "-" else "") ++ "inf"
  | .finite negative mantissa exponent =>
    let narrowBelow := mantissa = Nat.pow 2 format.fractionBits && exponent ≠ format.minExponent
    let digits :=
      if mantissa = 0 then "0" else (Decimal.shortest .away mantissa exponent narrowBelow).positional
    (if negative then "-" else "") ++ digits

/-- The number as it is written in a template: all but plain integers end in a letter for their
    width. -/
def text : Number → String
  | int value => value.toInt.repr
  | long value => value.toInt.repr ++ "L"
  | float value => datumText Binary.single (singleDatum value) ++ "f"
  | double value => datumText Binary.double (doubleDatum value) ++ "d"

end Number

end TemplateTree
