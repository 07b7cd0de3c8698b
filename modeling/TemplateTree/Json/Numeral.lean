import TemplateTree.Decimal
import TemplateTree.Json

namespace TemplateTree

namespace Numeral

/-- The digits of a natural number. -/
def digitsOf (n : Nat) : List Digit := (Decimal.digitChars n).map Digit.ofChar

def ofNat (n : Nat) : Numeral := ⟨false, digitsOf n, [], none⟩

def ofInt (n : Int) : Numeral := ⟨n < 0, digitsOf n.natAbs, [], none⟩

/-- The largest number of a 64-bit word. -/
def wordMax : Nat := UInt64.size - 1

/-- Appends digits to a number as long as it fits a word, and returns the digits that are left. -/
def accumulate (significand : Nat) : List Digit → Nat × List Digit
  | [] => (significand, [])
  | digit :: rest =>
    if wordMax < significand * 10 + digit then (significand, digit :: rest)
    else accumulate (significand * 10 + digit) rest

/-- The integer that a numeral stands for, if it is one that fits a word. Negative zero is not an integer. -/
def integer? (numeral : Numeral) : Option Int :=
  let (significand, beyond) := accumulate 0 numeral.whole
  if numeral.fraction.isEmpty && numeral.exponent?.isNone && beyond.isEmpty then
    if !numeral.negative then some significand
    else if significand = 0 || Nat.pow 2 63 < significand then none
    else some (-significand)
  else none

def digitText (digits : List Digit) : String :=
  String.ofList (digits.map fun digit => Char.ofNat ('0'.toNat + digit.val))

/-- An exponent with its sign, which is written for a positive one too. -/
def exponentText (exponent : Int) : String :=
  "e" ++ (if exponent < 0 then "-" else "+") ++ exponent.natAbs.repr

/-- The numeral as JSON text. -/
def text (numeral : Numeral) : String :=
  (if numeral.negative then "-" else "") ++ digitText numeral.whole ++
    (if numeral.fraction.isEmpty then "" else "." ++ digitText numeral.fraction) ++
    (numeral.exponent?.map exponentText).getD ""

end Numeral

end TemplateTree
