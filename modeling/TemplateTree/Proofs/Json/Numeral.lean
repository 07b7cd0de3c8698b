import Mathlib.Algebra.Group.Int.Defs
import Mathlib.Algebra.Group.Nat.Defs
import TemplateTree.Document.Decode

namespace TemplateTree

namespace Digit

theorem val_ofChar {c : Char} (h : c.isDigit) : (ofChar c).val = c.toNat - '0'.toNat := by
  have hbounds : 48 ≤ c.toNat ∧ c.toNat ≤ 57 := by
    simpa [Char.isDigit, UInt32.le_iff_toNat_le] using h
  have hsmall : c.toNat - '0'.toNat < 10 := by
    simp only [Char.reduceToNat]
    omega
  exact Nat.mod_eq_of_lt hsmall

end Digit

namespace Numeral

/-- The number that digits stand for when they follow those of `start`. -/
def valueFrom (start : Nat) (digits : List Digit) : Nat := digits.foldl (fun n digit => n * 10 + digit.val) start

theorem valueFrom_append (start : Nat) (front back : List Digit) :
    valueFrom start (front ++ back) = valueFrom (valueFrom start front) back := List.foldl_append

theorem le_valueFrom (start : Nat) (digits : List Digit) : start ≤ valueFrom start digits := by
  induction digits generalizing start with
  | nil => exact Nat.le_refl start
  | cons digit rest ih =>
    calc start ≤ start * 10 + digit.val := by omega
      _ ≤ valueFrom (start * 10 + digit.val) rest := ih _

theorem valueFrom_map_ofChar {cs : List Char} (h : ∀ c ∈ cs, c.isDigit) (start : Nat) :
    valueFrom start (cs.map Digit.ofChar) = Nat.ofDigitChars 10 cs start := by
  induction cs generalizing start with
  | nil => rfl
  | cons c rest ih =>
    obtain ⟨hc, hrest⟩ := List.forall_mem_cons.1 h
    rw [Nat.ofDigitChars_cons, ← ih hrest, ← Digit.val_ofChar hc, Nat.mul_comm]
    rfl

theorem valueFrom_digitsOf (n : Nat) : valueFrom 0 (digitsOf n) = n := by
  have hdigits : ∀ c ∈ Nat.toDigits 10 n, c.isDigit := fun c hc =>
    Nat.isDigit_of_mem_toDigits (by decide) (by decide) hc
  rw [digitsOf, Decimal.digitChars, valueFrom_map_ofChar hdigits, Nat.ofDigitChars_ten_toDigits]

theorem valueFrom_lt (start : Nat) (digits : List Digit) :
    valueFrom start digits < (start + 1) * 10 ^ digits.length := by
  induction digits generalizing start with
  | nil => simp [valueFrom]
  | cons digit rest ih =>
    have hdigit : start * 10 + digit.val + 1 ≤ (start + 1) * 10 := by omega
    calc valueFrom (start * 10 + digit.val) rest < (start * 10 + digit.val + 1) * 10 ^ rest.length := ih _
      _ ≤ (start + 1) * 10 * 10 ^ rest.length := Nat.mul_le_mul_right _ hdigit
      _ = (start + 1) * 10 ^ (rest.length + 1) := by rw [Nat.pow_succ', Nat.mul_assoc]

/-- A numeral as the grammar has it: there is a digit before the point, and a zero there stands
    alone. -/
def WellFormed (numeral : Numeral) : Prop :=
  numeral.whole ≠ [] ∧ ∀ rest, numeral.whole = Digit.zero :: rest → rest = []

theorem digitsOf_ne_nil (n : Nat) : digitsOf n ≠ [] := by
  simp [digitsOf, Decimal.digitChars]

/-- The digits of a number start with a zero only if the number is zero. -/
theorem eq_nil_of_digitsOf_eq_zero_cons {n : Nat} {rest : List Digit} (h : digitsOf n = Digit.zero :: rest) :
    n = 0 ∧ rest = [] := by
  have hvalue : valueFrom 0 rest = n := by
    rw [← valueFrom_digitsOf n, h]
    rfl
  have hlength : (Nat.toDigits 10 n).length = rest.length + 1 := by
    simpa [digitsOf, Decimal.digitChars] using congrArg List.length h
  by_cases hrest : rest = []
  · subst hrest
    exact ⟨hvalue.symm, rfl⟩
  · have hless : n < 10 ^ rest.length := by simpa [hvalue] using valueFrom_lt 0 rest
    have hle := (Nat.length_toDigits_le_iff (by decide) (List.length_pos_iff.2 hrest)).2 hless
    omega

theorem wellFormed_ofInt (n : Int) : (ofInt n).WellFormed :=
  ⟨digitsOf_ne_nil _, fun _ h => (eq_nil_of_digitsOf_eq_zero_cons h).2⟩

/-- No digit is left over when the whole number fits a word. -/
theorem accumulate_eq_of_le {start : Nat} {digits : List Digit} (h : valueFrom start digits ≤ wordMax) :
    accumulate start digits = (valueFrom start digits, []) := by
  induction digits generalizing start with
  | nil => rfl
  | cons digit rest ih =>
    have hfits : start * 10 + digit.val ≤ wordMax := Nat.le_trans (le_valueFrom _ rest) h
    rw [accumulate, if_neg (Nat.not_lt.2 hfits)]
    exact ih h

theorem accumulate_digitsOf {n : Nat} (h : n ≤ wordMax) : accumulate 0 (digitsOf n) = (n, []) := by
  have hvalue := valueFrom_digitsOf n
  rw [accumulate_eq_of_le (by rwa [hvalue]), hvalue]

/-- Whole numbers of a word are read back from their digits, and so are negative ones down to the
    least signed word. -/
theorem integer?_ofInt {n : Int} (hlo : -(2 ^ 63) ≤ n) (hhi : n ≤ wordMax) : (ofInt n).integer? = some n := by
  have hfits : n.natAbs ≤ wordMax := by
    have : wordMax = 2 ^ 64 - 1 := rfl
    omega
  rw [integer?, ofInt, accumulate_digitsOf hfits]
  generalize hmagnitude : n.natAbs = magnitude
  by_cases hneg : n < 0
  · have hzero : magnitude ≠ 0 := by omega
    have hvalue : -(magnitude : Int) = n := by omega
    simp [hneg, hzero, hvalue]
    omega
  · have hvalue : (magnitude : Int) = n := by omega
    simp [hneg, hvalue]

theorem ofNat_eq_ofInt (n : Nat) : ofNat n = ofInt n := by
  have hpos : ¬ (n : Int) < 0 := by omega
  simp [ofNat, ofInt, hpos]

end Numeral

namespace Json

variable {form : RealForm} {lo hi n : Int}

theorem isReadable_ofInt (hlo : -(2 ^ 63) ≤ n) (hhi : n ≤ Numeral.wordMax) : (ofInt n).isReadable form := by
  rw [ofInt, isReadable, Numeral.integer?_ofInt hlo hhi]
  rfl

theorem integer?_ofInt (hlo : lo ≤ n) (hhi : n ≤ hi) (hleast : -(2 ^ 63) ≤ lo) (hmost : hi ≤ Numeral.wordMax) :
    (ofInt n).integer? lo hi = some n := by
  have hinteger := Numeral.integer?_ofInt (Int.le_trans hleast hlo) (Int.le_trans hhi hmost)
  simp [ofInt, integer?, hinteger, Option.filter, hlo, hhi]

theorem ofNat_eq_ofInt (n : Nat) : ofNat n = ofInt n := congrArg num (Numeral.ofNat_eq_ofInt n)

theorem word?_ofNat (n : UInt64) : (ofNat n.toNat).word? = some n := by
  have hmost : (n.toNat : Int) ≤ UInt64.size - 1 := by
    have := n.toNat_lt
    have : UInt64.size = 2 ^ 64 := rfl
    omega
  rw [ofNat_eq_ofInt, word?, integer?_ofInt (Int.natCast_nonneg _) hmost (by decide) (by decide)]
  simp

theorem isReadable_ofNat (n : UInt64) : (ofNat n.toNat).isReadable form := by
  have hmost : (n.toNat : Int) ≤ Numeral.wordMax := by
    have := n.toNat_lt
    have : Numeral.wordMax = 2 ^ 64 - 1 := rfl
    omega
  rw [ofNat_eq_ofInt]
  exact isReadable_ofInt (by omega) hmost

theorem integer?_int32 (n : Int32) :
    (ofInt n.toInt).integer? Int32.minValue.toInt Int32.maxValue.toInt = some n.toInt :=
  integer?_ofInt n.minValue_le_toInt n.toInt_le (by decide) (by decide)

theorem integer?_int64 (n : Int64) :
    (ofInt n.toInt).integer? Int64.minValue.toInt Int64.maxValue.toInt = some n.toInt :=
  integer?_ofInt n.minValue_le_toInt n.toInt_le (by decide) (by decide)

end Json

end TemplateTree
