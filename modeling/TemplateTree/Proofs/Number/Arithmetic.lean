import Mathlib.Data.Int.ModEq
import TemplateTree.Proofs.Meaning.Constants
import TemplateTree.Proofs.Meaning.Width

namespace TemplateTree

/-- The integer that a literal holds, if it holds one. -/
def Number.integer? : Number → Option Int
  | .int a => some a.toInt
  | .long a => some a.toInt
  | _ => none

namespace Width

/-- The class of the integers of a width. -/
def kind : Width → Kind
  | int => .int
  | long => .long

/-- The literal of a width that agrees with an integer in its lower bits. -/
def number : Width → Int → Number
  | int, v => .int (.ofInt v)
  | long, v => .long (.ofInt v)

@[simp]
theorem naturalTy_number (w : Width) (v : Int) : (w.number v).naturalTy = w.ty := by
  cases w <;> rfl

@[simp]
theorem integer?_number (w : Width) (v : Int) : (w.number v).integer? = some (w.wrap v) := by
  cases w with
  | int => exact congrArg some Int32.toInt_ofInt
  | long => exact congrArg some Int64.toInt_ofInt

/-- Reading a literal in a width wraps the integer that it holds. -/
theorem read_of_integer? (w : Width) {n : Number} {v : Int} (h : n.integer? = some v) : w.read n = w.wrap v := by
  cases n with
  | int a =>
    cases h
    exact w.read_int a
  | long a =>
    cases h
    exact w.read_long a
  | float | double => cases h

theorem wrap_modEq (w : Width) (v : Int) : w.wrap v ≡ v [ZMOD 2 ^ w.bits] := by
  have hmod : w.wrap v % ((2 ^ w.bits : Nat) : Int) = v % ((2 ^ w.bits : Nat) : Int) := Int.bmod_emod
  rwa [Nat.cast_pow] at hmod

theorem wrap_bounds (w : Width) (v : Int) : -2 ^ (w.bits - 1) ≤ w.wrap v ∧ w.wrap v < 2 ^ (w.bits - 1) := by
  cases w with
  | int => exact ⟨le_int_wrap v, int_wrap_lt v⟩
  | long => exact ⟨Int.le_bmod (m := 2 ^ 64) (by decide), Int.bmod_lt (m := 2 ^ 64) (by decide)⟩

/-- A quotient times the divisor and the remainder make the dividend, whatever is wrapped around on the way. -/
theorem wrap_quotient_remainder (w : Width) (a b : Int) :
    w.wrap (w.wrap (a.tdiv b) * b + w.wrap (a.tmod b)) = w.wrap a := by
  calc w.wrap (w.wrap (a.tdiv b) * b + w.wrap (a.tmod b))
      = w.wrap (w.wrap (a.tdiv b) * b + a.tmod b) := Int.add_bmod_bmod
    _ = w.wrap (w.wrap (w.wrap (a.tdiv b) * b) + a.tmod b) := Int.bmod_add_bmod.symm
    _ = w.wrap (w.wrap (a.tdiv b * b) + a.tmod b) := congrArg (fun v => w.wrap (v + a.tmod b)) Int.bmod_mul_bmod
    _ = w.wrap (a.tdiv b * b + a.tmod b) := Int.bmod_add_bmod
    _ = w.wrap a := by rw [Int.tdiv_mul_add_tmod]

end Width

/-- Where an integer operation has no exact result. -/
theorem TokenKind.toOption_exact_eq_none_iff (operator : TokenKind) (a b : Int) :
    (operator.exact a b).toOption = none ↔
      operator.isArithmetic = false ∨ (operator = .div ∨ operator = .mod) ∧ b = 0 := by
  cases operator with
  | div | mod =>
    by_cases hb : b = 0
    · simp [TokenKind.exact, hb, Except.toOption]
    · simp [TokenKind.exact, hb, Except.toOption, isArithmetic]
  | _ => simp [TokenKind.exact, Except.toOption, isArithmetic]

namespace Number

/-- Arithmetic in an integer type is exact arithmetic on what its operands read as, wrapped around. -/
theorem arithmetic?_eq (w : Width) {ty : Ty} (hty : ty.kind = w.kind) (operator : TokenKind) (left right : Number) :
    arithmetic? operator ty left right = (operator.exact (w.read left) (w.read right)).toOption.map w.number := by
  cases w with
  | int =>
    have hkind : ty.kind = .int := hty
    simp only [arithmetic?, hkind, int32_wraps.integer?_eq, Option.map_map]
    rfl
  | long =>
    have hkind : ty.kind = .long := hty
    simp only [arithmetic?, hkind, int64_wraps.integer?_eq, Option.map_map]
    rfl

variable {w : Width} {ty : Ty} {left right : Number} {x y : Int}

/-- What an operation with an exact result holds. -/
theorem integer?_arithmetic? (hty : ty.kind = w.kind) (hleft : left.integer? = some x)
    (hright : right.integer? = some y) {operator : TokenKind} {c : Int} (hexact : operator.exact (w.wrap x) (w.wrap y) = .ok c) :
    (arithmetic? operator ty left right).bind integer? = some (w.wrap c) := by
  rw [arithmetic?_eq w hty, w.read_of_integer? hleft, w.read_of_integer? hright, hexact]
  exact w.integer?_number c

/-- Integer arithmetic is exact modulo the width, for every type of an integer class, every token and any two integer
    literals, read in the width of the type. There is no result exactly if the token is no arithmetic operator or the
    divisor reads as zero. Otherwise the result is of that width, and it is the integer of the width that is
    congruent to the exact result. A quotient times the divisor and the remainder make the dividend. -/
theorem arithmetic?_modEq_exact (hty : ty.kind = w.kind) (hleft : left.integer? = some x)
    (hright : right.integer? = some y) (operator : TokenKind) :
    (arithmetic? operator ty left right = none ↔
        operator.isArithmetic = false ∨ (operator = .div ∨ operator = .mod) ∧ w.wrap y = 0) ∧
      (∀ n, arithmetic? operator ty left right = some n →
        ∃ c v, operator.exact (w.wrap x) (w.wrap y) = .ok c ∧ n.naturalTy = w.ty ∧ n.integer? = some v ∧
          v ≡ c [ZMOD 2 ^ w.bits] ∧ -2 ^ (w.bits - 1) ≤ v ∧ v < 2 ^ (w.bits - 1)) ∧
      (w.wrap y ≠ 0 → ∃ q r, (arithmetic? .div ty left right).bind integer? = some q ∧
        (arithmetic? .mod ty left right).bind integer? = some r ∧ w.wrap (q * w.wrap y + r) = w.wrap x) := by
  have hfolded := arithmetic?_eq w hty operator left right
  rw [w.read_of_integer? hleft, w.read_of_integer? hright] at hfolded
  refine ⟨?_, fun n hn => ?_, fun hy => ?_⟩
  · rw [hfolded, Option.map_eq_none_iff]
    exact operator.toOption_exact_eq_none_iff _ _
  · rw [hfolded] at hn
    cases hexact : operator.exact (w.wrap x) (w.wrap y) with
    | error abort =>
      rw [hexact] at hn
      cases hn
    | ok c =>
      rw [hexact] at hn
      cases hn
      exact ⟨c, w.wrap c, rfl, w.naturalTy_number c, w.integer?_number c, w.wrap_modEq c, w.wrap_bounds c⟩
  · have hquotient : TokenKind.div.exact (w.wrap x) (w.wrap y) = .ok ((w.wrap x).tdiv (w.wrap y)) := if_neg hy
    have hremainder : TokenKind.mod.exact (w.wrap x) (w.wrap y) = .ok ((w.wrap x).tmod (w.wrap y)) := if_neg hy
    refine ⟨_, _, integer?_arithmetic? hty hleft hright hquotient, integer?_arithmetic? hty hleft hright hremainder, ?_⟩
    rw [Width.wrap_quotient_remainder, Width.wrap_wrap]

/-- The least `int` divided by a `long` that reads as `-1`, in the type `Integer`: the quotient wraps around to the
    dividend, and the remainder is zero. -/
theorem leastInt_arithmetic?_modEq_exact :
    (Number.int .minValue).integer? = some (-2 ^ 31) ∧ (Number.long 4294967295).integer? = some (2 ^ 32 - 1) ∧
      Width.int.wrap (2 ^ 32 - 1) = -1 ∧
      ∃ q r, (arithmetic? .div (.ofKind .int) (.int .minValue) (.long 4294967295)).bind integer? = some q ∧
        (arithmetic? .mod (.ofKind .int) (.int .minValue) (.long 4294967295)).bind integer? = some r ∧
          Width.int.wrap (q * Width.int.wrap (2 ^ 32 - 1) + r) = Width.int.wrap (-2 ^ 31) := by
  have hleft : (Number.int .minValue).integer? = some (-2 ^ 31) := by decide
  have hright : (Number.long 4294967295).integer? = some (2 ^ 32 - 1) := by decide
  have hdivisor : Width.int.wrap (2 ^ 32 - 1) = -1 := by decide
  have hty : (Ty.ofKind .int).kind = Width.int.kind := rfl
  exact ⟨hleft, hright, hdivisor, (arithmetic?_modEq_exact hty hleft hright .div).2.2 (by decide)⟩

end Number

end TemplateTree
