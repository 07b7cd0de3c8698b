import Mathlib
import TemplateTree.Json.Real

namespace TemplateTree

open Float.Model Float.Model.UnpackedFloat

/-- The least magnitude that rounds to infinity. -/
def overflowBound : ℚ := (2 ^ 54 - 1) * 2 ^ 970

theorem overflowBound_eq : overflowBound = ((2 ^ 54 - 1) * 2 ^ 970 : Nat) := by
  rw [overflowBound, Nat.cast_mul, Nat.cast_pow]
  norm_num

section Rounding

theorem mantissa_shiftRight (em : ExtendedMantissa) (k : Nat) : (em >>> k).mantissa = em.mantissa / 2 ^ k := by
  induction k with
  | zero => simp [HShiftRight.hShiftRight, Nat.repeat]
  | succ k ih =>
    calc (em >>> (k + 1)).mantissa = (em >>> k).mantissa / 2 := rfl
      _ = em.mantissa / 2 ^ (k + 1) := by rw [ih, Nat.div_div_eq_div_mul, Nat.pow_succ]

theorem roundedMantissa_le (em : ExtendedMantissa) : em.roundedMantissa ≤ em.mantissa + 1 := by
  obtain ⟨mantissa, roundBit, stickyBit⟩ := em
  have hodd : mantissa % 2 ≤ 1 := by omega
  cases roundBit <;> cases stickyBit <;>
    simp [ExtendedMantissa.roundedMantissa, ExtendedMantissa.accuracy, Accuracy.roundToNearestEven, hodd]

theorem roundedMantissa_eq_of_roundBit {em : ExtendedMantissa} (h : em.roundBit = false) :
    em.roundedMantissa = em.mantissa := by
  obtain ⟨mantissa, roundBit, stickyBit⟩ := em
  cases h
  cases stickyBit <;> rfl

/-- Below the middle of the next two numbers it is rounded down. -/
theorem roundedMantissa_shiftRight_le {m k q : Nat} (h : 2 * m < (2 * q + 1) * 2 ^ k) :
    ((ExtendedMantissa.mk m false false) >>> k).roundedMantissa ≤ q := by
  have hmantissa (k : Nat) : ((ExtendedMantissa.mk m false false) >>> k).mantissa = m / 2 ^ k :=
    mantissa_shiftRight ⟨m, false, false⟩ k
  cases k with
  | zero =>
    rw [roundedMantissa_eq_of_roundBit rfl, hmantissa]
    simp only [Nat.pow_zero, Nat.mul_one, Nat.div_one] at h ⊢
    omega
  | succ k =>
    have hlower : m < (2 * q + 1) * 2 ^ k := by
      rw [Nat.pow_succ, ← Nat.mul_assoc] at h
      omega
    have hless : m / 2 ^ k < 2 * q + 1 := (Nat.div_lt_iff_lt_mul (by positivity)).2 hlower
    have hhalf : m / 2 ^ (k + 1) = m / 2 ^ k / 2 := by rw [Nat.pow_succ, Nat.div_div_eq_div_mul]
    by_cases hq : m / 2 ^ (k + 1) = q
    · have hbit : ((ExtendedMantissa.mk m false false) >>> (k + 1)).roundBit = false := by
        have heven : m / 2 ^ k % 2 = 0 := by omega
        calc ((ExtendedMantissa.mk m false false) >>> (k + 1)).roundBit
            = (((ExtendedMantissa.mk m false false) >>> k).mantissa % 2 != 0) := rfl
          _ = false := by rw [hmantissa, heven]; rfl
      rw [roundedMantissa_eq_of_roundBit hbit, hmantissa]
      exact Nat.le_of_eq hq
    · have hle := roundedMantissa_le ((ExtendedMantissa.mk m false false) >>> (k + 1))
      rw [hmantissa] at hle
      omega

theorem log2_lt_of_lt {m k : Nat} (h : m < 2 ^ k) (hk : 0 < k) : m.log2 < k := by
  by_cases hm : m = 0
  · simpa [hm] using hk
  · exact (Nat.log2_lt hm).2 h

/-- Rounding leaves the exponent at most at `top`, if the number is below the middle between the
    greatest one with that exponent and the next power of two. -/
theorem exponent_roundWithAccuracy_le {s s' : Sign} {m m' : Nat} {e e' top : Int} {hm' : 0 < m'} (he : e ≤ top)
    (htop : -1074 ≤ top) (h : 2 * m < (2 ^ 54 - 1) * 2 ^ (top - e).toNat)
    (hround : roundWithAccuracy Format.binary64 s m e .exact = .finite s' m' e' hm') : e' ≤ top := by
  set target := Format.binary64.targetExponent (totalExponent m e) with htarget
  set k := (target - e).toNat with hk
  set rounded := ((ExtendedMantissa.mk m false false) >>> k).roundedMantissa with hrounded
  set target' := Format.binary64.targetExponent (totalExponent rounded (e + k)) with htarget'
  have hexponent : e' = e + k + (target' - (e + k)).toNat := by
    unfold roundWithAccuracy at hround
    dsimp only at hround
    split at hround
    next => cases hround
    next =>
      injection hround with _ _ hexp
      exact hexp.symm
  have hlog : m.log2 < 53 + (top - e).toNat := by
    refine log2_lt_of_lt ?_ (by omega)
    rw [Nat.pow_add]
    omega
  simp only [Format.targetExponent, totalExponent, Format.mantissaBits, Format.minExponent] at htarget htarget'
  have hfirst : e + k ≤ top := by omega
  have hlogRounded : (rounded.log2 : Int) + 1 + (e + k) - 53 ≤ top := by
    by_cases hlast : e + k = top
    · have hle : rounded ≤ 2 ^ 53 - 1 := by
        refine roundedMantissa_shiftRight_le ?_
        have hshift : k = (top - e).toNat := by omega
        rw [hshift]
        omega
      have := log2_lt_of_lt (show rounded < 2 ^ 53 by omega) (by omega)
      omega
    · have hquotient : m / 2 ^ k < 2 ^ 53 := by
        rw [Nat.div_lt_iff_lt_mul (by positivity), ← Nat.pow_add]
        exact Nat.lt_of_lt_of_le Nat.lt_log2_self (Nat.pow_le_pow_right (by omega) (by omega))
      have hle : rounded ≤ m / 2 ^ k + 1 := by
        have := roundedMantissa_le ((ExtendedMantissa.mk m false false) >>> k)
        rwa [mantissa_shiftRight] at this
      have := log2_lt_of_lt (show rounded < 2 ^ 54 by omega) (by omega)
      omega
  omega

/-- Zero, or a finite number with an exponent up to `top`. -/
def IsUpTo (top : Int) : UnpackedFloat → Prop
  | .finite _ m e _ => m < 2 ^ 53 ∧ e ≤ top
  | .zero _ => True
  | _ => False

theorem isUpTo_unpack_packComponents {s : Sign} {exponent : BitVec 11} {mantissa : BitVec 52} {top : Int}
    (h : exponent ≠ -1#11) (htop : -1074 ≤ top) (hexponent : (exponent.toNat : Int) - 1075 ≤ top) :
    IsUpTo top (UnpackedFloat.unpack Format.binary64 (packComponents Format.binary64 s exponent mantissa)) := by
  unfold UnpackedFloat.unpack
  simp only [unpackExponent_packComponents, unpackMantissa_packComponents, if_neg h]
  split
  next hzero =>
    split
    · trivial
    · refine ⟨Nat.lt_trans mantissa.isLt (by decide), ?_⟩
      simpa [hzero, Format.exponentBias] using htop
  next => exact ⟨(1#1 ++ mantissa).isLt, hexponent⟩

/-- A number within the format is not packed as infinity. -/
theorem isUpTo_unpack_pack {s : Sign} {m : Nat} {e top : Int} {hm : 0 < m} (he : e ≤ top) (hleast : -1074 ≤ top)
    (htop : top ≤ 971) : IsUpTo top (Float.Model.pack (.finite s m e hm)).unpack := by
  set biased := (e + (Format.binary64.exponentBias : Int) + (52 : Nat)).toNat with hbiased
  have hfield : (biased : Int) - 1075 ≤ top ∧ biased < 2047 := by
    simp only [Format.exponentBias] at hbiased
    omega
  have hnat : (BitVec.ofNat 11 biased).toNat = biased := by
    rw [BitVec.toNat_ofNat]
    exact Nat.mod_eq_of_lt (by omega)
  have hvec : BitVec.ofNat 11 biased ≠ -1#11 := by
    intro heq
    rw [heq] at hnat
    simp only [BitVec.toNat_neg, BitVec.toNat_ofNat] at hnat
    omega
  have hfits : ¬ 2 ^ 11 ≤ biased + 1 := by omega
  have hbits : (Float.Model.pack (.finite s m e hm)).toBits.toBitVec =
      UnpackedFloat.pack Format.binary64 (.finite s m e hm) := rfl
  rw [Float.Model.unpack, hbits, UnpackedFloat.pack, if_neg hfits]
  split
  · exact isUpTo_unpack_packComponents hvec hleast (by rw [hnat]; exact hfield.1)
  · exact isUpTo_unpack_packComponents (by decide) hleast (by simp; omega)

theorem isUpTo_unpack_round {s : Sign} {m : Nat} {e top : Int} (he : e ≤ top) (hleast : -1074 ≤ top) (htop : top ≤ 971)
    (h : 2 * m < (2 ^ 54 - 1) * 2 ^ (top - e).toNat) :
    IsUpTo top (Float.Model.pack (roundWithAccuracy Format.binary64 s m e .exact)).unpack := by
  cases hround : roundWithAccuracy Format.binary64 s m e .exact with
  | finite s' m' e' hm' => exact isUpTo_unpack_pack (exponent_roundWithAccuracy_le he hleast h hround) hleast htop
  | zero s' => exact isUpTo_unpack_packComponents (by decide) hleast (by simp; omega)
  | infinity s' =>
    unfold roundWithAccuracy at hround
    dsimp only at hround
    split at hround <;> cases hround
  | notANumber =>
    unfold roundWithAccuracy at hround
    dsimp only at hround
    split at hround <;> cases hround

theorem IsUpTo.isInf_eq_false {top : Int} {f : UnpackedFloat} (h : IsUpTo top f) : f.isInf = false := by
  cases f with
  | infinity => exact absurd h id
  | notANumber => exact absurd h id
  | _ => rfl

theorem mul_zpow_lt_overflowBound_iff {m : Nat} {e : Int} (he : e ≤ 971) :
    (m * 2 ^ e : ℚ) < overflowBound ↔ 2 * m < (2 ^ 54 - 1) * 2 ^ (971 - e).toNat := by
  obtain ⟨j, hj⟩ : ∃ j : Nat, e = 971 - j := ⟨(971 - e).toNat, by omega⟩
  have hnat : (971 - e).toNat = j := by omega
  have hpow : (2 : ℚ) ^ e * 2 ^ j = 2 ^ 970 * 2 := by
    rw [hj, ← pow_succ, ← zpow_natCast 2 j, ← zpow_add₀ (by norm_num)]
    norm_num
  have hscale : (0 : ℚ) < 2 ^ j := by positivity
  rw [hnat, overflowBound, ← mul_lt_mul_iff_left₀ hscale, mul_assoc (m : ℚ), hpow]
  generalize hlarge : (2 : ℚ) ^ 970 = large
  have hpos : 0 < large := hlarge ▸ by positivity
  have hleft : (m : ℚ) * (large * 2) = ((2 * m : Nat) : ℚ) * large := by push_cast; ring
  have hright : ((2 : ℚ) ^ 54 - 1) * large * 2 ^ j = ((2 ^ 54 - 1) * 2 ^ j : Nat) * large := by
    push_cast
    ring
  rw [hleft, hright, mul_lt_mul_iff_left₀ hpos]
  exact Nat.cast_lt

/-- The exponent of a product below the bound, if one factor has a full mantissa. -/
theorem exponent_le_of_lt_overflowBound {m n : Nat} {e : Int} (hm : 2 ^ 52 ≤ m) (hn : 0 < n)
    (h : ((m * n : Nat) * 2 ^ e : ℚ) < overflowBound) : e ≤ 971 := by
  by_contra hlarge
  have hmantissa : (2 ^ 52 : ℚ) ≤ (m * n : Nat) := by
    have hle : 2 ^ 52 ≤ m * n := Nat.le_trans hm (Nat.le_mul_of_pos_right m hn)
    exact_mod_cast hle
  have hpow : (2 : ℚ) ^ (972 : Int) ≤ 2 ^ e := zpow_le_zpow_right₀ (by norm_num) (by omega)
  have hleast : (2 ^ 52 : ℚ) * 2 ^ (972 : Int) ≤ (m * n : Nat) * 2 ^ e := by gcongr
  have hover : overflowBound < (2 ^ 52 : ℚ) * 2 ^ (972 : Int) := by
    calc overflowBound < (2 ^ 54 : ℚ) * 2 ^ 970 := mul_lt_mul_of_pos_right (by norm_num) (by positivity)
      _ = (2 ^ 52 : ℚ) * 2 ^ (972 : Int) := by rw [← pow_add, zpow_ofNat, ← pow_add]
  linarith

/-- A product is finite if the exact product is below the bound. -/
theorem isInf_mul_eq_false {x y : Float} {s t : Sign} {m n : Nat} {e k : Int} {hm : 0 < m} {hn : 0 < n}
    (hx : x.toModel.unpack = .finite s m e hm) (hy : y.toModel.unpack = .finite t n k hn) (hnormal : 2 ^ 52 ≤ m)
    (hbound : (m * 2 ^ e : ℚ) * (n * 2 ^ k) < overflowBound) : (x * y).isInf = false := by
  have hproduct : ((m * n : Nat) * 2 ^ (e + k) : ℚ) < overflowBound := by
    calc ((m * n : Nat) * 2 ^ (e + k) : ℚ) = (m * 2 ^ e) * (n * 2 ^ k) := by
          rw [zpow_add₀ (by norm_num)]
          push_cast
          ring
      _ < overflowBound := hbound
  have hexponent := exponent_le_of_lt_overflowBound hnormal hn hproduct
  have hsmall := (mul_zpow_lt_overflowBound_iff hexponent).1 hproduct
  have hmodel : (x * y).isInf =
      (Float.Model.pack (roundWithAccuracy Format.binary64 (s * t) (m * n) (e + k) .exact)).unpack.isInf := by
    calc (x * y).isInf
        = (Float.Model.pack (UnpackedFloat.mul Format.binary64 x.toModel.unpack y.toModel.unpack)).unpack.isInf := rfl
      _ = _ := by rw [hx, hy, UnpackedFloat.mul]
  rw [hmodel]
  exact (isUpTo_unpack_round hexponent (by omega) (by omega) hsmall).isInf_eq_false

theorem isInf_mul_zero {x y : Float} {s t : Sign} {m : Nat} {e : Int} {hm : 0 < m}
    (hx : x.toModel.unpack = .finite s m e hm) (hy : y.toModel.unpack = .zero t) : (x * y).isInf = false := by
  calc (x * y).isInf
      = (Float.Model.pack (UnpackedFloat.mul Format.binary64 x.toModel.unpack y.toModel.unpack)).unpack.isInf := rfl
    _ = (Float.Model.pack (.zero (s * t))).unpack.isInf := by rw [hx, hy, UnpackedFloat.mul]
    _ = false := (isUpTo_unpack_packComponents (by decide) (Int.le_refl _) (by simp)).isInf_eq_false

/-- A product with a number of limited exponent is finite if that with the limit is. -/
theorem isInf_mul_of_isUpTo {x y : Float} {s : Sign} {m : Nat} {e top : Int} {hm : 0 < m}
    (hy : IsUpTo top y.toModel.unpack) (hx : x.toModel.unpack = .finite s m e hm) (hnormal : 2 ^ 52 ≤ m)
    (hbound : (m * 2 ^ e : ℚ) * (2 ^ 53 * 2 ^ top) ≤ overflowBound) : (x * y).isInf = false := by
  cases hunpack : y.toModel.unpack with
  | zero t => exact isInf_mul_zero hx hunpack
  | finite t n k hn =>
    rw [hunpack] at hy
    refine isInf_mul_eq_false hx hunpack hnormal (lt_of_lt_of_le ?_ hbound)
    have hmantissa : (n : ℚ) < 2 ^ 53 := by exact_mod_cast hy.1
    have hless : (n * 2 ^ k : ℚ) < 2 ^ 53 * 2 ^ top := by
      calc (n * 2 ^ k : ℚ) < 2 ^ 53 * 2 ^ k := mul_lt_mul_of_pos_right hmantissa (by positivity)
        _ ≤ 2 ^ 53 * 2 ^ top := mul_le_mul_of_nonneg_left (zpow_le_zpow_right₀ (by norm_num) hy.2) (by positivity)
    exact mul_lt_mul_of_pos_left hless (by positivity)
  | infinity t =>
    rw [hunpack] at hy
    exact absurd hy id
  | notANumber =>
    rw [hunpack] at hy
    exact absurd hy id

end Rounding

section Integers

/-- A word with neither the least nor the greatest exponent is a number with a leading bit. -/
theorem unpack_normal {b : BitVec Format.binary64.numBits} {biased fraction : Nat}
    (hb : b.toNat = biased * 2 ^ 52 + fraction) (hfraction : fraction < 2 ^ 52) (hpos : 0 < biased)
    (hless : biased < 2047) :
    UnpackedFloat.unpack Format.binary64 b = .finite .positive (2 ^ 52 + fraction) (biased - 1075) (by omega) := by
  have hmantissa : (unpackMantissa b).toNat = fraction := by
    rw [unpackMantissa_def, BitVec.extractLsb'_toNat, hb, Nat.shiftRight_zero]
    change (biased * 2 ^ 52 + fraction) % 2 ^ 52 = fraction
    omega
  have hexponent : (unpackExponent b).toNat = biased := by
    rw [unpackExponent_def, BitVec.extractLsb'_toNat, hb, Nat.shiftRight_eq_div_pow]
    change (biased * 2 ^ 52 + fraction) / 2 ^ 52 % 2 ^ 11 = biased
    omega
  have hsign : unpackSign b = 0#1 := by
    refine BitVec.eq_of_toNat_eq ?_
    rw [unpackSign_def, BitVec.extractLsb'_toNat, hb, Nat.shiftRight_eq_div_pow]
    simp
    omega
  have hfinite : unpackExponent b ≠ -1#11 := by
    intro heq
    have hnat := congrArg BitVec.toNat heq
    rw [hexponent] at hnat
    simp at hnat
    omega
  have hnormal : unpackExponent b ≠ 0#11 := by
    intro heq
    have hnat := congrArg BitVec.toNat heq
    rw [hexponent] at hnat
    simp at hnat
    omega
  have hleading : (1#1 ++ unpackMantissa b).toNat = 2 ^ 52 + fraction := by
    have hor : 2 ^ 52 + (unpackMantissa b).toNat = 2 ^ 52 ||| (unpackMantissa b).toNat := by
      simpa using Nat.two_pow_add_eq_or_of_lt (unpackMantissa b).isLt 1
    rw [BitVec.toNat_append, ← hmantissa, hor]
    rfl
  unfold UnpackedFloat.unpack
  simp only [if_neg hfinite, if_neg hnormal, hexponent, hsign, hleading]
  rfl

/-- What a word stands for is what it was made from, unless it is not a number. -/
theorem unpack_ofBits {b : UInt64} (h : UnpackedFloat.unpack Format.binary64 b.toBitVec ≠ .notANumber) :
    (Float.ofBits b).toModel.unpack = UnpackedFloat.unpack Format.binary64 b.toBitVec := by
  have hnan : isNaNBits (show BitVec Format.binary64.numBits from b.toBitVec) = false := by
    by_contra hbits
    simp only [isNaNBits, ne_eq, Bool.not_eq_false, decide_eq_true_eq] at hbits
    refine h ?_
    unfold UnpackedFloat.unpack
    simp only [hbits, if_true, if_false]
  have hpack := pack_unpack (show BitVec Format.binary64.numBits from b.toBitVec)
  rw [hnan] at hpack
  calc (Float.ofBits b).toModel.unpack
      = UnpackedFloat.unpack Format.binary64 (UnpackedFloat.pack Format.binary64
          (UnpackedFloat.unpack Format.binary64 b.toBitVec)) := rfl
    _ = UnpackedFloat.unpack Format.binary64 b.toBitVec := congrArg _ hpack

theorem shiftRight_bounds (n k : Nat) :
    n / 2 ^ k ≤ Binary.Format.shiftRight n k ∧ Binary.Format.shiftRight n k ≤ n / 2 ^ k + 1 ∧
      2 * (Binary.Format.shiftRight n k * 2 ^ k) ≤ 2 * n + 2 ^ k := by
  have hdivision : 2 ^ k * (n / 2 ^ k) + n % 2 ^ k = n := Nat.div_add_mod n (2 ^ k)
  have hpow : Nat.pow 2 k = 2 ^ k := rfl
  rw [Binary.Format.shiftRight]
  simp only [hpow]
  rw [Nat.mul_comm] at hdivision
  generalize 2 ^ k = scale at *
  generalize n / scale = quotient at *
  generalize n % scale = rest at *
  split
  · refine ⟨by omega, by omega, ?_⟩
    omega
  split
  · have hodd : quotient % 2 ≤ 1 := by omega
    refine ⟨by omega, by omega, ?_⟩
    calc 2 * ((quotient + quotient % 2) * scale) ≤ 2 * ((quotient + 1) * scale) := by gcongr
      _ ≤ 2 * n + scale := by rw [Nat.add_mul]; omega
  · refine ⟨by omega, by omega, ?_⟩
    rw [Nat.add_mul]
    omega

/-- The integer that a 64-bit number holds in place of `n`. -/
def nearestInteger (n : Nat) : Nat :=
  if n.log2 ≤ 52 then n else Binary.Format.shiftRight n (n.log2 - 52) * 2 ^ (n.log2 - 52)

theorem nearestInteger_eq {n : Nat} (h : n < 2 ^ 53) : nearestInteger n = n := by
  have := log2_lt_of_lt h (by omega)
  rw [nearestInteger, if_pos (by omega)]

theorem two_mul_nearestInteger_le (n : Nat) : 2 * nearestInteger n ≤ 2 * n + 2 ^ (n.log2 - 52) := by
  rw [nearestInteger]
  split
  · exact Nat.le_add_right _ _
  · exact (shiftRight_bounds n _).2.2

/-- The mantissa of the 64-bit number nearest to an integer, before a carry. -/
def integerMantissa (n : Nat) : Nat :=
  if n.log2 ≤ 52 then n * 2 ^ (52 - n.log2) else Binary.Format.shiftRight n (n.log2 - 52)

theorem integerMantissa_bounds {n : Nat} (hpos : 0 < n) : 2 ^ 52 ≤ integerMantissa n ∧ integerMantissa n ≤ 2 ^ 53 := by
  have hlower : 2 ^ n.log2 ≤ n := Nat.log2_self_le hpos.ne'
  have hupper : n < 2 ^ (n.log2 + 1) := Nat.lt_log2_self
  rw [integerMantissa]
  split
  next hsmall =>
    have hpow (i : Nat) : 2 ^ (n.log2 + i) * 2 ^ (52 - n.log2) = 2 ^ (52 + i) := by
      rw [← Nat.pow_add]
      congr 1
      omega
    constructor
    · rw [← hpow 0]
      exact Nat.mul_le_mul_right _ hlower
    · rw [← hpow 1]
      exact Nat.mul_le_mul_right _ hupper.le
  next hlarge =>
    obtain ⟨hbelow, habove, -⟩ := shiftRight_bounds n (n.log2 - 52)
    have hpow (i : Nat) : 2 ^ (n.log2 + i) = 2 ^ (52 + i) * 2 ^ (n.log2 - 52) := by
      rw [← Nat.pow_add]
      congr 1
      omega
    have hleast : 2 ^ 52 ≤ n / 2 ^ (n.log2 - 52) := by
      rw [Nat.le_div_iff_mul_le (by positivity), ← hpow 0]
      exact hlower
    have hmost : n / 2 ^ (n.log2 - 52) < 2 ^ 53 := by
      rw [Nat.div_lt_iff_lt_mul (by positivity), ← hpow 1]
      exact hupper
    omega

theorem integerMantissa_mul (n : Nat) : (integerMantissa n * 2 ^ ((n.log2 : Int) - 52) : ℚ) = nearestInteger n := by
  rw [integerMantissa, nearestInteger]
  split
  next hsmall =>
    have hexponent : (n.log2 : Int) - 52 = -((52 - n.log2 : Nat) : Int) := by omega
    rw [hexponent, zpow_neg, zpow_natCast]
    push_cast
    field_simp
  next hlarge =>
    have hexponent : (n.log2 : Int) - 52 = ((n.log2 - 52 : Nat) : Int) := by omega
    rw [hexponent, zpow_natCast]
    push_cast
    rfl

theorem round_eq {format : Binary.Format} {negative : Bool} {m : Nat} {e target : Int} (hm : m ≠ 0)
    (htarget : max format.minExponent (e + (m.log2 + 1 : Nat) - (format.fractionBits + 1 : Nat)) = target) :
    format.round negative m e = format.signBits negative +
      min ((target - format.minExponent).toNat * 2 ^ format.fractionBits +
        (if target ≤ e then m * 2 ^ (e - target).toNat else Binary.Format.shiftRight m (target - e).toNat))
        format.infinityBits := by
  subst htarget
  rw [Binary.Format.round, if_neg hm]
  rfl

theorem double_ofInt_eq {n : Nat} (hpos : 0 < n) (hless : n.log2 < 1000) :
    Binary.double.ofInt n = (n.log2 + 1022) * 2 ^ 52 + integerMantissa n := by
  have hbound := (integerMantissa_bounds hpos).2
  have hfinite : min ((n.log2 + 1022) * 2 ^ 52 + integerMantissa n) (2047 * 2 ^ 52) =
      (n.log2 + 1022) * 2 ^ 52 + integerMantissa n := by omega
  have hsign : decide ((n : Int) < 0) = false := by simp
  have hmin : Binary.double.minExponent = -1074 := by decide
  have hsignBits : Binary.double.signBits false = 0 := rfl
  have hfraction : Binary.double.fractionBits = 52 := rfl
  have hinfinity : Binary.double.infinityBits = 2047 * 2 ^ 52 := by decide
  have htarget : max Binary.double.minExponent (0 + ((n.log2 + 1 : Nat) : Int) - ((52 + 1 : Nat) : Int)) = n.log2 - 52 := by
    rw [hmin]
    omega
  have hrounded : (if (n.log2 : Int) - 52 ≤ 0 then n * 2 ^ (0 - ((n.log2 : Int) - 52)).toNat
      else Binary.Format.shiftRight n ((n.log2 : Int) - 52 - 0).toNat) = integerMantissa n := by
    rw [integerMantissa]
    by_cases hsmall : n.log2 ≤ 52
    · have hshift : (0 - ((n.log2 : Int) - 52)).toNat = 52 - n.log2 := by omega
      rw [if_pos (by omega), if_pos hsmall, hshift]
    · have hshift : ((n.log2 : Int) - 52 - 0).toNat = n.log2 - 52 := by omega
      rw [if_neg (by omega), if_neg hsmall, hshift]
  have hfield : ((n.log2 : Int) - 52 - -1074).toNat = n.log2 + 1022 := by omega
  rw [Binary.Format.ofInt, hsign, Int.natAbs_natCast, round_eq hpos.ne' htarget, hrounded, hmin, hfield, hinfinity,
    hsignBits, hfraction, hfinite, Nat.zero_add]
/-- The 64-bit number nearest to a positive integer. -/
theorem unpack_doubleOfInt {n : Nat} (hpos : 0 < n) (hless : n.log2 < 1000) :
    ∃ (m : Nat) (e : Int) (hm : 0 < m), (doubleOfInt n).toModel.unpack = .finite .positive m e hm ∧
      2 ^ 52 ≤ m ∧ (m * 2 ^ e : ℚ) = nearestInteger n := by
  obtain ⟨hleast, hmost⟩ := integerMantissa_bounds hpos
  obtain ⟨biased, fraction, hbits, hfraction, hbiased, hvalue⟩ : ∃ biased fraction : Nat,
      (n.log2 + 1022) * 2 ^ 52 + integerMantissa n = biased * 2 ^ 52 + fraction ∧ fraction < 2 ^ 52 ∧
        (n.log2 + 1023 ≤ biased ∧ biased ≤ n.log2 + 1024) ∧
          ((2 ^ 52 + fraction : Nat) * 2 ^ ((biased : Int) - 1075) : ℚ) =
            integerMantissa n * 2 ^ ((n.log2 : Int) - 52) := by
    by_cases hcarry : integerMantissa n = 2 ^ 53
    · refine ⟨n.log2 + 1024, 0, by omega, by omega, by omega, ?_⟩
      have hexponent : ((n.log2 + 1024 : Nat) : Int) - 1075 = ((n.log2 : Int) - 52) + 1 := by omega
      rw [hcarry, hexponent, zpow_add_one₀ (by norm_num)]
      push_cast
      ring
    · refine ⟨n.log2 + 1023, integerMantissa n - 2 ^ 52, by omega, by omega, by omega, ?_⟩
      have hexponent : ((n.log2 + 1023 : Nat) : Int) - 1075 = (n.log2 : Int) - 52 := by omega
      have hmantissa : 2 ^ 52 + (integerMantissa n - 2 ^ 52) = integerMantissa n := by omega
      rw [hexponent, hmantissa]
  have hword : (UInt64.ofNat (Binary.double.ofInt n)).toBitVec.toNat = biased * 2 ^ 52 + fraction := by
    rw [double_ofInt_eq hpos hless, hbits, UInt64.toNat_toBitVec, UInt64.toNat_ofNat']
    omega
  have hunpack := unpack_normal hword hfraction (by omega) (by omega)
  refine ⟨2 ^ 52 + fraction, biased - 1075, by omega, ?_, by omega, hvalue.trans (integerMantissa_mul n)⟩
  rw [doubleOfInt, unpack_ofBits (by rw [hunpack]; exact nofun)]
  exact hunpack

end Integers

end TemplateTree
