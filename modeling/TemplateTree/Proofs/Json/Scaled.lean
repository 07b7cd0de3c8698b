import TemplateTree.Proofs.Number.Product

namespace TemplateTree.Numeral

open Float.Model Float.Model.UnpackedFloat

/-- The greatest significand with which a power of ten stays finite, as far as it matters. -/
def significandLimit (k : Nat) : Nat :=
  if k ≤ 291 then 10 ^ 17 + 8 else if k = 292 then 17976931348623157 else (2 ^ 54 - 1) * 2 ^ 970 / 10 ^ k

/-- A power of ten is a finite number, and its product with the limit is below the bound. -/
def powerFits (k : Nat) : Bool :=
  match (powerOfTen k).toModel.unpack with
  | .finite _ m e _ => e ≤ 971 && 2 * (significandLimit k * m) < (2 ^ 54 - 1) * 2 ^ (971 - e).toNat
  | _ => false

/-- The exact powers and those near the bound are looked at one by one. -/
theorem powerFits_small : ∀ k ≤ 22, powerFits k := by decide +kernel

theorem powerFits_large : ∀ k < 18, powerFits (291 + k) := by decide +kernel

/-- Between them the bound is far away. -/
theorem isUpTo_powerOfTen {k : Nat} (hlow : 22 < k) (hhigh : k ≤ 290) : IsUpTo 912 (powerOfTen k).toModel.unpack := by
  have hpower : (powerOfTen k).toModel = Float.Model.pack
      (roundWithAccuracy Format.binary64 .positive ((1 <<< 53) * 10 ^ k) (-53) .exact) := by
    have hfew : ¬ (1 < 2 ^ 53 ∧ k ≤ 22) := by omega
    have hbounds : ¬ (Int.ofNat k > 2 ^ 11) ∧ ¬ (Int.ofNat k < -((2 ^ 11 : Int) + (1 : Nat).log2)) ∧
        0 ≤ Int.ofNat k := by
      simp
      omega
    rw [powerOfTen, Float.ofScientific, dif_neg hfew]
    change Float.Model.pack (UnpackedFloat.ofScientific Format.binary64 1 (Int.ofNat k)) = _
    rw [UnpackedFloat.ofScientific, dif_neg (by decide), if_neg hbounds.1, if_neg hbounds.2.1, if_pos hbounds.2.2]
    rfl
  rw [hpower]
  refine isUpTo_unpack_round (by omega) (by omega) (by omega) ?_
  calc 2 * ((1 <<< 53) * 10 ^ k) ≤ 2 * ((1 <<< 53) * 10 ^ 290) := by gcongr; omega
    _ < (2 ^ 54 - 1) * 2 ^ (912 - -53 : Int).toNat := by decide +kernel

theorem isInf_mul_powerOfTen_of_fits {n k : Nat} (hpos : 0 < n) (hdigits : n ≤ 10 ^ 17) (hfits : powerFits k)
    (hlimit : nearestInteger n ≤ significandLimit k) : (doubleOfInt n * powerOfTen k).isInf = false := by
  obtain ⟨m, e, hm, hunpack, hnormal, hvalue⟩ :=
    unpack_doubleOfInt hpos (log2_lt_of_lt (k := 1000) (by omega) (by omega))
  unfold powerFits at hfits
  split at hfits
  next s p k' hp hpower =>
    simp only [Bool.and_eq_true, decide_eq_true_eq] at hfits
    have hbound := (mul_zpow_lt_overflowBound_iff hfits.1).2 hfits.2
    refine isInf_mul_eq_false hunpack hpower hnormal (lt_of_le_of_lt ?_ hbound)
    have hcast : (nearestInteger n : ℚ) ≤ significandLimit k := by exact_mod_cast hlimit
    rw [hvalue]
    push_cast
    rw [mul_assoc]
    gcongr
  next => cases hfits

theorem mul_pow_lt {n k : Nat} (h : (n * 10 ^ k : ℚ) < overflowBound) : n * 10 ^ k < (2 ^ 54 - 1) * 2 ^ 970 := by
  rw [overflowBound_eq] at h
  have hcast : ((n * 10 ^ k : Nat) : ℚ) < ((2 ^ 54 - 1) * 2 ^ 970 : Nat) := by rwa [Nat.cast_mul, Nat.cast_pow]
  exact Nat.cast_lt.1 hcast

/-- What is below a limit has fewer digits the larger its exponent is. -/
theorem lt_of_mul_pow_lt {n k j b limit : Nat} (h : n * 10 ^ k < limit) (hb : limit ≤ b * 10 ^ j) (hjk : j ≤ k) :
    n < b := by
  have hpow : 10 ^ j ≤ 10 ^ k := Nat.pow_le_pow_right (by omega) hjk
  have hless : n * 10 ^ j < b * 10 ^ j :=
    calc n * 10 ^ j ≤ n * 10 ^ k := Nat.mul_le_mul_left n hpow
      _ < limit := h
      _ ≤ b * 10 ^ j := hb
  exact Nat.lt_of_mul_lt_mul_right hless

theorem nearestInteger_le_significandLimit {n k : Nat} (hdigits : n ≤ 10 ^ 17)
    (hvalue : (n * 10 ^ k : ℚ) < overflowBound) (hlast : k = 292 → n ≤ 17976931348623157) :
    nearestInteger n ≤ significandLimit k := by
  have hnat := mul_pow_lt hvalue
  have hrounding := two_mul_nearestInteger_le n
  rw [significandLimit]
  split
  next =>
    have hlog : n.log2 < 57 := log2_lt_of_lt (by omega) (by omega)
    have hpow : 2 ^ (n.log2 - 52) ≤ 2 ^ 4 := Nat.pow_le_pow_right (by omega) (by omega)
    omega
  split
  next hk =>
    obtain hlt | heq := Nat.lt_or_eq_of_le (hlast hk)
    · have hlog : n.log2 < 54 := log2_lt_of_lt (by omega) (by omega)
      have hpow : 2 ^ (n.log2 - 52) ≤ 2 ^ 1 := Nat.pow_le_pow_right (by omega) (by omega)
      omega
    · rw [heq]
      decide +kernel
  next hmore hne =>
    have hle : n ≤ (2 ^ 54 - 1) * 2 ^ 970 / 10 ^ k := (Nat.le_div_iff_mul_le (by positivity)).2 hnat.le
    have hexact : n < 2 ^ 53 := lt_of_mul_pow_lt (j := 293) hnat (by decide +kernel) (by omega)
    rwa [nearestInteger_eq hexact]

/-- A significand of a few digits times a power of ten is finite when it is read if its exact value is. -/
theorem isInf_mul_powerOfTen_eq_false {n k : Nat} (hpos : 0 < n) (hdigits : n ≤ 10 ^ 17)
    (hvalue : (n * 10 ^ k : ℚ) < overflowBound) (hlast : k = 292 → n ≤ 17976931348623157) (hpower : k ≤ maxPower) :
    (doubleOfInt n * powerOfTen k).isInf = false := by
  have hlimit := nearestInteger_le_significandLimit hdigits hvalue hlast
  by_cases hsmall : k ≤ 22
  · exact isInf_mul_powerOfTen_of_fits hpos hdigits (powerFits_small k hsmall) hlimit
  by_cases hlarge : k ≤ 290
  · obtain ⟨m, e, hm, hunpack, hnormal, hexact⟩ :=
      unpack_doubleOfInt hpos (log2_lt_of_lt (k := 1000) (by omega) (by omega))
    refine isInf_mul_of_isUpTo (isUpTo_powerOfTen (by omega) hlarge) hunpack hnormal ?_
    rw [significandLimit, if_pos (by omega)] at hlimit
    have hcast : (nearestInteger n : ℚ) ≤ (10 ^ 17 + 8 : Nat) := by exact_mod_cast hlimit
    have hpow : (2 : ℚ) ^ 53 * 2 ^ (912 : Int) * 2 ^ 5 = 2 ^ 970 := by
      rw [zpow_ofNat, ← pow_add, ← pow_add]
    rw [hexact, overflowBound, ← hpow]
    generalize hlarge : (2 : ℚ) ^ 53 * 2 ^ (912 : Int) = large
    have hpos : 0 ≤ large := hlarge ▸ by positivity
    calc nearestInteger n * large ≤ ((2 ^ 54 - 1) * 2 ^ 5) * large :=
          mul_le_mul_of_nonneg_right (hcast.trans (by norm_num)) hpos
      _ = (2 ^ 54 - 1) * (large * 2 ^ 5) := by ring
  · obtain ⟨j, rfl⟩ : ∃ j, k = 291 + j := Nat.exists_eq_add_of_le (by omega)
    rw [maxPower] at hpower
    exact isInf_mul_powerOfTen_of_fits hpos hdigits (powerFits_large j (by omega)) hlimit

/-- Scaling down always gives a number. -/
theorem isSome_scaled?_of_neg {x : Float} {exponent : Int} (h : exponent < 0) : (scaled? x exponent).isSome := by
  rw [scaled?, if_neg (by omega)]
  split
  · rfl
  · simp only
    split <;> rfl

/-- A numeral with few digits and a finite value is read. -/
theorem isSome_scaled? {n : Nat} {exponent : Int} (hdigits : n ≤ 10 ^ 17)
    (hvalue : (n * 10 ^ exponent : ℚ) < overflowBound) (hlast : exponent = 292 → n ≤ 17976931348623157) (hpos : 0 < n) :
    (scaled? (doubleOfInt n) exponent).isSome := by
  by_cases hsign : 0 ≤ exponent
  · obtain ⟨k, rfl⟩ := Int.eq_ofNat_of_zero_le hsign
    rw [zpow_natCast] at hvalue
    have hpower : k ≤ maxPower := by
      by_contra hlarge
      have hzero : n < 1 := lt_of_mul_pow_lt (j := 309) (mul_pow_lt hvalue) (by decide +kernel) (Nat.not_le.1 hlarge)
      omega
    have hfinite := isInf_mul_powerOfTen_eq_false hpos hdigits hvalue (by omega) hpower
    have hbound : (k : Int) ≤ maxPower := by omega
    rw [scaled?, if_pos hsign, if_pos hbound, Int.toNat_natCast]
    simp only [hfinite, Bool.false_eq_true, if_false, Option.isSome_some]
  · exact isSome_scaled?_of_neg (Int.not_le.1 hsign)

end TemplateTree.Numeral
