import Mathlib.Algebra.Order.Field.Power
import Mathlib.Algebra.Order.Ring.Rat
import Mathlib.Tactic.FieldSimp
import Mathlib.Tactic.GCongr
import Mathlib.Tactic.Linarith
import Mathlib.Tactic.NormNum
import Mathlib.Tactic.Positivity
import Mathlib.Tactic.Ring
import TemplateTree.Decimal

namespace TemplateTree.Decimal

/-- The number that a decimal stands for. -/
def value (decimal : Decimal) : ℚ := decimal.digits * 10 ^ decimal.exponent

/-- A power as a fraction of two powers that are whole. -/
theorem zpow_eq_div (b : ℚ) (e : Int) : b ^ e = b ^ e.toNat / b ^ (-e).toNat := by
  obtain he | he := Int.le_total 0 e
  · obtain ⟨n, rfl⟩ := Int.eq_ofNat_of_zero_le he
    simp
  · obtain ⟨n, hn⟩ := Int.eq_ofNat_of_zero_le (Int.neg_nonneg_of_nonpos he)
    obtain rfl : e = -n := by omega
    simp

theorem lt_pow_digitCount (n : Nat) : n < 10 ^ digitCount n :=
  (Nat.length_toDigits_le_iff (by decide) Nat.length_toDigits_pos).1 (Nat.le_refl _)

theorem pow_digitCount_le {n : Nat} (hn : 0 < n) : 10 ^ (digitCount n - 1) ≤ n := by
  by_cases hone : digitCount n - 1 = 0
  · rw [hone]
    exact hn
  · by_contra hless
    have hle : digitCount n ≤ digitCount n - 1 :=
      (Nat.length_toDigits_le_iff (by decide) (Nat.pos_of_ne_zero hone)).2 (Nat.not_le.1 hless)
    omega

namespace Interval

/-- The number in the middle of an interval. -/
def center (interval : Interval) : ℚ := interval.middle / interval.denominator

theorem pow_le_center_iff {interval : Interval} (hden : 0 < interval.denominator) (e : Int) :
    (10 : ℚ) ^ e ≤ interval.center ↔
      interval.denominator * 10 ^ e.toNat ≤ interval.middle * 10 ^ (-e).toNat := by
  have hpos : (0 : ℚ) < interval.denominator := by exact_mod_cast hden
  rw [center, zpow_eq_div, div_le_div_iff₀ (by positivity) hpos, mul_comm ((10 : ℚ) ^ e.toNat)]
  exact_mod_cast Iff.rfl

/-- The magnitude counts the digits before the point. -/
theorem magnitude_spec {interval : Interval} (hmiddle : 0 < interval.middle) (hden : 0 < interval.denominator) :
    (10 : ℚ) ^ (interval.magnitude - 1) ≤ interval.center ∧ interval.center < 10 ^ interval.magnitude := by
  have hpos : (0 : ℚ) < interval.denominator := by exact_mod_cast hden
  have hmiddleLower : (10 : ℚ) ^ (digitCount interval.middle - 1) ≤ interval.middle := by
    exact_mod_cast pow_digitCount_le hmiddle
  have hmiddleUpper : (interval.middle : ℚ) < 10 ^ digitCount interval.middle := by
    exact_mod_cast lt_pow_digitCount interval.middle
  have hdenLower : (10 : ℚ) ^ (digitCount interval.denominator - 1) ≤ interval.denominator := by
    exact_mod_cast pow_digitCount_le hden
  have hdenUpper : (interval.denominator : ℚ) < 10 ^ digitCount interval.denominator := by
    exact_mod_cast lt_pow_digitCount interval.denominator
  have hmiddleCount : 0 < digitCount interval.middle := Nat.length_toDigits_pos
  have hdenCount : 0 < digitCount interval.denominator := Nat.length_toDigits_pos
  set guess : Int := (digitCount interval.middle : Int) - digitCount interval.denominator with hguess
  have hguessLower : (10 : ℚ) ^ (guess - 1) ≤ interval.center := by
    rw [center, le_div_iff₀ hpos]
    calc (10 : ℚ) ^ (guess - 1) * interval.denominator
        ≤ 10 ^ (guess - 1) * 10 ^ digitCount interval.denominator := by gcongr
      _ = 10 ^ (digitCount interval.middle - 1) := by
          rw [← zpow_natCast, ← zpow_natCast, ← zpow_add₀ (by norm_num)]
          congr 1
          omega
      _ ≤ interval.middle := hmiddleLower
  have hguessUpper : interval.center < 10 ^ (guess + 1) := by
    rw [center, div_lt_iff₀ hpos]
    calc (interval.middle : ℚ) < 10 ^ digitCount interval.middle := hmiddleUpper
      _ = 10 ^ (guess + 1) * 10 ^ (digitCount interval.denominator - 1) := by
          rw [← zpow_natCast, ← zpow_natCast, ← zpow_add₀ (by norm_num)]
          congr 1
          omega
      _ ≤ 10 ^ (guess + 1) * interval.denominator := by gcongr
  by_cases hover : interval.denominator * 10 ^ guess.toNat ≤ interval.middle * 10 ^ (-guess).toNat
  · have hmagnitude : interval.magnitude = guess + 1 := if_pos hover
    rw [hmagnitude, Int.add_sub_cancel]
    exact ⟨(pow_le_center_iff hden guess).2 hover, hguessUpper⟩
  · have hmagnitude : interval.magnitude = guess := if_neg hover
    rw [hmagnitude]
    exact ⟨hguessLower, not_le.1 fun hle => hover ((pow_le_center_iff hden guess).1 hle)⟩

/-- The middle in units of a grid is `gridMiddle / gridUnit`. -/
def gridMiddle (interval : Interval) (e : Int) : Nat := interval.middle * 10 ^ (-e).toNat

@[inherit_doc gridMiddle]
def gridUnit (interval : Interval) (e : Int) : Nat := interval.denominator * 10 ^ e.toNat

theorem gridMiddle_div_gridUnit (interval : Interval) (e : Int) :
    (interval.gridMiddle e : ℚ) / interval.gridUnit e = interval.center / 10 ^ e := by
  rw [gridMiddle, gridUnit, center, zpow_eq_div]
  push_cast
  rw [div_div_div_eq]

/-- On the grid of `n + 1` digits the middle has `n + 1` digits. -/
theorem gridMiddle_bounds {interval : Interval} (hmiddle : 0 < interval.middle) (hden : 0 < interval.denominator)
    {e : Int} {n : Nat} (he : e = interval.magnitude - (n + 1 : Nat)) :
    10 ^ n * interval.gridUnit e ≤ interval.gridMiddle e ∧
      interval.gridMiddle e < 10 ^ (n + 1) * interval.gridUnit e := by
  obtain ⟨hlower, hupper⟩ := magnitude_spec hmiddle hden
  have hunit : (0 : ℚ) < interval.gridUnit e := by
    exact_mod_cast Nat.mul_pos hden (Nat.pow_pos (show 0 < 10 by decide))
  have hpow : (0 : ℚ) < 10 ^ e := by positivity
  have hdiv := gridMiddle_div_gridUnit interval e
  constructor
  · have hle : (10 : ℚ) ^ n ≤ interval.gridMiddle e / interval.gridUnit e := by
      rw [hdiv, le_div_iff₀ hpow, ← zpow_natCast, ← zpow_add₀ (by norm_num)]
      rwa [show (n : Int) + e = interval.magnitude - 1 by omega]
    exact_mod_cast (le_div_iff₀ hunit).1 hle
  · have hlt : (interval.gridMiddle e : ℚ) / interval.gridUnit e < 10 ^ (n + 1) := by
      rw [hdiv, div_lt_iff₀ hpow, ← zpow_natCast, ← zpow_add₀ (by norm_num)]
      rwa [show ((n + 1 : Nat) : Int) + e = interval.magnitude by omega]
    exact_mod_cast (div_lt_iff₀ hunit).1 hlt

theorem contains_of_between {interval : Interval} {digits : Nat} {e : Int}
    (hlower : interval.lower * 10 ^ (-e).toNat < digits * interval.gridUnit e)
    (hupper : digits * interval.gridUnit e < interval.upper * 10 ^ (-e).toNat) : interval.contains ⟨digits, e⟩ := by
  have hvalue : digits * Nat.pow 10 e.toNat * interval.denominator = digits * interval.gridUnit e := by
    rw [gridUnit, Nat.mul_comm interval.denominator, ← Nat.mul_assoc]
    rfl
  have hpow : Nat.pow 10 (-e).toNat = 10 ^ (-e).toNat := rfl
  rw [contains]
  simp only [hvalue, hpow]
  split
  · simp [hlower.le, hupper.le]
  · simp [hlower, hupper]

/-- Of the two neighbours of the middle on a grid the upper one is tried first. -/
def prefersAbove (interval : Interval) (tie : Tie) (e : Int) : Bool :=
  if 2 * (interval.gridMiddle e % interval.gridUnit e) = interval.gridUnit e then
    match tie with
    | .away => true
    | .even => interval.gridMiddle e / interval.gridUnit e % 2 = 1
  else interval.gridUnit e < 2 * (interval.gridMiddle e % interval.gridUnit e)

theorem onGrid?_eq (interval : Interval) (tie : Tie) (e : Int) :
    interval.onGrid? tie e =
      let below := interval.gridMiddle e / interval.gridUnit e
      let neighbours := if interval.prefersAbove tie e then (below + 1, below) else (below, below + 1)
      if interval.contains ⟨neighbours.1, e⟩ then some ⟨neighbours.1, e⟩
      else if interval.contains ⟨neighbours.2, e⟩ then some ⟨neighbours.2, e⟩
      else none := rfl

/-- Of the two neighbours of the middle on a grid the nearer one is tried first. -/
theorem exists_neighbours (interval : Interval) (tie : Tie) (e : Int) :
    ∃ first second : Nat,
      (first = interval.gridMiddle e / interval.gridUnit e ∧ second = first + 1 ∧
          2 * (interval.gridMiddle e % interval.gridUnit e) ≤ interval.gridUnit e ∨
        second = interval.gridMiddle e / interval.gridUnit e ∧ first = second + 1 ∧
          interval.gridUnit e ≤ 2 * (interval.gridMiddle e % interval.gridUnit e)) ∧
      interval.onGrid? tie e =
        if interval.contains ⟨first, e⟩ then some ⟨first, e⟩
        else if interval.contains ⟨second, e⟩ then some ⟨second, e⟩
        else none := by
  rw [onGrid?_eq]
  cases hprefer : interval.prefersAbove tie e with
  | true =>
    refine ⟨_, _, .inr ⟨rfl, rfl, ?_⟩, rfl⟩
    unfold prefersAbove at hprefer
    split at hprefer
    next htie => exact htie.ge
    next => exact (of_decide_eq_true hprefer).le
  | false =>
    refine ⟨_, _, .inl ⟨rfl, rfl, ?_⟩, rfl⟩
    unfold prefersAbove at hprefer
    split at hprefer
    next htie => exact htie.le
    next => exact Nat.not_lt.1 (of_decide_eq_false hprefer)

/-- What is found on a grid is a neighbour of the middle and in the interval. -/
theorem onGrid?_eq_some {interval : Interval} {tie : Tie} {e : Int} {decimal : Decimal}
    (h : interval.onGrid? tie e = some decimal) :
    interval.contains decimal ∧ decimal.exponent = e ∧
      decimal.digits ≤ interval.gridMiddle e / interval.gridUnit e + 1 := by
  obtain ⟨first, second, hneighbours, hgrid⟩ := exists_neighbours interval tie e
  rw [hgrid] at h
  split at h
  next hfirst =>
    cases h
    exact ⟨hfirst, rfl, by dsimp only; omega⟩
  next =>
    split at h
    next hsecond =>
      cases h
      exact ⟨hsecond, rfl, by dsimp only; omega⟩
    next => cases h

/-- The nearest point of a grid is found if it is in the interval. -/
theorem isSome_onGrid? {interval : Interval} {tie : Tie} {e : Int} (hunit : 0 < interval.gridUnit e)
    (hnear : ∀ digits, 2 * (digits * interval.gridUnit e) ≤ 2 * interval.gridMiddle e + interval.gridUnit e →
      2 * interval.gridMiddle e ≤ 2 * (digits * interval.gridUnit e) + interval.gridUnit e →
        interval.contains ⟨digits, e⟩) :
    (interval.onGrid? tie e).isSome := by
  obtain ⟨first, second, hneighbours, hgrid⟩ := exists_neighbours interval tie e
  have hdivision := Nat.div_add_mod (interval.gridMiddle e) (interval.gridUnit e)
  rw [Nat.mul_comm] at hdivision
  have hfirst : interval.contains ⟨first, e⟩ := by
    obtain ⟨rfl, -, hrest⟩ | ⟨rfl, rfl, hrest⟩ := hneighbours
    · exact hnear _ (by omega) (by omega)
    · refine hnear _ ?_ ?_
      · rw [Nat.add_mul]
        omega
      · have hless := Nat.mod_lt (interval.gridMiddle e) hunit
        rw [Nat.add_mul]
        omega
  rw [hgrid, if_pos hfirst]
  rfl

/-- A decimal in an interval is no larger than the upper end, and smaller if the ends do not belong
    to the interval. -/
theorem value_le_of_contains {interval : Interval} {decimal : Decimal} (hden : 0 < interval.denominator)
    (h : interval.contains decimal) :
    decimal.value ≤ interval.upper / interval.denominator ∧
      (interval.closed = false → decimal.value < interval.upper / interval.denominator) := by
  have hpos : (0 : ℚ) < interval.denominator := by exact_mod_cast hden
  have hscale : (0 : ℚ) < 10 ^ (-decimal.exponent).toNat := by positivity
  have hvalue : decimal.value =
      (decimal.digits * 10 ^ decimal.exponent.toNat : Nat) / (10 ^ (-decimal.exponent).toNat : Nat) := by
    rw [value, zpow_eq_div]
    push_cast
    ring
  rw [hvalue, div_le_div_iff₀ (by exact_mod_cast hscale) hpos, div_lt_div_iff₀ (by exact_mod_cast hscale) hpos]
  norm_cast
  have hpow : ∀ n, Nat.pow 10 n = 10 ^ n := fun _ => rfl
  rw [contains] at h
  simp only [hpow] at h
  split at h
  next hclosed =>
    simp only [Bool.and_eq_true, decide_eq_true_eq] at h
    exact ⟨h.2, fun hopen => absurd hclosed (by simp [hopen])⟩
  next =>
    simp only [Bool.and_eq_true, decide_eq_true_eq] at h
    exact ⟨h.2.le, fun _ => h.2⟩

theorem digits_pos_of_contains {interval : Interval} {decimal : Decimal} (hlower : 0 < interval.lower)
    (h : interval.contains decimal) : 0 < decimal.digits := by
  have hscaled : 0 < interval.lower * Nat.pow 10 (-decimal.exponent).toNat :=
    Nat.mul_pos hlower (Nat.pow_pos (by decide))
  refine Nat.pos_of_ne_zero fun hzero => ?_
  rw [contains] at h
  simp only [hzero, Nat.zero_mul] at h
  split at h <;> simp only [Bool.and_eq_true, decide_eq_true_eq] at h <;> omega

variable {m : Nat} {e : Int} {narrowBelow : Bool}

theorem around_lower_pos (hm : 0 < m) : 0 < (around m e narrowBelow).lower := by
  refine Nat.mul_pos ?_ (Nat.pow_pos (by decide))
  split <;> omega

theorem around_middle_pos (hm : 0 < m) : 0 < (around m e narrowBelow).middle :=
  Nat.mul_pos (by omega) (Nat.pow_pos (by decide))

theorem around_denominator_pos : 0 < (around m e narrowBelow).denominator := Nat.pow_pos (by decide)

theorem around_upper_div : ((around m e narrowBelow).upper : ℚ) / (around m e narrowBelow).denominator =
    (4 * m + 2) * 2 ^ (e - 2) := by
  have hupper : (around m e narrowBelow).upper = (4 * m + 2) * 2 ^ (e - 2).toNat := rfl
  have hden : (around m e narrowBelow).denominator = 2 ^ (2 - e).toNat := rfl
  rw [hupper, hden, zpow_eq_div, show -(e - 2) = 2 - e by omega]
  push_cast
  ring

/-- On a grid of seventeen digits the nearest point is in the interval. -/
theorem isSome_onGrid?_around {tie : Tie} (hm : 0 < m) (hless : m < 10 ^ 16) (hnarrow : narrowBelow → 2 * m < 10 ^ 16) :
    ((around m e narrowBelow).onGrid? tie ((around m e narrowBelow).magnitude - (16 + 1 : Nat))).isSome := by
  have hden : 0 < (around m e narrowBelow).denominator := around_denominator_pos
  obtain ⟨hunits, -⟩ := gridMiddle_bounds (around_middle_pos hm) hden (n := 16) rfl
  set grid := (around m e narrowBelow).magnitude - (16 + 1 : Nat)
  have hunit : 0 < (around m e narrowBelow).gridUnit grid := Nat.mul_pos hden (Nat.pow_pos (by decide))
  set w := 2 ^ (e - 2).toNat * 10 ^ (-grid).toNat with hw
  have hwpos : 0 < w := Nat.mul_pos (Nat.pow_pos (by decide)) (Nat.pow_pos (by decide))
  have hmiddle : (around m e narrowBelow).gridMiddle grid = 4 * (m * w) := by
    rw [← Nat.mul_assoc]
    exact Nat.mul_assoc _ _ _
  have hlower : (around m e narrowBelow).lower * 10 ^ (-grid).toNat =
      4 * (m * w) - (if narrowBelow then 1 else 2) * w := by
    rw [← Nat.mul_assoc, ← Nat.sub_mul]
    exact Nat.mul_assoc _ _ _
  have hupper : (around m e narrowBelow).upper * 10 ^ (-grid).toNat = 4 * (m * w) + 2 * w := by
    rw [← Nat.mul_assoc, ← Nat.add_mul]
    exact Nat.mul_assoc _ _ _
  have hmw : m * w < 10 ^ 16 * w := Nat.mul_lt_mul_of_pos_right hless hwpos
  have hnarrowMw : narrowBelow → 2 * (m * w) < 10 ^ 16 * w := fun h => by
    rw [← Nat.mul_assoc]
    exact Nat.mul_lt_mul_of_pos_right (hnarrow h) hwpos
  rw [hmiddle] at hunits
  refine isSome_onGrid? hunit fun digits hle hge => contains_of_between ?_ ?_
  · rw [hlower]
    rw [hmiddle] at hge
    split <;> grind
  · rw [hupper]
    rw [hmiddle] at hle
    grind

end Interval

/-- A decimal that could be printed for `m * 2 ^ e`: it has one to seventeen digits and is no larger
    than what rounds to that number. -/
structure Prints (m : Nat) (e : Int) (decimal : Decimal) : Prop where
  pos : 0 < decimal.digits
  few : decimal.digits ≤ 10 ^ 17
  le : decimal.value ≤ (4 * m + 2) * 2 ^ (e - 2)
  lt : m % 2 = 1 → decimal.value < (4 * m + 2) * 2 ^ (e - 2)

theorem Prints.dropZeros {m : Nat} {e : Int} {decimal : Decimal} (h : Prints m e decimal) (count : Nat) :
    Prints m e (decimal.dropZeros count) := by
  induction count generalizing decimal with
  | zero => exact h
  | succ count ih =>
    rw [Decimal.dropZeros]
    split
    next hzero =>
      have hvalue : (⟨decimal.digits / 10, decimal.exponent + 1⟩ : Decimal).value = decimal.value := by
        obtain ⟨k, hk⟩ : ∃ k, decimal.digits = 10 * k := ⟨decimal.digits / 10, by omega⟩
        simp only [value, hk, Nat.mul_div_cancel_left k (show 0 < 10 by decide)]
        rw [zpow_add_one₀ (by norm_num)]
        push_cast
        ring
      have hpos := h.pos
      have hfew := h.few
      refine ih ⟨?_, ?_, hvalue ▸ h.le, hvalue ▸ h.lt⟩
      · dsimp only
        omega
      · dsimp only
        omega
    next => exact h

theorem prints_of_onGrid? {tie : Tie} {m : Nat} {e : Int} {narrowBelow : Bool} {decimal : Decimal} {n : Nat} (hm : 0 < m)
    (hn : n < maxDigits)
    (h : (Interval.around m e narrowBelow).onGrid? tie ((Interval.around m e narrowBelow).magnitude - (n + 1 : Nat)) =
      some decimal) : Prints m e decimal := by
  obtain ⟨hcontains, hexponent, hdigits⟩ := Interval.onGrid?_eq_some h
  obtain ⟨hle, hlt⟩ := Interval.value_le_of_contains Interval.around_denominator_pos hcontains
  rw [Interval.around_upper_div] at hle hlt
  refine ⟨Interval.digits_pos_of_contains (Interval.around_lower_pos hm) hcontains, ?_, hle, fun hodd =>
    hlt (decide_eq_false (by omega))⟩
  have hden : 0 < (Interval.around m e narrowBelow).denominator := Interval.around_denominator_pos
  have hless := (Interval.gridMiddle_bounds (Interval.around_middle_pos hm) hden (n := n) rfl).2
  calc decimal.digits ≤ _ := hdigits
    _ ≤ 10 ^ (n + 1) := Nat.div_lt_of_lt_mul (by rwa [Nat.mul_comm] at hless)
    _ ≤ 10 ^ 17 := Nat.pow_le_pow_right (by decide) hn

/-- The shortest decimal of a positive number. -/
theorem prints_shortest {tie : Tie} {m : Nat} {e : Int} {narrowBelow : Bool} (hm : 0 < m) (hless : m < 10 ^ 16)
    (hnarrow : narrowBelow → 2 * m < 10 ^ 16) : Prints m e (shortest tie m e narrowBelow) := by
  obtain ⟨decimal, hfound⟩ : ∃ decimal, (List.range maxDigits).findSome? (fun n =>
      (Interval.around m e narrowBelow).onGrid? tie ((Interval.around m e narrowBelow).magnitude - (n + 1 : Nat))) =
        some decimal := by
    rw [← Option.isSome_iff_exists, List.findSome?_isSome_iff]
    exact ⟨16, by decide, Interval.isSome_onGrid?_around hm hless hnarrow⟩
  obtain ⟨n, hn, hgrid⟩ := List.exists_of_findSome?_eq_some hfound
  have hprints := prints_of_onGrid? hm (List.mem_range.1 hn) hgrid
  rw [shortest, hfound]
  exact hprints.dropZeros maxDigits

end TemplateTree.Decimal
