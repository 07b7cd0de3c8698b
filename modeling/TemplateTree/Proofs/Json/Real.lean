import TemplateTree.Proofs.Decimal.Shortest
import TemplateTree.Proofs.Json.Numeral
import TemplateTree.Proofs.Json.Scaled

namespace TemplateTree

namespace Binary.Format

/-- The mantissas and exponents of a format. -/
theorem decode_bounds {format : Format} {bits m : Nat} {e : Int} {negative : Bool}
    (h : format.decode bits = .finite negative m e) :
    m < 2 ^ (format.fractionBits + 1) ∧
      (e = format.minExponent ∨ e + 3 ≤ format.minExponent + 2 ^ format.exponentBits) := by
  have hfraction : bits % 2 ^ format.fractionBits < 2 ^ format.fractionBits := Nat.mod_lt _ (Nat.two_pow_pos _)
  have hbiased : bits / 2 ^ format.fractionBits % 2 ^ format.exponentBits < 2 ^ format.exponentBits :=
    Nat.mod_lt _ (Nat.two_pow_pos _)
  have hdouble : 2 ^ (format.fractionBits + 1) = 2 * 2 ^ format.fractionBits := Nat.pow_succ'
  have hpow : ∀ n, Nat.pow 2 n = 2 ^ n := fun _ => rfl
  have hcast : ((2 ^ format.exponentBits : Nat) : Int) = 2 ^ format.exponentBits := by push_cast; rfl
  unfold decode at h
  simp only [hpow] at h
  generalize bits / 2 ^ format.fractionBits % 2 ^ format.exponentBits = biased at h hbiased
  split at h
  next => split at h <;> cases h
  next hfinite =>
    split at h
    next =>
      cases h
      exact ⟨by omega, .inl rfl⟩
    next =>
      cases h
      exact ⟨by omega, .inr (by omega)⟩

end Binary.Format

namespace Decimal

/-- A positive decimal of few digits that is finite, also after its digits are scaled. -/
structure Scalable (decimal : Decimal) : Prop where
  pos : 0 < decimal.digits
  few : decimal.digits ≤ 10 ^ 17
  finite : decimal.value < overflowBound
  last : decimal.exponent = 292 → decimal.digits ≤ 17976931348623157

/-- The shortest decimal of the largest 64-bit number. -/
theorem shortest_largest : shortest .even (2 ^ 53 - 1) 971 false = ⟨17976931348623157, 292⟩ := by decide +kernel

theorem upper_le {m a k : Nat} {e : Int} (ha : 4 * m + 2 ≤ a) (he : e - 2 ≤ k) :
    ((4 * m + 2) * 2 ^ (e - 2) : ℚ) ≤ (a * 2 ^ k : Nat) := by
  have hfactor : (4 * m + 2 : ℚ) ≤ a := by exact_mod_cast ha
  have hpow : (2 : ℚ) ^ (e - 2) ≤ 2 ^ k := by
    rw [← zpow_natCast]
    exact zpow_le_zpow_right₀ (by norm_num) he
  rw [Nat.cast_mul, Nat.cast_pow, Nat.cast_ofNat]
  gcongr

theorem Prints.finite {m : Nat} {e : Int} {decimal : Decimal} (h : Prints m e decimal) (hm : m < 2 ^ 53)
    (he : e ≤ 971) : decimal.value < overflowBound := by
  rw [overflowBound_eq]
  by_cases hodd : m % 2 = 1
  · have hlargest : (2 ^ 55 - 2) * 2 ^ 969 ≤ (2 ^ 54 - 1) * 2 ^ 970 := by decide +kernel
    calc decimal.value < (4 * m + 2) * 2 ^ (e - 2) := h.lt hodd
      _ ≤ ((2 ^ 55 - 2) * 2 ^ 969 : Nat) := upper_le (by omega) (by omega)
      _ ≤ ((2 ^ 54 - 1) * 2 ^ 970 : Nat) := Nat.cast_le.2 hlargest
  · have hless : (2 ^ 55 - 6) * 2 ^ 969 < (2 ^ 54 - 1) * 2 ^ 970 := by decide +kernel
    calc decimal.value ≤ (4 * m + 2) * 2 ^ (e - 2) := h.le
      _ ≤ ((2 ^ 55 - 6) * 2 ^ 969 : Nat) := upper_le (by omega) (by omega)
      _ < ((2 ^ 54 - 1) * 2 ^ 970 : Nat) := Nat.cast_lt.2 hless

/-- Seventeen digits up to the bound are only needed for the largest number. -/
theorem Prints.largest {m : Nat} {e : Int} {decimal : Decimal} (h : Prints m e decimal) (hm : m < 2 ^ 53)
    (he : e ≤ 971) (hexponent : decimal.exponent = 292) (hdigits : 17976931348623157 < decimal.digits) :
    m = 2 ^ 53 - 1 ∧ e = 971 := by
  have hvalue : ((17976931348623158 * 10 ^ 292 : Nat) : ℚ) ≤ (4 * m + 2) * 2 ^ (e - 2) := by
    refine le_trans ?_ h.le
    have hcast : (17976931348623158 : ℚ) ≤ decimal.digits := by exact_mod_cast hdigits
    rw [value, hexponent, zpow_ofNat, Nat.cast_mul, Nat.cast_pow, Nat.cast_ofNat, Nat.cast_ofNat]
    gcongr
  by_contra hother
  have hsmaller : 4 * m + 2 ≤ 2 ^ 55 - 6 ∨ e ≤ 970 := by omega
  obtain hmantissa | hexponent := hsmaller
  · have hless : (2 ^ 55 - 6) * 2 ^ 969 < 17976931348623158 * 10 ^ 292 := by decide +kernel
    exact absurd (Nat.cast_le.1 (hvalue.trans (upper_le hmantissa (k := 969) (by omega)))) (Nat.not_le.2 hless)
  · have hless : (2 ^ 55 - 2) * 2 ^ 968 < 17976931348623158 * 10 ^ 292 := by decide +kernel
    exact absurd (Nat.cast_le.1 (hvalue.trans (upper_le (a := 2 ^ 55 - 2) (k := 968) (by omega) (by omega))))
      (Nat.not_le.2 hless)

theorem scalable_shortest {m : Nat} {e : Int} {narrowBelow : Bool} (hpos : 0 < m) (hm : m < 2 ^ 53) (he : e ≤ 971)
    (hnarrow : narrowBelow → m ≤ 2 ^ 52) : (shortest .even m e narrowBelow).Scalable := by
  have hprints : Prints m e (shortest .even m e narrowBelow) :=
    prints_shortest hpos (by omega) fun h => by have := hnarrow h; omega
  refine ⟨hprints.pos, hprints.few, hprints.finite hm he, fun hexponent => Nat.le_of_not_lt fun hmore => ?_⟩
  obtain ⟨rfl, rfl⟩ := hprints.largest hm he hexponent hmore
  obtain rfl : narrowBelow = false := by
    rw [Bool.eq_false_iff]
    exact fun h => absurd (hnarrow h) (by decide)
  rw [shortest_largest] at hmore
  exact Nat.lt_irrefl _ hmore

end Decimal

namespace Numeral

theorem valueFrom_zeros (start count : Nat) :
    valueFrom start (List.replicate count Digit.zero) = start * 10 ^ count := by
  induction count generalizing start with
  | zero => exact (Nat.mul_one start).symm
  | succ count ih =>
    calc valueFrom (start * 10 + 0) (List.replicate count Digit.zero) = start * 10 * 10 ^ count := ih _
      _ = start * 10 ^ (count + 1) := by rw [Nat.pow_succ', Nat.mul_assoc]

/-- A numeral with a fraction or an exponent is read by scaling all its digits, if they fit a word. -/
theorem isSome_real? {numeral : Numeral} {n : Nat} {e : Int}
    (hvalue : valueFrom 0 (numeral.whole ++ numeral.fraction) = n) (hfits : n ≤ wordMax)
    (hreal : numeral.fraction ≠ [] ∨ numeral.exponent?.isSome)
    (he : numeral.exponent?.getD 0 - numeral.fraction.length = e) (h : (scaled? (doubleOfInt n) e).isSome) :
    numeral.real?.isSome := by
  rw [valueFrom_append] at hvalue
  have hwhole : valueFrom 0 numeral.whole ≤ wordMax := by
    have := le_valueFrom (valueFrom 0 numeral.whole) numeral.fraction
    omega
  have hnumber : (numeral.fraction.isEmpty && numeral.exponent?.isNone && ([] : List Digit).isEmpty) = false := by
    obtain hfraction | hexponent := hreal
    · simp [hfraction]
    · simp [Option.isNone_eq_false_iff.2 hexponent]
  have hexponent : (([] : List Digit).length : Int) - ((numeral.fraction.length : Int) - ([] : List Digit).length) +
      numeral.exponent?.getD 0 = e := by
    simp only [List.length_nil]
    omega
  rw [real?, accumulate_eq_of_le hwhole]
  simp only [hnumber, Bool.false_eq_true, if_false]
  rw [accumulate_eq_of_le (by omega)]
  simp only [hvalue, hexponent, Option.isSome_map, h]

/-- Without an exponent the fraction only scales the digits down. -/
theorem isSome_real?_of_fraction {numeral : Numeral} (hexponent : numeral.exponent? = none)
    (hfraction : 0 < numeral.fraction.length) (hfits : valueFrom 0 (numeral.whole ++ numeral.fraction) ≤ wordMax) :
    numeral.real?.isSome := by
  refine isSome_real? rfl hfits (.inl (List.ne_nil_of_length_pos hfraction)) rfl (isSome_scaled?_of_neg ?_)
  rw [hexponent, Option.getD_none]
  omega

/-- Where a decimal keeps few digits it is read in every layout. -/
theorem isSome_real?_ofDecimal {positional : Positional} (hupTo : positional.upTo ≤ 16) (negative : Bool)
    {decimal : Decimal} (h : decimal.Scalable) :
    (ofDecimal positional negative decimal).real?.isSome := by
  obtain ⟨hpos, hfew, hvalue, hlast⟩ := h
  have hword : 10 ^ 17 ≤ wordMax := by decide
  have hdigits := valueFrom_digitsOf decimal.digits
  have hlength := List.length_pos_iff.2 (digitsOf_ne_nil decimal.digits)
  have hless : decimal.digits < 10 ^ (digitsOf decimal.digits).length := by
    rw [digitsOf, List.length_map]
    exact Decimal.lt_pow_digitCount _
  rw [ofDecimal]
  simp only [Bool.and_eq_true, decide_eq_true_eq]
  split
  next hlayout =>
    obtain ⟨k, hk⟩ := Int.eq_ofNat_of_zero_le hlayout.1
    have hzeros : decimal.digits * 10 ^ k * 10 ≤ 10 ^ 17 :=
      calc decimal.digits * 10 ^ k * 10 ≤ 10 ^ (digitsOf decimal.digits).length * 10 ^ k * 10 := by gcongr
        _ = 10 ^ ((digitsOf decimal.digits).length + k + 1) := by rw [← Nat.pow_add, ← Nat.pow_succ]
        _ ≤ 10 ^ 17 := Nat.pow_le_pow_right (by omega) (by omega)
    refine isSome_real?_of_fraction rfl Nat.zero_lt_one ?_
    rw [valueFrom_append, valueFrom_append, hdigits, valueFrom_zeros, hk]
    exact hzeros.trans hword
  split
  next hmixed hlayout =>
    refine isSome_real?_of_fraction rfl ?_ ?_
    · rw [List.length_drop]
      omega
    · rw [List.take_append_drop, hdigits]
      omega
  split
  next hsmall hlayout =>
    refine isSome_real?_of_fraction rfl ?_ ?_
    · rw [List.length_append]
      omega
    · rw [valueFrom_append, valueFrom_append, valueFrom_zeros, show valueFrom 0 [Digit.zero] = 0 from rfl, Nat.zero_mul,
        hdigits]
      omega
  next =>
    have hall :
        valueFrom 0 ((digitsOf decimal.digits).take 1 ++ (digitsOf decimal.digits).drop 1) = decimal.digits := by
      rw [List.take_append_drop, hdigits]
    refine isSome_real? hall (by omega) (.inr rfl) ?_ (isSome_scaled? hfew hvalue hlast hpos)
    simp only [Option.getD_some, List.length_drop]
    omega

theorem wellFormed_of_head? {numeral : Numeral} {n : Nat} (hn : 0 < n)
    (h : numeral.whole.head? = (digitsOf n).head?) : numeral.WellFormed := by
  constructor
  · rintro hnil
    rw [hnil] at h
    exact digitsOf_ne_nil n (List.head?_eq_none_iff.1 h.symm)
  · rintro rest hrest
    rw [hrest] at h
    obtain ⟨tail, htail⟩ := List.head?_eq_some_iff.1 h.symm
    have := (eq_nil_of_digitsOf_eq_zero_cons htail).1
    omega

theorem wellFormed_ofDecimal (positional : Positional) (negative : Bool) {decimal : Decimal}
    (hpos : 0 < decimal.digits) : (ofDecimal positional negative decimal).WellFormed := by
  have hnil := digitsOf_ne_nil decimal.digits
  rw [ofDecimal]
  simp only [Bool.and_eq_true, decide_eq_true_eq]
  split
  next => exact wellFormed_of_head? hpos (List.head?_append_of_ne_nil _ hnil)
  split
  next hlayout => exact wellFormed_of_head? hpos (List.head?_take.trans (if_neg (by omega)))
  split
  next => exact ⟨List.cons_ne_nil _ _, fun _ h => (List.cons.inj h).2.symm⟩
  next => exact wellFormed_of_head? hpos (List.head?_take.trans (if_neg (by decide)))

/-- In a format no larger than the 64-bit one every numeral of a number is read. -/
theorem ofDatum?_decode_eq_some {format : Binary.Format} {positional : Positional} {bits : Nat} {numeral : Numeral}
    (hupTo : positional.upTo ≤ 16) (hfraction : format.fractionBits ≤ 52) (hleast : format.minExponent ≤ 971)
    (hmost : format.minExponent + 2 ^ format.exponentBits ≤ 974)
    (h : ofDatum? format positional (format.decode bits) = some numeral) :
    numeral.WellFormed ∧ numeral.real?.isSome := by
  cases hdatum : format.decode bits with
  | nan => simp [hdatum, ofDatum?] at h
  | infinite negative => simp [hdatum, ofDatum?] at h
  | finite negative m e =>
    obtain ⟨hm, he⟩ := Binary.Format.decode_bounds hdatum
    have hmantissa : m < 2 ^ 53 := hm.trans_le (Nat.pow_le_pow_right (by decide) (by omega))
    have hexponent : e ≤ 971 := by
      obtain rfl | hless := he
      · exact hleast
      · linarith
    rw [hdatum, ofDatum?] at h
    split at h
    next =>
      cases h
      refine ⟨⟨List.cons_ne_nil _ _, fun _ h => (List.cons.inj h).2.symm⟩, ?_⟩
      exact isSome_real?_of_fraction rfl Nat.zero_lt_one (Nat.zero_le _)
    next hzero =>
      have hnarrow : (m = Nat.pow 2 format.fractionBits && e ≠ format.minExponent) → m ≤ 2 ^ 52 := fun h => by
        rw [Bool.and_eq_true, decide_eq_true_eq] at h
        rw [h.1]
        exact Nat.pow_le_pow_right (by decide) hfraction
      cases h
      have hscalable := Decimal.scalable_shortest (Nat.pos_of_ne_zero hzero) hmantissa hexponent hnarrow
      exact ⟨wellFormed_ofDecimal _ _ hscalable.pos, isSome_real?_ofDecimal hupTo _ hscalable⟩

theorem isSome_double? {numeral : Numeral} (h : numeral.real?.isSome) : numeral.double?.isSome := by
  rw [double?]
  split
  · rfl
  · exact h

theorem isSome_single? {numeral : Numeral} (h : numeral.real?.isSome) : numeral.single?.isSome := by
  rw [single?]
  split
  · rfl
  · rwa [Option.isSome_map]

theorem ofDouble?_eq_some {x : Float} {numeral : Numeral} (h : ofDouble? x = some numeral) :
    numeral.WellFormed ∧ numeral.double?.isSome :=
  (ofDatum?_decode_eq_some (by decide) (by decide) (by decide) (by decide) h).imp_right isSome_double?

theorem ofSingle?_eq_some {x : Float32} {numeral : Numeral} (h : ofSingle? x = some numeral) :
    numeral.WellFormed ∧ numeral.single?.isSome :=
  (ofDatum?_decode_eq_some (by decide) (by decide) (by decide) (by decide) h).imp_right isSome_single?

end Numeral

end TemplateTree
