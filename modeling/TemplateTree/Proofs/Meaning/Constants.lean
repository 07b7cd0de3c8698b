import TemplateTree.Number.Arithmetic
import TemplateTree.Proofs.Meaning.Plain

namespace TemplateTree

/-- The operations of a width of integers are the exact ones, wrapped around. -/
structure Wraps {α : Type} [Add α] [Sub α] [Mul α] [Div α] [Mod α] [OfNat α 0] (ofInt : Int → α) (toInt : α → Int) :
    Prop where
  eq_zero_iff (a : α) : a = 0 ↔ toInt a = 0
  add (a b : α) : ofInt (toInt a + toInt b) = a + b
  sub (a b : α) : ofInt (toInt a - toInt b) = a - b
  mul (a b : α) : ofInt (toInt a * toInt b) = a * b
  tdiv (a b : α) : ofInt ((toInt a).tdiv (toInt b)) = a / b
  tmod (a b : α) : ofInt ((toInt a).tmod (toInt b)) = a % b

theorem int32_wraps : Wraps Int32.ofInt Int32.toInt where
  eq_zero_iff a := by rw [← Int32.toInt_inj, Int32.toInt_zero]
  add a b := by simp
  sub a b := by simp
  mul a b := by simp
  tdiv a b := Int32.toInt_inj.1 (by simp)
  tmod a b := by rw [← Int32.toInt_mod, Int32.ofInt_toInt]

theorem int64_wraps : Wraps Int64.ofInt Int64.toInt where
  eq_zero_iff a := by rw [← Int64.toInt_inj, Int64.toInt_zero]
  add a b := by simp
  sub a b := by simp
  mul a b := by simp
  tdiv a b := Int64.toInt_inj.1 (by simp)
  tmod a b := by rw [← Int64.toInt_mod, Int64.ofInt_toInt]

section Wraps

variable {α : Type} [Add α] [Sub α] [Mul α] [Div α] [Mod α] [OfNat α 0] [DecidableEq α]
  {ofInt : Int → α} {toInt : α → Int}

/-- An operation of the width is the exact one, wrapped around, and there is none where there is no exact one. -/
theorem Wraps.integer?_eq (hwraps : Wraps ofInt toInt) (operator : TokenKind) (a b : α) :
    operator.integer? a b = (operator.exact (toInt a) (toInt b)).toOption.map ofInt := by
  cases operator with
  | plus => exact congrArg some (hwraps.add a b).symm
  | minus => exact congrArg some (hwraps.sub a b).symm
  | mult => exact congrArg some (hwraps.mul a b).symm
  | div =>
    simp only [TokenKind.integer?, TokenKind.exact, hwraps.eq_zero_iff]
    split
    next => rfl
    next => exact congrArg some (hwraps.tdiv a b).symm
  | mod =>
    simp only [TokenKind.integer?, TokenKind.exact, hwraps.eq_zero_iff]
    split
    next => rfl
    next => exact congrArg some (hwraps.tmod a b).symm
  | _ => rfl

theorem Wraps.exact_of_integer? (hwraps : Wraps ofInt toInt) {operator : TokenKind} {a b c : α}
    (h : operator.integer? a b = some c) : (operator.exact (toInt a) (toInt b)).map ofInt = .ok c := by
  rw [hwraps.integer?_eq] at h
  cases hexact : operator.exact (toInt a) (toInt b) with
  | error abort =>
    rw [hexact] at h
    cases h
  | ok result =>
    rw [hexact] at h
    cases h
    rfl

end Wraps

/-- Folded arithmetic has the value and the type of the operation. -/
theorem Number.combine_of_arithmetic? {operator : TokenKind} {ty : Ty} {l r n : Number}
    (hl : ty.Holds (.number l)) (hr : ty.Holds (.number r)) (h : Number.arithmetic? operator ty l r = some n) :
    (Value.number l).combine operator (.number r) = .ok (.number n) ∧ n.naturalTy = ty ∧ ty.Holds (.number n) := by
  cases hl with
  | int a =>
    cases hr with
    | int b =>
      obtain ⟨c, hc, rfl⟩ := Option.map_eq_some_iff.1 h
      have hcombine : (Value.number (.int a)).combine operator (.number (.int b)) =
          ((operator.exact a.toInt b.toInt).map Int32.ofInt).map fun c => .number (.int c) := by
        rw [Value.combine]
        cases operator.exact a.toInt b.toInt <;> rfl
      have hexact : (operator.exact a.toInt b.toInt).map Int32.ofInt = .ok c := int32_wraps.exact_of_integer? hc
      refine ⟨?_, rfl, .int c⟩
      rw [hcombine, hexact]
      rfl
  | long a =>
    cases hr with
    | long b =>
      obtain ⟨c, hc, rfl⟩ := Option.map_eq_some_iff.1 h
      have hcombine : (Value.number (.long a)).combine operator (.number (.long b)) =
          ((operator.exact a.toInt b.toInt).map Int64.ofInt).map fun c => .number (.long c) := by
        rw [Value.combine]
        cases operator.exact a.toInt b.toInt <;> rfl
      have hexact : (operator.exact a.toInt b.toInt).map Int64.ofInt = .ok c := int64_wraps.exact_of_integer? hc
      refine ⟨?_, rfl, .long c⟩
      rw [hcombine, hexact]
      rfl

/-- A comparison that depends on how two values are ordered has the truth of the relation. -/
theorem TokenKind.relates_of_ordered? {α : Type} [LinearOrder α] {operator : TokenKind} {ordering : Ordering} {a b : α}
    {answer : Bool} (hlt : ordering = .lt ↔ a < b) (hgt : ordering = .gt ↔ b < a)
    (h : operator.ordered? ordering = some answer) : operator.relates a b = .ok answer := by
  have heq : ordering = .eq ↔ a = b := by
    cases ordering with
    | lt => simp [ne_of_lt (hlt.1 rfl)]
    | gt => simp [(ne_of_lt (hgt.1 rfl)).symm]
    | eq => simpa using le_antisymm (not_lt.1 (mt hgt.2 (by simp))) (not_lt.1 (mt hlt.2 (by simp)))
  cases operator with
  | eq | ne | lt | gt | le | ge =>
    cases h
    simp [relates, hlt, hgt, heq]
  | _ => cases h

namespace Text

theorem compareUnits_eq_lt_iff (as bs : List Nat) : compareUnits as bs = .lt ↔ as < bs := by
  induction as generalizing bs with
  | nil => cases bs <;> simp [compareUnits]
  | cons a as ih =>
    cases bs with
    | nil => simp [compareUnits]
    | cons b bs =>
      rw [compareUnits, List.cons_lt_cons_iff]
      split
      next hlt => simp [hlt]
      next hnlt =>
        split
        next hgt => simp [hnlt, (ne_of_lt hgt).symm]
        next hngt =>
          rw [ih]
          simp [le_antisymm (not_lt.1 hngt) (not_lt.1 hnlt)]

theorem compareUnits_swap (as bs : List Nat) : compareUnits as bs = (compareUnits bs as).swap := by
  induction as generalizing bs with
  | nil => cases bs <;> rfl
  | cons a as ih =>
    cases bs with
    | nil => rfl
    | cons b bs =>
      rw [compareUnits, compareUnits, ih]
      split
      next hlt => rw [if_neg (not_lt_of_gt hlt)]; rfl
      next => split <;> rfl

theorem compareUnits_eq_gt_iff (as bs : List Nat) : compareUnits as bs = .gt ↔ bs < as := by
  rw [compareUnits_swap, ← compareUnits_eq_lt_iff]
  cases compareUnits bs as <;> simp

end Text

/-- The folded comparison of two known values of one type is its truth. -/
theorem Value.holds_of_compare? {operator : TokenKind} {ty : Ty} {l r : Number} {answer : Bool}
    (hl : ty.Holds (.number l)) (hr : ty.Holds (.number r)) (h : Number.compare? operator ty l r = some answer) :
    (Value.number l).holds operator (.number r) = .ok (.boolean answer) := by
  cases hl with
  | int a =>
    cases hr with
    | int b =>
      have hrelates : operator.relates a.toInt b.toInt = .ok answer :=
        TokenKind.relates_of_ordered? Int.compare_eq_lt Int.compare_eq_gt h
      rw [Value.holds_ints, hrelates]
      rfl
  | long a =>
    cases hr with
    | long b =>
      have hrelates : operator.relates a.toInt b.toInt = .ok answer :=
        TokenKind.relates_of_ordered? Int.compare_eq_lt Int.compare_eq_gt h
      rw [Value.holds_longs, hrelates]
      rfl

theorem Value.holds_of_units {operator : TokenKind} {l r : String} {answer : Bool}
    (h : operator.ordered? (Text.compareUnits (Text.units l) (Text.units r)) = some answer) :
    (Value.string l).holds operator (.string r) = .ok (.boolean answer) := by
  rw [Value.holds_strings,
    TokenKind.relates_of_ordered? (Text.compareUnits_eq_lt_iff _ _) (Text.compareUnits_eq_gt_iff _ _) h]
  rfl

end TemplateTree
