import Mathlib.Algebra.Group.Int.Defs
import Mathlib.Algebra.Group.Nat.Defs
import TemplateTree.Folding

namespace TemplateTree

/-- The widths of integers. -/
inductive Width where
  | int
  | long
deriving DecidableEq

namespace Width

def ty : Width → Ty
  | int => .int
  | long => .long

def bits : Width → Nat
  | int => 32
  | long => 64

/-- The width of an integer type. -/
def ofTy? (ty : Ty) : Option Width :=
  if ty = .int then some int else if ty = .long then some long else none

/-- The integer of the width that agrees with `v` in its lower bits. -/
def wrap (w : Width) (v : Int) : Int := v.bmod (2 ^ w.bits)

/-- The integer that a number literal denotes in the width. -/
def read : Width → Number → Int
  | int, n => n.toInt32.toInt
  | long, n => n.toInt64.toInt

end Width

/-- The number is an `int` or a `long`. -/
def Number.isInteger : Number → Bool
  | .int _ => true
  | .long _ => true
  | _ => false

/-- What comes out of a chain of integer coercions, given what its natural type holds: every step
    is a cast. -/
def Chain.carry? (chain : Chain) (natural : Width → Int) : Option Int :=
  match chain.steps with
  | [] => none
  | first :: rest => do
    let w ← Width.ofTy? first.target
    rest.foldlM (fun v step => (Width.ofTy? step.target).map (·.wrap v)) (natural w)

/-- The value of an expression made of integer literals, variables and negations. -/
def Expr.integer? (env : String → Int) : Expr → Option Int
  | .paren _ inner => inner.integer? env
  | .literal head (.number n) => head.chain.carry? (·.read n)
  | .varRef head ref => head.chain.carry? (·.wrap (env ref.name.name))
  | .unary head .negate operand => do
    let v ← operand.integer? env
    head.chain.carry? (·.wrap (-v))
  | _ => none

namespace Width

theorem wrap_wrap (w : Width) (v : Int) : w.wrap (w.wrap v) = w.wrap v := Int.bmod_bmod

theorem wrap_neg_wrap (w : Width) (v : Int) : w.wrap (-w.wrap v) = w.wrap (-v) := Int.bmod_neg_bmod

/-- Narrowing forgets what widening added. -/
theorem int_wrap_long_wrap (v : Int) : int.wrap (long.wrap v) = int.wrap v := Int.bmod_bmod_of_dvd (by decide)

theorem le_int_wrap (v : Int) : -2 ^ 31 ≤ int.wrap v := Int.le_bmod (m := 2 ^ 32) (by decide)

theorem int_wrap_lt (v : Int) : int.wrap v < 2 ^ 31 := Int.bmod_lt (m := 2 ^ 32) (by decide)

theorem int_wrap_eq_self {v : Int} (hlow : -2 ^ 31 ≤ v) (hhigh : v < 2 ^ 31) : int.wrap v = v :=
  Int.bmod_eq_of_le (by simpa [bits] using hlow) (by simpa [bits] using hhigh)

theorem long_wrap_eq_self {v : Int} (hlow : -2 ^ 31 ≤ v) (hhigh : v ≤ 2 ^ 31) : long.wrap v = v :=
  Int.bmod_eq_of_le (by simp [bits]; omega) (by simp [bits]; omega)

/-- The opposite of the least integer wraps around to itself, and no other does. -/
theorem int_wrap_neg_eq_least_iff {v : Int} (hlow : -2 ^ 31 ≤ v) (hhigh : v < 2 ^ 31) :
    int.wrap (-v) = -2 ^ 31 ↔ v = -2 ^ 31 := by
  by_cases hleast : v = -2 ^ 31
  · rw [hleast]
    decide
  · rw [int_wrap_eq_self (by omega) (by omega)]
    omega

/-- A cast commutes with negation, except where it widens the least integer. -/
theorem wrap_neg_iff (u w : Width) (v : Int) :
    w.wrap (u.wrap (-v)) = w.wrap (-w.wrap (u.wrap v)) ↔ ¬ (u = int ∧ w = long ∧ u.wrap v = -2 ^ 31) := by
  rw [wrap_neg_wrap]
  cases u with
  | long =>
    refine iff_of_true ?_ (by simp)
    cases w with
    | int => rw [int_wrap_long_wrap, ← wrap_neg_wrap int (long.wrap v), int_wrap_long_wrap, wrap_neg_wrap]
    | long => rw [wrap_neg_wrap, wrap_wrap]
  | int =>
    cases w with
    | int => exact iff_of_true (by rw [wrap_neg_wrap, wrap_wrap]) (by simp)
    | long =>
      have hlow := le_int_wrap v
      have hhigh := int_wrap_lt v
      have hwide : long.wrap (int.wrap (-v)) = int.wrap (-v) :=
        long_wrap_eq_self (le_int_wrap _) (Int.le_of_lt (int_wrap_lt _))
      rw [hwide, ← wrap_neg_wrap int v, long_wrap_eq_self (by omega) (by omega)]
      by_cases hleast : int.wrap v = -2 ^ 31
      · rw [hleast]
        decide
      · rw [int_wrap_eq_self (by omega) (by omega)]
        exact iff_of_true rfl fun hexception => hleast hexception.2.2

theorem wrap_toInt32 (a : Int32) : int.wrap a.toInt = a.toInt := a.toInt_bmod

theorem wrap_toInt64 (a : Int64) : long.wrap a.toInt = a.toInt := a.toInt_bmod

theorem read_int (w : Width) (a : Int32) : w.read (.int a) = w.wrap a.toInt := by
  cases w with
  | int => exact (wrap_toInt32 a).symm
  | long =>
    have hlow := a.le_toInt
    have hhigh := a.toInt_lt
    rw [long_wrap_eq_self hlow (Int.le_of_lt hhigh)]
    exact a.toInt_toInt64

theorem read_long (w : Width) (a : Int64) : w.read (.long a) = w.wrap a.toInt := by
  cases w with
  | int => exact a.toInt_toInt32
  | long => exact (wrap_toInt64 a).symm

/-- Negating a number in its own width and reading it in another is the same as negating it there, except
    for the least `int`. -/
theorem read_negated_iff (w : Width) {n : Number} (hn : n.isInteger) :
    w.read n.negated = w.wrap (-w.read n) ↔ ¬ (n = .int .minValue ∧ w = long) := by
  cases n with
  | int a =>
    have hleast : a.toInt = -2 ^ 31 ↔ a = .minValue := by
      rw [← Int32.toInt_inj]
      rfl
    have hcast := wrap_neg_iff int w a.toInt
    rw [wrap_toInt32, hleast] at hcast
    rw [Number.negated, read_int, read_int, Int32.toInt_neg]
    refine hcast.trans (not_congr ?_)
    simp [and_comm]
  | long a =>
    have hcast := wrap_neg_iff long w a.toInt
    rw [wrap_toInt64] at hcast
    rw [Number.negated, read_long, read_long, Int64.toInt_neg]
    exact hcast.trans (by simp)
  | float | double => cases hn

/-- Negating a value twice, with a cast in between, is the cast, except where that widens the least
    `int`. -/
theorem wrap_neg_wrap_neg_iff (u w : Width) (v : Int) :
    w.wrap (u.wrap v) = w.wrap (-w.wrap (u.wrap (-u.wrap v))) ↔ ¬ (u = int ∧ w = long ∧ u.wrap v = -2 ^ 31) := by
  have hcast := wrap_neg_iff u w (-u.wrap v)
  rw [Int.neg_neg, wrap_wrap] at hcast
  refine hcast.trans (not_congr (and_congr_right fun hu => and_congr_right fun _ => ?_))
  subst hu
  exact int_wrap_neg_eq_least_iff (le_int_wrap v) (int_wrap_lt v)

end Width

namespace Expr

/-- A number literal of a width. -/
abbrev literalOf (w : Width) (span : Span) (n : Number) : Expr := .literal ⟨span, .ofTy w.ty, false⟩ (.number n)

/-- A variable of a width. -/
abbrev variableOf (w : Width) (span : Span) (ref : VarRef) : Expr := .varRef ⟨span, .ofTy w.ty, false⟩ ref

/-- A negation in a width. -/
abbrev negationIn (w : Width) (span : Span) (operand : Expr) : Expr :=
  .unary ⟨span, .ofTy w.ty, false⟩ .negate operand

/-- The negation of the operand in a width folds, and what it folds to has the same value exactly where
    the exception does not hold. -/
def NegatesExcept (w : Width) (span : Span) (operand : Expr) (exception : (String → Int) → Prop) : Prop :=
  let e := negationIn w span operand
  ∃ e', (e.keepingTy e.fold).result = .ok e' ∧
    ∀ env, ∃ v v', e.integer? env = some v ∧ e'.integer? env = some v' ∧ (v' = v ↔ ¬ exception env)

variable {w u : Width} {span place site : Span} {env : String → Int}

theorem integer?_literalOf (n : Number) : (literalOf w span n).integer? env = some (w.read n) := by
  cases w <;> rfl

theorem integer?_variableOf (ref : VarRef) :
    (variableOf w span ref).integer? env = some (w.wrap (env ref.name.name)) := by
  cases w <;> rfl

theorem integer?_negationIn {operand : Expr} {v : Int} (h : operand.integer? env = some v) :
    (negationIn w span operand).integer? env = some (w.wrap (-v)) := by
  cases w <;> simp [integer?, h] <;> rfl

/-- A coercion between the widths gives a literal another type and leaves its number as it is. -/
theorem convertTo_literalOf (n : Number) (preferCast : Bool) :
    (literalOf u span n).convertTo w.ty preferCast = .done (literalOf w span n) := by
  cases w <;> rfl

theorem fold_negationIn_literalOf (n : Number) (hn : n.isInteger) :
    ((negationIn w span (literalOf w place n)).keepingTy (negationIn w span (literalOf w place n)).fold).result =
      .ok (literalOf w span n.negated) := by
  cases n with
  | int | long => cases w <;> rfl
  | float | double => cases hn

/-- Any sequence of coercions between the widths ends in a literal of the same number. -/
theorem replay_literalOf {n : Number} {steps : List Conversion}
    (hsteps : ∀ step ∈ steps, ∃ u : Width, step.target = u.ty) :
    ∃ w, (literalOf u span n).replay steps = .done (literalOf w span n) := by
  induction steps generalizing u with
  | nil => exact ⟨u, rfl⟩
  | cons step rest ih =>
    rw [List.forall_mem_cons] at hsteps
    obtain ⟨⟨w, hw⟩, hrest⟩ := hsteps
    have hstep : (literalOf u span n).replay (step :: rest) = (literalOf w span n).replay rest := by
      unfold replay
      rw [List.foldl_cons, Attempt.andThen]
      simp only [Attempt.done, hw, convertTo_literalOf]
    rw [hstep]
    exact ih hrest

/-- The value of a variable or negation that was coerced to another width. -/
theorem carry?_push (u w : Width) (preferCast : Bool) (v : Int) :
    ((Chain.ofTy u.ty).push w.ty preferCast).carry? (·.wrap v) = some (w.wrap (u.wrap v)) := by
  cases u <;> cases w
  case int.int | long.long =>
    rw [Width.wrap_wrap]
    rfl
  all_goals rfl

theorem convertTo_negationIn (operand : Expr) (preferCast : Bool) :
    (negationIn u span operand).convertTo w.ty preferCast =
      .done (.unary ⟨span, (Chain.ofTy u.ty).push w.ty preferCast, false⟩ .negate operand) := by
  cases preferCast <;> cases u <;> cases w <;> rfl

/-- Two negations cancel, and the variable takes the place of both. -/
theorem fold_negationIn_negated (ref : VarRef) (preferCast : Bool) :
    let e := negationIn w span
      (.unary ⟨place, (Chain.ofTy u.ty).push w.ty preferCast, false⟩ .negate (variableOf u site ref))
    (e.keepingTy e.fold).result = .ok (.varRef ⟨site, (Chain.ofTy u.ty).push w.ty true, false⟩ ref) := by
  cases u <;> cases w <;> rfl

/-- Folding a negation keeps its value: of a literal that was coerced between the widths in any way, unless
    it holds the least `int` and is negated as a `long`; and of a negated variable, unless that is an `int`
    of the least value and its negative is widened. -/
theorem negatesExcept_replay_and_convertTo (span place site : Span) :
    (∀ (n : Number) (steps : List Conversion), n.isInteger → (∀ step ∈ steps, ∃ u : Width, step.target = u.ty) →
      ∃ w operand, ((ofNumber place n).replay steps).toExcept = .ok operand ∧ operand.ty? = some w.ty ∧
        NegatesExcept w span operand fun _ => n = .int .minValue ∧ w = .long) ∧
    ∀ (u w : Width) (ref : VarRef) (preferCast : Bool), ∃ operand,
      ((negationIn u place (variableOf u site ref)).convertTo w.ty preferCast).toExcept = .ok operand ∧
        operand.ty? = some w.ty ∧
          NegatesExcept w span operand fun env => u = .int ∧ w = .long ∧ u.wrap (env ref.name.name) = -2 ^ 31 := by
  constructor
  · intro n steps hn hsteps
    have hnatural : ∃ u, ofNumber place n = literalOf u place n := by
      cases n with
      | int => exact ⟨.int, rfl⟩
      | long => exact ⟨.long, rfl⟩
      | float | double => cases hn
    obtain ⟨u, hu⟩ := hnatural
    obtain ⟨w, hw⟩ := replay_literalOf (u := u) (n := n) hsteps
    refine ⟨w, literalOf w place n, by rw [hu, hw]; rfl, by cases w <;> rfl, _, fold_negationIn_literalOf n hn, ?_⟩
    intro env
    exact ⟨_, _, integer?_negationIn (integer?_literalOf n), integer?_literalOf n.negated, w.read_negated_iff hn⟩
  · intro u w ref preferCast
    refine ⟨_, by rw [convertTo_negationIn]; rfl, by cases u <;> cases w <;> rfl, _,
      fold_negationIn_negated ref preferCast, ?_⟩
    intro env
    have hinner : (Expr.unary ⟨place, (Chain.ofTy u.ty).push w.ty preferCast, false⟩ .negate
        (variableOf u site ref)).integer? env = some (w.wrap (u.wrap (-u.wrap (env ref.name.name)))) := by
      rw [integer?, integer?_variableOf]
      exact carry?_push u w preferCast _
    exact ⟨_, _, integer?_negationIn hinner, carry?_push u w true _, u.wrap_neg_wrap_neg_iff w _⟩

/-- The least `int`, taken to `long` and back. -/
theorem least_negatesExcept_replay :
    let steps : List Conversion := [⟨none, .long, true⟩, ⟨none, .int, false⟩]
    (Number.int .minValue).isInteger ∧ (∀ step ∈ steps, ∃ u : Width, step.target = u.ty) ∧
      ∃ w operand, ((ofNumber ⟨1, 1, 8⟩ (.int .minValue)).replay steps).toExcept = .ok operand ∧
        operand.ty? = some w.ty ∧
          NegatesExcept w ⟨1, 0, 8⟩ operand fun _ => Number.int .minValue = .int .minValue ∧ w = .long := by
  intro steps
  have hsteps : ∀ step ∈ steps, ∃ u : Width, step.target = u.ty :=
    List.forall_mem_cons.2 ⟨⟨.long, rfl⟩, List.forall_mem_singleton.2 ⟨.int, rfl⟩⟩
  exact ⟨rfl, hsteps, (negatesExcept_replay_and_convertTo ⟨1, 0, 8⟩ ⟨1, 1, 8⟩ ⟨1, 2, 8⟩).1 _ steps rfl hsteps⟩

/-- The least `int` negated as a `long`. -/
def leastNegated : Expr := negationIn .long ⟨1, 0, 8⟩ (literalOf .long ⟨1, 1, 8⟩ (.int .minValue))

/-- The negative of an `int` variable, widened and negated again. -/
def countNegated : Expr :=
  negationIn .long ⟨1, 0, 8⟩
    (.unary ⟨⟨1, 1, 8⟩, (Chain.ofTy .int).push .long true, false⟩ .negate
      (variableOf .int ⟨1, 2, 8⟩ ⟨⟨⟨1, 2, 8⟩, "count"⟩, none⟩))

/-- Both change their value where it is `2 ^ 31`. -/
theorem leastNegated_integer?_fold_ne :
    (∃ e', (leastNegated.keepingTy leastNegated.fold).result = .ok e' ∧
      leastNegated.integer? (fun _ => 0) = some (2 ^ 31) ∧ e'.integer? (fun _ => 0) = some (-2 ^ 31)) ∧
    ∃ e', (countNegated.keepingTy countNegated.fold).result = .ok e' ∧
      countNegated.integer? (fun _ => -2 ^ 31) = some (2 ^ 31) ∧ e'.integer? (fun _ => -2 ^ 31) = some (-2 ^ 31) :=
  ⟨⟨_, rfl, rfl, rfl⟩, ⟨_, rfl, rfl, rfl⟩⟩

end Expr

end TemplateTree
