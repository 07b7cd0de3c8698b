import TemplateTree.Proofs.Chain.Replay
import TemplateTree.Proofs.Expr.Coerce

namespace TemplateTree

theorem Ty.isNullable_eq_false_iff {ty : Ty} : ty.isNullable = false ↔ ty.isNonNull := by simp [isNullable]

namespace Chain

/-- A legal conversion keeps the natural type, and a chain without one takes the target. -/
theorem initialTy?_of_converted? {chain : Chain} {target : Ty} {cast : Bool} {converted : Converted}
    (h : chain.converted? target cast = some converted) :
    converted.chain.initialTy? = some (chain.initialTy?.getD target) := by
  cases hty : chain.ty? with
  | none =>
    have hnil : chain.steps = [] := by simpa [ty?] using hty
    simp only [converted?, hty, Option.some.injEq] at h
    rw [← h, push, if_neg (by simp [hty])]
    simp [initialTy?, hnil]
  | some source =>
    obtain ⟨route, -, hsteps⟩ := converted?_steps hty h
    have hne : chain.steps ≠ [] := by
      intro hnil
      simp [ty?, hnil] at hty
    rw [initialTy?, hsteps, List.head?_append_of_ne_nil _ hne, initialTy?, List.head?_eq_some_head hne]
    rfl

/-- Only a chain with a type can be without a legal conversion. -/
theorem isSome_initialTy?_of_converted? {chain : Chain} {target : Ty} {cast : Bool}
    (h : chain.converted? target cast = none) : chain.initialTy?.isSome := by
  cases hsteps : chain.steps with
  | nil => simp [converted?, ty?, hsteps] at h
  | cons step rest => simp [initialTy?, hsteps]

end Chain

namespace Expr

/-- The expression is the result of an operator. -/
def isOperator : Expr → Bool
  | unary .. | binary .. | compare .. | isa .. => true
  | _ => false

/-- An operator as it is made, without a type. -/
inductive NewOperator : Expr → Prop
  | unary (span : Span) (op : UnaryOp) (operand : Expr) : NewOperator (mkUnary span op operand)
  | binary (span : Span) (op : BinaryOp) (token : Token) (left right : Expr) :
    NewOperator (mkBinary span op token left right)
  | compare (span : Span) (token : Token) (left right : Expr) : NewOperator (mkCompare span token left right)
  | isa (span : Span) (token : Token) (operand : Expr) (tested : TypeName) :
    NewOperator (mkIsa span token operand tested)

/-- The natural type of the expression, if it has one, is not nullable. -/
def NaturalNonNull (e : Expr) : Prop := ∀ ty, e.initialTy? = some ty → ty.isNonNull

/-- A logical operator produces the target directly. -/
def takesDirectly (e : Expr) (target : Ty) : Bool := e.isLogical && (target.isBoolean || target.isString)

theorem SameNode.isOperator_eq {e e' : Expr} (h : SameNode e e') : e'.isOperator = e.isOperator := by
  obtain ⟨head, rfl, -⟩ := h
  cases e <;> rfl

section

variable {e : Expr} (he : e.isOperator)

include he

theorem initialTy?_of_isOperator : e.initialTy? = e.head.chain.initialTy? := by
  cases e with
  | unary | binary | compare | isa => rfl
  | _ => cases he

theorem natural_of_isOperator (ty : Ty) : e.natural ty = ty.toNonNull := by
  cases e with
  | unary | binary | compare | isa => rfl
  | _ => cases he

theorem setTy_of_isOperator (ty : Ty) : e.setTy ty = .done (e.retyped ty) := by
  cases e with
  | unary | binary | compare | isa => rfl
  | _ => cases he

theorem convertTo_of_isOperator (target : Ty) (preferCast : Bool) :
    e.convertTo target preferCast =
      if e.takesDirectly target then .done (e.retyped target) else e.extended target preferCast := by
  cases e with
  | unary | binary | compare | isa => rfl
  | _ => cases he

theorem setInitialTy_of_isOperator (ty : Ty) :
    e.setInitialTy ty =
      match e.initialTy? with
      | none => e.setTy ty
      | some initial =>
        if initial = ty then .done e
        else replay e.head.chain.steps.tail (e.withHead (e.head.retyped (some ty))) := by
  cases e with
  | unary | binary | compare | isa => rfl
  | _ => cases he

theorem initialTy?_retyped (ty : Ty) : (e.retyped ty).initialTy? = some ty.toNonNull := by
  have hretyped : (e.retyped ty).isOperator := (sameNode_retyped e ty).isOperator_eq.trans he
  rw [initialTy?_of_isOperator hretyped, retyped, head_withHead, natural_of_isOperator he]
  rfl

/-- A coercion leaves an operator its natural type, unless it takes the target directly or has none yet. -/
theorem initialTy?_convertTo (target : Ty) (preferCast : Bool) :
    (e.convertTo target preferCast).value.initialTy? =
      some (if e.takesDirectly target then target.toNonNull else e.initialTy?.getD target) := by
  rw [convertTo_of_isOperator he]
  split
  next => exact initialTy?_retyped he target
  next =>
    have hextended : (e.extended target preferCast).value.isOperator :=
      (sameNode_extended e target preferCast).isOperator_eq.trans he
    rw [initialTy?_of_isOperator hextended, initialTy?_of_isOperator he]
    unfold extended Head.extended
    cases hconverted : e.head.chain.converted? target preferCast with
    | none =>
      obtain ⟨initial, hinitial⟩ := Option.isSome_iff_exists.1 (Chain.isSome_initialTy?_of_converted? hconverted)
      simp [hinitial]
    | some converted =>
      simp only [Attempt.done, head_withHead]
      exact Chain.initialTy?_of_converted? hconverted

theorem sameNode_convertTo (target : Ty) (preferCast : Bool) : SameNode e (e.convertTo target preferCast).value := by
  rw [convertTo_of_isOperator he]
  split
  next => exact sameNode_retyped e target
  next => exact sameNode_extended e target preferCast

theorem sameNode_replay (steps : List Conversion) : SameNode e (e.replay steps).value := by
  induction steps generalizing e with
  | nil => exact .refl e
  | cons step rest ih =>
    have hstep := sameNode_convertTo he step.target step.castPreferred
    rw [replay_cons, Attempt.andThen]
    split
    next => exact hstep.trans (ih (hstep.isOperator_eq.trans he))
    next => exact hstep

end

/-- Repeating the conversions arrives at one whose target the operator takes directly. -/
def arrivesDirectly (e : Expr) : List Conversion → Bool
  | [] => false
  | step :: rest =>
    let converted := e.convertTo step.target step.castPreferred
    e.takesDirectly step.target || (converted.error?.isNone && converted.value.arrivesDirectly rest)

/-- Repeating conversions leaves an operator its natural type, unless it takes one of them directly; then the natural type
    is not nullable. -/
theorem initialTy?_replay {e : Expr} (he : e.isOperator) {ty : Ty} (hty : e.initialTy? = some ty)
    (steps : List Conversion) :
    ∃ ty', (e.replay steps).value.initialTy? = some ty' ∧
      (e.arrivesDirectly steps → ty'.isNonNull) ∧ (e.arrivesDirectly steps = false → ty' = ty) := by
  induction steps generalizing e ty with
  | nil => exact ⟨ty, hty, nofun, fun _ => rfl⟩
  | cons step rest ih =>
    have hnatural := initialTy?_convertTo he step.target step.castPreferred
    have hnode := sameNode_convertTo he step.target step.castPreferred
    rw [hty, Option.getD_some] at hnatural
    rw [replay_cons, Attempt.andThen, arrivesDirectly]
    cases herror : (e.convertTo step.target step.castPreferred).error? with
    | none =>
      obtain ⟨ty', hty', hdirect, hkept⟩ := ih (hnode.isOperator_eq.trans he) hnatural
      refine ⟨ty', hty', ?_⟩
      by_cases htakes : e.takesDirectly step.target
      · rw [if_pos htakes] at hkept
        refine ⟨fun _ => ?_, by simp [htakes]⟩
        cases harrives : (e.convertTo step.target step.castPreferred).value.arrivesDirectly rest with
        | true => exact hdirect harrives
        | false => exact hkept harrives ▸ step.target.isNonNull_toNonNull
      · rw [if_neg htakes] at hkept
        simpa [htakes] using And.intro hdirect hkept
    | some error =>
      refine ⟨_, hnatural, ?_⟩
      by_cases htakes : e.takesDirectly step.target
      · simp [htakes, Ty.isNonNull_toNonNull]
      · simp [htakes]

/-- The calls that change the types of an expression. -/
inductive TypeCall where
  | setTy (ty : Ty)
  | convertTo (target : Ty) (preferCast : Bool)
  | setInitialTy (ty : Ty)
deriving DecidableEq

/-- The expression after a call, as far as the call got. -/
def after (e : Expr) : TypeCall → Expr
  | .setTy ty => (e.setTy ty).value
  | .convertTo target preferCast => (e.convertTo target preferCast).value
  | .setInitialTy ty => (e.setInitialTy ty).value

/-- The expression after some calls. -/
def afterAll (e : Expr) (calls : List TypeCall) : Expr := calls.foldl after e

/-- The call hands a nullable type on to an operator as its natural type. -/
def lapses (e : Expr) : TypeCall → Bool
  | .setTy _ => false
  | .convertTo target _ => e.initialTy?.isNone && target.isNullable && !e.takesDirectly target
  | .setInitialTy ty =>
    e.initialTy?.isSome && ty.isNullable &&
      !(e.withHead (e.head.retyped (some ty))).arrivesDirectly e.head.chain.steps.tail

theorem sameNode_after {e : Expr} (he : e.isOperator) (call : TypeCall) : SameNode e (e.after call) := by
  cases call with
  | setTy ty =>
    rw [after, setTy_of_isOperator he]
    exact sameNode_retyped e ty
  | convertTo target preferCast => exact sameNode_convertTo he target preferCast
  | setInitialTy ty =>
    rw [after, setInitialTy_of_isOperator he]
    split
    next =>
      rw [setTy_of_isOperator he]
      exact sameNode_retyped e ty
    next =>
      split
      next => exact .refl e
      next =>
        have hretyped : SameNode e (e.withHead (e.head.retyped (some ty))) := ⟨_, rfl, rfl⟩
        exact hretyped.trans (sameNode_replay (hretyped.isOperator_eq.trans he) _)

theorem naturalNonNull_iff {e : Expr} {ty : Ty} (h : e.initialTy? = some ty) : e.NaturalNonNull ↔ ty.isNonNull := by
  simp [NaturalNonNull, h]

theorem naturalNonNull_setTy {e : Expr} (he : e.isOperator) (ty : Ty) : (e.setTy ty).value.NaturalNonNull := by
  rw [setTy_of_isOperator he]
  exact (naturalNonNull_iff (initialTy?_retyped he ty)).2 ty.isNonNull_toNonNull

/-- A coercion hands on the target where there is no natural type yet. -/
theorem naturalNonNull_convertTo_iff {e : Expr} (he : e.isOperator) (hnatural : e.NaturalNonNull) (target : Ty)
    (preferCast : Bool) :
    (e.convertTo target preferCast).value.NaturalNonNull ↔ e.lapses (.convertTo target preferCast) = false := by
  rw [naturalNonNull_iff (initialTy?_convertTo he target preferCast), lapses]
  by_cases htakes : e.takesDirectly target
  · simp [htakes, Ty.isNonNull_toNonNull]
  · cases hinitial : e.initialTy? with
    | none => simp [htakes, Ty.isNullable_eq_false_iff]
    | some initial => simp [htakes, hnatural initial hinitial]

/-- A new natural type is handed on where there was another before, if it survives the repeated conversions. -/
theorem naturalNonNull_setInitialTy_iff {e : Expr} (he : e.isOperator) (hnatural : e.NaturalNonNull) (ty : Ty) :
    (e.setInitialTy ty).value.NaturalNonNull ↔ e.lapses (.setInitialTy ty) = false := by
  rw [setInitialTy_of_isOperator he, lapses]
  cases hinitial : e.initialTy? with
  | none => simpa using naturalNonNull_setTy he ty
  | some initial =>
    by_cases hsame : initial = ty
    · subst hsame
      have hnonNull := hnatural initial hinitial
      simpa [Ty.isNullable_eq_false_iff.2 hnonNull, Attempt.done] using hnatural
    · have hretyped : SameNode e (e.withHead (e.head.retyped (some ty))) := ⟨_, rfl, rfl⟩
      have hoperator := hretyped.isOperator_eq.trans he
      have hty : (e.withHead (e.head.retyped (some ty))).initialTy? = some ty := by
        rw [initialTy?_of_isOperator hoperator, head_withHead]
        rfl
      obtain ⟨ty', hty', hdirect, hkept⟩ := initialTy?_replay hoperator hty e.head.chain.steps.tail
      simp only [if_neg hsame]
      rw [naturalNonNull_iff hty']
      cases harrives : (e.withHead (e.head.retyped (some ty))).arrivesDirectly e.head.chain.steps.tail with
      | true => simp [hdirect harrives]
      | false => simp [hkept harrives, Ty.isNullable_eq_false_iff]

/-- One call leaves an operator with a natural type that is not nullable, unless it lapses. -/
theorem naturalNonNull_after_iff {e : Expr} (he : e.isOperator) (hnatural : e.NaturalNonNull) (call : TypeCall) :
    (e.after call).NaturalNonNull ↔ e.lapses call = false := by
  cases call with
  | setTy ty => exact iff_of_true (naturalNonNull_setTy he ty) rfl
  | convertTo target preferCast => exact naturalNonNull_convertTo_iff he hnatural target preferCast
  | setInitialTy ty => exact naturalNonNull_setInitialTy_iff he hnatural ty

/-- A run of calls never leaves an operator with a nullable natural type exactly if none of its calls lapses. -/
theorem naturalNonNull_afterAll_iff {e : Expr} (he : e.isOperator) (hnatural : e.NaturalNonNull) (calls : List TypeCall) :
    (∀ n, (e.afterAll (calls.take n)).NaturalNonNull) ↔
      ∀ n call, calls[n]? = some call → (e.afterAll (calls.take n)).lapses call = false := by
  induction calls generalizing e with
  | nil => simpa [afterAll] using hnatural
  | cons first rest ih =>
    have hoperator := (sameNode_after he first).isOperator_eq.trans he
    have hstep := naturalNonNull_after_iff he hnatural first
    constructor
    · intro hall n call hcall
      have hfirst : (e.after first).NaturalNonNull := hall 1
      cases n with
      | zero =>
        cases hcall
        exact hstep.1 hfirst
      | succ n => exact (ih hoperator hfirst).1 (fun n => hall (n + 1)) n call hcall
    · intro hnone n
      have hfirst : (e.after first).NaturalNonNull := hstep.2 (hnone 0 first rfl)
      cases n with
      | zero => exact hnatural
      | succ n => exact (ih hoperator hfirst).2 (fun n => hnone (n + 1)) n

theorem NewOperator.isOperator {e : Expr} (h : NewOperator e) : e.isOperator := by
  cases h <;> rfl

theorem NewOperator.initialTy? {e : Expr} (h : NewOperator e) : e.initialTy? = none := by
  cases h <;> rfl

/-- When the natural type of an operator stays clear of null, for every operator as it is made and every run of calls, with
    any types and whether they go through or not: exactly if no call lapses, that is, if none coerces the operator to a
    nullable type while it has no type, and none replaces its natural type by a nullable one that then survives the
    repeated conversions. -/
theorem forall_naturalNonNull_iff_lapses {e : Expr} (he : NewOperator e) (calls : List TypeCall) :
    (∀ n, (e.afterAll (calls.take n)).NaturalNonNull) ↔
      ∀ n call, calls[n]? = some call → (e.afterAll (calls.take n)).lapses call = false := by
  have hnatural : e.NaturalNonNull := by
    intro ty hty
    rw [he.initialTy?] at hty
    cases hty
  exact naturalNonNull_afterAll_iff he.isOperator hnatural calls

/-- The negation of a flag. -/
def flagNegation : Expr := .mkUnary ⟨1, 0, 8⟩ .not (.ofBool ⟨1, 1, 8⟩ true)

/-- A run on it in which the second coercion fails, and the new natural type gives way to the boolean that is reached when
    the conversions are repeated. -/
def flagCalls : List TypeCall :=
  [.setTy .boolean, .convertTo .object false, .convertTo .number false, .setInitialTy (.ofKind .int)]

theorem flagNegation_forall_naturalNonNull :
    NewOperator flagNegation ∧ (flagNegation.afterAll flagCalls).initialTy? = some Ty.boolean.toBoxed ∧
      ∀ n, (flagNegation.afterAll (flagCalls.take n)).NaturalNonNull := by
  have hnew : NewOperator flagNegation := .unary ..
  refine ⟨hnew, by decide, (forall_naturalNonNull_iff_lapses hnew flagCalls).2 fun n call hcall => ?_⟩
  obtain _ | _ | _ | _ | n := n
  case succ.succ.succ.succ => cases hcall
  all_goals
    cases hcall
    rfl

/-- A sum of two numbers. -/
def plainSum : Expr :=
  .mkBinary ⟨1, 0, 8⟩ .arithmetic ⟨.plus, ⟨1, 2, 3⟩⟩ (.ofNumber ⟨1, 0, 1⟩ (.int 1)) (.ofNumber ⟨1, 4, 5⟩ (.int 2))

/-- Coerced before it has a type, or given another natural type after that, it is a nullable `Integer` by nature. -/
theorem plainSum_initialTy?_isNullable :
    NewOperator plainSum ∧ (Ty.ofKind .int).isNullable ∧
      (plainSum.afterAll [.convertTo (.ofKind .int) true]).initialTy? = some (.ofKind .int) ∧
      (plainSum.afterAll [.setTy .int, .setInitialTy (.ofKind .int)]).initialTy? = some (.ofKind .int) :=
  ⟨.binary .., rfl, by decide, by decide⟩

end Expr

end TemplateTree
