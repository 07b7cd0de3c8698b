import Mathlib.Data.Int.Order.Basic
import Mathlib.Data.List.Lex
import Mathlib.Order.Lattice
import TemplateTree.Text.Units
import TemplateTree.Tree

namespace TemplateTree

/-- What a run can be seen to do. -/
inductive Event where
  | call (callee : Callee) (arguments : List Value) (result : Value)
  | assign (target : VarRef) (value : Value)
  | substitute

/-- The events of a run so far, in order. -/
abbrev Trace := List Event

/-- Why there is no value: the run raised a fault, or what it met has no meaning here. -/
inductive Abort where
  | fault
  | stuck
deriving DecidableEq

/-- The value of the variable that each reference stands for. -/
abbrev Env := VarRef → Value

/-- What calls return. The answer may depend on all that happened before the call, on the call itself,
    on its arguments and on the type that is asked for. -/
abbrev Oracle := Trace → Callee → List Value → Ty → Value

/-- A computation over a state, which ends with a result or without one. What it did to the state
    stays done in either case. -/
abbrev Machine (σ : Type) := ExceptT Abort (StateM σ)

namespace Machine

variable {σ α β : Type}

/-- Ends with what is known already. -/
def done (result : Except Abort α) : Machine σ α := ExceptT.mk (pure result)

/-- The result of a computation that starts in a state, and the state it leaves. -/
def runFrom (x : Machine σ α) (state : σ) : Except Abort α × σ := StateT.run (ExceptT.run x) state

/-- The computation faults, or it ends with a result that satisfies `P`: it is never stuck. -/
def Yields (x : Machine σ α) (P : α → Prop) : Prop :=
  ∀ state, match (x.runFrom state).1 with
    | .ok a => P a
    | .error abort => abort = .fault

@[simp]
theorem done_ok (a : α) : done (.ok a) = (pure a : Machine σ α) := rfl

theorem runFrom_bind (x : Machine σ α) (f : α → Machine σ β) (state : σ) :
    (x >>= f).runFrom state =
      match x.runFrom state with
      | (.ok a, state) => (f a).runFrom state
      | (.error abort, state) => (.error abort, state) := by
  unfold runFrom ExceptT.run StateT.run
  simp only [bind, ExceptT.bind, ExceptT.mk, StateT.bind, ExceptT.bindCont]
  rcases x state with ⟨result, rest⟩
  cases result <;> rfl

theorem runFrom_injective {x y : Machine σ α} (h : ∀ state, x.runFrom state = y.runFrom state) : x = y :=
  ExceptT.ext (StateT.ext h)

theorem yields_pure {P : α → Prop} {a : α} (h : P a) : Yields (pure a : Machine σ α) P := fun _ => h

theorem yields_done {P : α → Prop} {result : Except Abort α}
    (h : match result with
      | .ok a => P a
      | .error abort => abort = .fault) : Yields (done result : Machine σ α) P :=
  fun _ => h

theorem Yields.bind {x : Machine σ α} {f : α → Machine σ β} {P : α → Prop} {Q : β → Prop}
    (hx : x.Yields P) (hf : ∀ a, P a → (f a).Yields Q) : (x >>= f).Yields Q := by
  intro state
  have h := hx state
  rw [runFrom_bind]
  rcases hrun : x.runFrom state with ⟨result, rest⟩
  rw [hrun] at h
  cases result with
  | error abort => exact h
  | ok a => exact hf a h rest

/-- Two ways of going on agree if they agree on all that the first computation can end with. -/
theorem Yields.bind_congr {x : Machine σ α} {f g : α → Machine σ β} {P : α → Prop}
    (hx : x.Yields P) (hfg : ∀ a, P a → f a = g a) : x >>= f = x >>= g := by
  apply runFrom_injective
  intro state
  have h := hx state
  rw [runFrom_bind, runFrom_bind]
  rcases hrun : x.runFrom state with ⟨result, rest⟩
  rw [hrun] at h
  cases result with
  | error abort => rfl
  | ok a => simp only [hfg a h]

theorem Yields.bind_eq_self {x : Machine σ α} {f : α → Machine σ α} {P : α → Prop}
    (hx : x.Yields P) (hf : ∀ a, P a → f a = pure a) : x >>= f = x := by
  rw [hx.bind_congr hf, bind_pure]

end Machine

/-- An evaluation, which adds to a trace. -/
abbrev Eval := Machine Trace

namespace TokenKind

/-- The exact result of an integer operation. A quotient is cut off toward zero, and a remainder has
    the sign of the dividend. -/
def exact (operator : TokenKind) (a b : Int) : Except Abort Int :=
  match operator with
  | plus => .ok (a + b)
  | minus => .ok (a - b)
  | mult => .ok (a * b)
  | div => if b = 0 then .error .fault else .ok (a.tdiv b)
  | mod => if b = 0 then .error .fault else .ok (a.tmod b)
  | _ => .error .stuck

/-- The truth of a comparison in a linear order. -/
def relates {α : Type} [LinearOrder α] (operator : TokenKind) (a b : α) : Except Abort Bool :=
  match operator with
  | eq => .ok (decide (a = b))
  | ne => .ok (decide (a ≠ b))
  | lt => .ok (decide (a < b))
  | gt => .ok (decide (b < a))
  | le => .ok (decide (a ≤ b))
  | ge => .ok (decide (b ≤ a))
  | _ => .error .stuck

/-- The truth of `==` or `!=`, given whether the operands are the same. -/
def equates (operator : TokenKind) (same : Bool) : Except Abort Bool :=
  match operator with
  | eq => .ok same
  | ne => .ok !same
  | _ => .error .stuck

end TokenKind

namespace Value

/-- The negative of an integer, in its width. -/
def opposite : Value → Except Abort Value
  | number (.int a) => .ok (number (.int (.ofInt (-a.toInt))))
  | number (.long a) => .ok (number (.long (.ofInt (-a.toInt))))
  | _ => .error .stuck

def complement : Value → Except Abort Value
  | boolean b => .ok (boolean !b)
  | _ => .error .stuck

def join : Value → Value → Except Abort Value
  | string l, string r => .ok (string (l ++ r))
  | _, _ => .error .stuck

/-- Arithmetic on two integers of one width, which wraps around. -/
def combine (operator : TokenKind) : Value → Value → Except Abort Value
  | number (.int a), number (.int b) => (operator.exact a.toInt b.toInt).map fun n => number (.int (.ofInt n))
  | number (.long a), number (.long b) => (operator.exact a.toInt b.toInt).map fun n => number (.long (.ofInt n))
  | _, _ => .error .stuck

/-- Integers and strings are ordered, strings by their UTF-16 units. Truth values and null can only be
    told apart. -/
def holds (operator : TokenKind) : Value → Value → Except Abort Value
  | number (.int a), number (.int b) => (operator.relates a.toInt b.toInt).map boolean
  | number (.long a), number (.long b) => (operator.relates a.toInt b.toInt).map boolean
  | string l, string r => (operator.relates (Text.units l) (Text.units r)).map boolean
  | boolean l, boolean r => (operator.equates (l == r)).map boolean
  | null, null => (operator.equates true).map boolean
  | null, string _ => (operator.equates false).map boolean
  | string _, null => (operator.equates false).map boolean
  | _, _ => .error .stuck

section

variable (operator : TokenKind)

theorem holds_ints (a b : Int32) :
    (number (.int a)).holds operator (number (.int b)) = (operator.relates a.toInt b.toInt).map boolean := rfl

theorem holds_longs (a b : Int64) :
    (number (.long a)).holds operator (number (.long b)) = (operator.relates a.toInt b.toInt).map boolean := rfl

theorem holds_strings (l r : String) :
    (string l).holds operator (string r) = (operator.relates (Text.units l) (Text.units r)).map boolean := rfl

theorem holds_truths (l r : Bool) :
    (boolean l).holds operator (boolean r) = (operator.equates (l == r)).map boolean := rfl

theorem holds_null_null : null.holds operator null = (operator.equates true).map boolean := rfl

theorem holds_null_string (r : String) : null.holds operator (string r) = (operator.equates false).map boolean := rfl

theorem holds_string_null (l : String) : (string l).holds operator null = (operator.equates false).map boolean := rfl

end

/-- A conjunction that is false on the left leaves out its right operand. -/
def andAlso (left : Value) (right : Eval Value) : Eval Value :=
  match left with
  | boolean true => right
  | boolean false => pure (boolean false)
  | _ => throw .stuck

/-- A disjunction that is true on the left leaves out its right operand. -/
def orElse (left : Value) (right : Eval Value) : Eval Value :=
  match left with
  | boolean true => pure (boolean true)
  | boolean false => right
  | _ => throw .stuck

end Value

/-- Asks for the result of a call and records it. -/
def Oracle.invoke (oracle : Oracle) (callee : Callee) (arguments : List Value) (ty : Ty) : Eval Value := do
  let trace ← get
  let result := oracle trace callee arguments ty
  set (trace ++ [Event.call callee arguments result])
  return result

section

variable (env : Env) (oracle : Oracle)

mutual

/-- The value of an expression. -/
def Expr.eval : Expr → Eval Value
  | .paren _ inner => inner.eval
  | .literal _ value => pure value
  | .varRef _ ref => pure (env ref)
  | .call head kind callee _ arguments initializer substitution =>
    match kind, head.chain.ty?, initializer, substitution with
    | .function, some ty, none, none => do
      oracle.invoke callee (← evalAll arguments) ty
    | _, _, _, _ => throw .stuck
  | .unary _ op operand => do
    let value ← operand.eval
    match op with
    | .negate => Machine.done value.opposite
    | .not => Machine.done value.complement
  | .binary _ op token left right => do
    let l ← left.eval
    match op with
    | .concatenate => do Machine.done (l.join (← right.eval))
    | .arithmetic => do Machine.done (l.combine token.kind (← right.eval))
    | .and => l.andAlso right.eval
    | .or => l.orElse right.eval
  | .compare _ token left right => do
    let l ← left.eval
    let r ← right.eval
    Machine.done (l.holds token.kind r)
  | .array .. => throw .stuck
  | .property .. => throw .stuck
  | .index .. => throw .stuck
  | .isa .. => throw .stuck

/-- The values of the expressions of a list, from left to right. -/
def evalAll : List Expr → Eval (List Value)
  | [] => pure []
  | e :: rest => do
    let value ← e.eval
    return value :: (← evalAll rest)

end

end

namespace Expr

variable {env : Env} {oracle : Oracle}

theorem eval_paren (head : Head) (inner : Expr) : (paren head inner).eval env oracle = inner.eval env oracle := rfl

theorem eval_literal (head : Head) (value : Value) : (literal head value).eval env oracle = pure value := rfl

theorem eval_varRef (head : Head) (ref : VarRef) : (varRef head ref).eval env oracle = pure (env ref) := rfl

theorem eval_call {head : Head} {ty : Ty} (hty : head.chain.ty? = some ty) (callee : Callee) (listSpan : Span)
    (arguments : List Expr) :
    (call head .function callee listSpan arguments none none).eval env oracle =
      evalAll env oracle arguments >>= fun values => oracle.invoke callee values ty := by
  simp only [eval, hty]

theorem eval_negate (head : Head) (operand : Expr) :
    (unary head .negate operand).eval env oracle = operand.eval env oracle >>= fun v => Machine.done v.opposite := rfl

theorem eval_not (head : Head) (operand : Expr) :
    (unary head .not operand).eval env oracle = operand.eval env oracle >>= fun v => Machine.done v.complement := rfl

theorem eval_concatenate (head : Head) (token : Token) (left right : Expr) :
    (binary head .concatenate token left right).eval env oracle =
      left.eval env oracle >>= fun l => right.eval env oracle >>= fun r => Machine.done (l.join r) := rfl

theorem eval_arithmetic (head : Head) (token : Token) (left right : Expr) :
    (binary head .arithmetic token left right).eval env oracle =
      left.eval env oracle >>= fun l => right.eval env oracle >>= fun r => Machine.done (l.combine token.kind r) := rfl

theorem eval_and (head : Head) (token : Token) (left right : Expr) :
    (binary head .and token left right).eval env oracle =
      left.eval env oracle >>= fun l => l.andAlso (right.eval env oracle) := rfl

theorem eval_or (head : Head) (token : Token) (left right : Expr) :
    (binary head .or token left right).eval env oracle =
      left.eval env oracle >>= fun l => l.orElse (right.eval env oracle) := rfl

theorem eval_compare (head : Head) (token : Token) (left right : Expr) :
    (compare head token left right).eval env oracle =
      left.eval env oracle >>= fun l => right.eval env oracle >>= fun r => Machine.done (l.holds token.kind r) := rfl

end Expr

end TemplateTree
