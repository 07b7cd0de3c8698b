import TemplateTree.Expr.Basic
import TemplateTree.Proofs.Meaning.Eval
import TemplateTree.Proofs.Nodes

namespace TemplateTree

namespace Ty

def integers : List Ty := [.int, .long]

/-- The types whose values are ordered. -/
def ordered : List Ty := [.int, .long, .nonNullString]

/-- The types of values that can be told apart from null. -/
def nullables : List Ty := [.null, .string, .nonNullString]

/-- The types of calls. -/
def results : List Ty := [.int, .long, .boolean, .nonNullString]

/-- The types of variables. -/
def declared : List Ty := [.int, .long, .boolean, .string, .nonNullString]

/-- The values of a type. Only a string may be missing. -/
inductive Holds : Ty → Value → Prop
  | int (n : Int32) : Holds .int (.number (.int n))
  | long (n : Int64) : Holds .long (.number (.long n))
  | boolean (b : Bool) : Holds .boolean (.boolean b)
  | nonNullString (s : String) : Holds .nonNullString (.string s)
  | string (s : String) : Holds .string (.string s)
  | noString : Holds .string .null
  | null : Holds .null .null

end Ty

/-- The head of a node that has its natural type and no coercion. -/
def Head.natural (span : Span) (ty : Ty) : Head := ⟨span, .ofTy ty, false⟩

/-- The operators that order two values. -/
def TokenKind.isOrdering (operator : TokenKind) : Bool := operator.isRelational && operator ≠ .isa

/-- `e.Plain ty`: the expression is built from literals, variables and opaque calls by parentheses and
    the operators on integers, truth values and strings, and its natural type is `ty`. -/
inductive Expr.Plain : Expr → Ty → Prop
  | literal {span : Span} {value : Value} (hvalue : value.naturalTy.Holds value) :
    Plain (.literal (.natural span value.naturalTy) value) value.naturalTy
  | varRef {span : Span} {ref : VarRef} {ty : Ty} (hty : ty ∈ Ty.declared) :
    Plain (.varRef (.natural span ty) ref) ty
  | call {span listSpan : Span} {callee : Callee} {arguments : List Expr} {ty : Ty} {types : Expr → Ty}
    (hty : ty ∈ Ty.results) (harguments : ∀ e ∈ arguments, Plain e (types e)) :
    Plain (.call (.natural span ty) .function callee listSpan arguments none none) ty
  | paren {head : Head} {inner : Expr} {ty : Ty} (hinner : Plain inner ty) : Plain (.paren head inner) ty
  | negate {span : Span} {operand : Expr} {ty : Ty} (hty : ty ∈ Ty.integers) (hoperand : Plain operand ty) :
    Plain (.unary (.natural span ty) .negate operand) ty
  | not {span : Span} {operand : Expr} (hoperand : Plain operand .boolean) :
    Plain (.unary (.natural span .boolean) .not operand) .boolean
  | concatenate {span : Span} {token : Token} {left right : Expr} (hleft : Plain left .nonNullString)
    (hright : Plain right .nonNullString) :
    Plain (.binary (.natural span .nonNullString) .concatenate token left right) .nonNullString
  | arithmetic {span : Span} {token : Token} {left right : Expr} {ty : Ty} (hty : ty ∈ Ty.integers)
    (htoken : token.kind.isArithmetic) (hleft : Plain left ty) (hright : Plain right ty) :
    Plain (.binary (.natural span ty) .arithmetic token left right) ty
  | and {span : Span} {token : Token} {left right : Expr} (hleft : Plain left .boolean)
    (hright : Plain right .boolean) : Plain (.binary (.natural span .boolean) .and token left right) .boolean
  | or {span : Span} {token : Token} {left right : Expr} (hleft : Plain left .boolean)
    (hright : Plain right .boolean) : Plain (.binary (.natural span .boolean) .or token left right) .boolean
  | compareOrdered {span : Span} {token : Token} {left right : Expr} {ty : Ty} (hty : ty ∈ Ty.ordered)
    (htoken : token.kind.isOrdering) (hleft : Plain left ty) (hright : Plain right ty) :
    Plain (.compare (.natural span .boolean) token left right) .boolean
  | compareBooleans {span : Span} {token : Token} {left right : Expr} (htoken : token.kind.isEquality)
    (hleft : Plain left .boolean) (hright : Plain right .boolean) :
    Plain (.compare (.natural span .boolean) token left right) .boolean
  | compareNull {span : Span} {token : Token} {left right : Expr} {leftTy rightTy : Ty}
    (htoken : token.kind.isEquality) (hleftTy : leftTy ∈ Ty.nullables) (hrightTy : rightTy ∈ Ty.nullables)
    (hnull : leftTy = .null ∨ rightTy = .null) (hleft : Plain left leftTy) (hright : Plain right rightTy) :
    Plain (.compare (.natural span .boolean) token left right) .boolean

@[simp]
theorem Head.natural_ty? (span : Span) (ty : Ty) : (natural span ty).chain.ty? = some ty := rfl

theorem Expr.Plain.ty?_eq {e : Expr} {ty : Ty} (h : e.Plain ty) : e.ty? = some ty := by
  induction h with
  | paren _ ih => exact ih
  | _ => rfl

/-- The values that the variable of each reference may have. -/
abbrev Scope := VarRef → Value → Prop

/-- The values of the variables stay within a scope. -/
def Env.Respects (env : Env) (scope : Scope) : Prop := ∀ ref, scope ref (env ref)

/-- A call returns a value of the type that is asked for. -/
def Oracle.Respects (oracle : Oracle) : Prop :=
  ∀ trace callee arguments, ∀ ty ∈ Ty.results, ty.Holds (oracle trace callee arguments ty)

namespace Node

/-- The types at a node agree with a scope: a variable that is read has only values of the type of the
    reference, and one that is assigned can have all values of the type of the expression. -/
def InScope (scope : Scope) : Node → Prop
  | expr (.varRef head ref) => ∀ ty, head.chain.ty? = some ty → ∀ value, scope ref value → ty.Holds value
  | stmt (.assign _ target e) => ∀ ty, e.ty? = some ty → ∀ value, ty.Holds value → scope target value
  | stmt (.forEach _ loopVar _ _ _ _ _) => ∀ n, scope loopVar (.number (.int n))
  | _ => True

end Node

/-- A reference asks nothing of the scope by itself. -/
theorem VarRef.inScope_nodes {scope : Scope} (ref : VarRef) : ∀ n ∈ ref.nodes, n.InScope scope := by
  obtain ⟨name, bound?⟩ := ref
  cases bound? <;> simp [nodes, Variable.nodes, Node.InScope]

/-- The types in an expression agree with a scope. -/
def Expr.InScope (e : Expr) (scope : Scope) : Prop := e.Every (Node.InScope scope)

namespace Expr

variable {scope : Scope}

theorem inScope_paren {head : Head} {inner : Expr} : (paren head inner).InScope scope ↔ inner.InScope scope := by
  rw [InScope, every_paren]
  exact and_iff_right trivial

theorem inScope_varRef {head : Head} {ref : VarRef} :
    (varRef head ref).InScope scope ↔
      ∀ ty, head.chain.ty? = some ty → ∀ value, scope ref value → ty.Holds value := by
  rw [InScope, every_varRef]
  exact and_iff_left ref.inScope_nodes

theorem inScope_call {head : Head} {kind : CallKind} {callee : Callee} {listSpan : Span} {arguments : List Expr} :
    (call head kind callee listSpan arguments none none).InScope scope ↔ ∀ e ∈ arguments, e.InScope scope := by
  rw [InScope, every_call]
  refine ⟨fun h => h.2.2.1, fun h => ⟨trivial, trivial, h, ?_, ?_⟩⟩
  · intro s hs
    cases hs
  · intro b hb
    cases hb

theorem inScope_unary {head : Head} {op : UnaryOp} {operand : Expr} :
    (unary head op operand).InScope scope ↔ operand.InScope scope := by
  rw [InScope, every_unary]
  exact and_iff_right trivial

theorem inScope_binary {head : Head} {op : BinaryOp} {token : Token} {left right : Expr} :
    (binary head op token left right).InScope scope ↔ left.InScope scope ∧ right.InScope scope := by
  rw [InScope, every_binary]
  exact and_iff_right trivial

theorem inScope_compare {head : Head} {token : Token} {left right : Expr} :
    (compare head token left right).InScope scope ↔ left.InScope scope ∧ right.InScope scope := by
  rw [InScope, every_compare]
  exact and_iff_right trivial

end Expr

namespace Value

open Machine (Yields)

theorem opposite_yields {ty : Ty} {value : Value} (hty : ty ∈ Ty.integers) (h : ty.Holds value) :
    (Machine.done value.opposite : Eval Value).Yields ty.Holds := by
  cases h with
  | int n => exact Machine.yields_done (.int _)
  | long n => exact Machine.yields_done (.long _)
  | boolean | nonNullString | string | noString | null => exact absurd hty (by decide)

theorem complement_yields {value : Value} (h : Ty.boolean.Holds value) :
    (Machine.done value.complement : Eval Value).Yields Ty.boolean.Holds := by
  cases h with
  | boolean b => exact Machine.yields_done (.boolean _)

theorem join_yields {l r : Value} (hl : Ty.nonNullString.Holds l) (hr : Ty.nonNullString.Holds r) :
    (Machine.done (l.join r) : Eval Value).Yields Ty.nonNullString.Holds := by
  cases hl with
  | nonNullString l =>
    cases hr with
    | nonNullString r => exact Machine.yields_done (.nonNullString _)

/-- An arithmetic operator has an exact result or faults. -/
theorem exact_ok_or_fault {operator : TokenKind} (h : operator.isArithmetic) (a b : Int) :
    (∃ n, operator.exact a b = .ok n) ∨ operator.exact a b = .error .fault := by
  cases operator with
  | plus | minus | mult => exact .inl ⟨_, rfl⟩
  | div | mod =>
    by_cases hb : b = 0
    · exact .inr (if_pos hb)
    · exact .inl ⟨_, if_neg hb⟩
  | _ => cases h

theorem combine_yields {ty : Ty} {operator : TokenKind} {l r : Value} (hty : ty ∈ Ty.integers)
    (hoperator : operator.isArithmetic) (hl : ty.Holds l) (hr : ty.Holds r) :
    (Machine.done (l.combine operator r) : Eval Value).Yields ty.Holds := by
  apply Machine.yields_done
  cases hl with
  | int a =>
    cases hr with
    | int b =>
      obtain ⟨n, hn⟩ | hfault := exact_ok_or_fault hoperator a.toInt b.toInt
      · rw [combine, hn]
        exact .int _
      · rw [combine, hfault]
        rfl
  | long a =>
    cases hr with
    | long b =>
      obtain ⟨n, hn⟩ | hfault := exact_ok_or_fault hoperator a.toInt b.toInt
      · rw [combine, hn]
        exact .long _
      · rw [combine, hfault]
        rfl
  | boolean | nonNullString | string | noString | null => exact absurd hty (by decide)

theorem relates_ok {α : Type} [LinearOrder α] {operator : TokenKind} (h : operator.isOrdering) (a b : α) :
    ∃ answer, operator.relates a b = .ok answer := by
  cases operator with
  | eq | ne | lt | gt | le | ge => exact ⟨_, rfl⟩
  | _ => cases h

theorem equates_ok {operator : TokenKind} (h : operator.isEquality) (same : Bool) :
    operator.equates same = .ok (same == (operator == .eq)) := by
  cases operator with
  | eq | ne => cases same <;> rfl
  | _ => cases h

theorem holds_yields_ordered {ty : Ty} {operator : TokenKind} {l r : Value} (hty : ty ∈ Ty.ordered)
    (hoperator : operator.isOrdering) (hl : ty.Holds l) (hr : ty.Holds r) :
    (Machine.done (l.holds operator r) : Eval Value).Yields Ty.boolean.Holds := by
  apply Machine.yields_done
  cases hl with
  | int a =>
    cases hr with
    | int b =>
      obtain ⟨answer, hanswer⟩ := relates_ok hoperator a.toInt b.toInt
      rw [holds_ints, hanswer]
      exact .boolean answer
  | long a =>
    cases hr with
    | long b =>
      obtain ⟨answer, hanswer⟩ := relates_ok hoperator a.toInt b.toInt
      rw [holds_longs, hanswer]
      exact .boolean answer
  | nonNullString a =>
    cases hr with
    | nonNullString b =>
      obtain ⟨answer, hanswer⟩ := relates_ok hoperator (Text.units a) (Text.units b)
      rw [holds_strings, hanswer]
      exact .boolean answer
  | boolean | string | noString | null => exact absurd hty (by decide)

theorem holds_booleans {operator : TokenKind} (hoperator : operator.isEquality) (l r : Bool) :
    (boolean l).holds operator (boolean r) = .ok (boolean ((l == r) == (operator == .eq))) := by
  rw [holds_truths, equates_ok hoperator]
  rfl

/-- Two values are told apart from null by whether they are null. -/
theorem holds_nulls {leftTy rightTy : Ty} {operator : TokenKind} {l r : Value} (hoperator : operator.isEquality)
    (hleftTy : leftTy ∈ Ty.nullables) (hrightTy : rightTy ∈ Ty.nullables) (hnull : leftTy = .null ∨ rightTy = .null)
    (hl : leftTy.Holds l) (hr : rightTy.Holds r) :
    l.holds operator r = .ok (boolean ((l.isNull && r.isNull) == (operator == .eq))) := by
  cases hl with
  | null =>
    cases hr with
    | null | noString =>
      rw [holds_null_null, equates_ok hoperator]
      rfl
    | string | nonNullString =>
      rw [holds_null_string, equates_ok hoperator]
      rfl
    | int | long | boolean => exact absurd hrightTy (by decide)
  | noString =>
    obtain hnull | rfl := hnull
    · exact absurd hnull (by decide)
    · cases hr with
      | null =>
        rw [holds_null_null, equates_ok hoperator]
        rfl
  | string | nonNullString =>
    obtain hnull | rfl := hnull
    · exact absurd hnull (by decide)
    · cases hr with
      | null =>
        rw [holds_string_null, equates_ok hoperator]
        rfl
  | int | long | boolean => exact absurd hleftTy (by decide)

end Value

namespace Expr

variable {env : Env} {oracle : Oracle} {scope : Scope}

private theorem literal_of_known {head : Head} {v value : Value} (h : (literal head v).known? = some value) :
    v = value := by
  cases v with
  | number n =>
    simp only [known?] at h
    split at h
    next => exact Option.some.inj h
    next => cases h
  | _ => exact Option.some.inj h

private theorem evalAll_yields {arguments : List Expr} {types : Expr → Ty}
    (h : ∀ e ∈ arguments, (e.eval env oracle).Yields (types e).Holds) :
    (evalAll env oracle arguments).Yields fun _ => True := by
  induction arguments with
  | nil => exact Machine.yields_pure trivial
  | cons e rest ih =>
    have he := h e List.mem_cons_self
    have hrest := ih fun e he => h e (List.mem_cons_of_mem _ he)
    exact he.bind fun value _ => hrest.bind fun _ _ => Machine.yields_pure trivial

/-- A plain expression evaluates to a value of its type unless it faults. -/
theorem Plain.yields {e : Expr} {ty : Ty} (h : e.Plain ty) (hscope : e.InScope scope) (henv : env.Respects scope)
    (horacle : oracle.Respects) : (e.eval env oracle).Yields ty.Holds := by
  induction h with
  | literal hvalue =>
    rw [eval_literal]
    exact Machine.yields_pure hvalue
  | varRef hty =>
    rw [eval_varRef]
    exact Machine.yields_pure (inScope_varRef.1 hscope _ rfl _ (henv _))
  | call hty harguments ih =>
    rw [eval_call (Head.natural_ty? _ _)]
    have hvalues := evalAll_yields fun e he => ih e he (inScope_call.1 hscope e he)
    exact hvalues.bind fun values _ trace => horacle trace _ values _ hty
  | paren _ ih =>
    rw [eval_paren]
    exact ih (inScope_paren.1 hscope)
  | negate hty _ ih =>
    rw [eval_negate]
    exact (ih (inScope_unary.1 hscope)).bind fun _ hv => Value.opposite_yields hty hv
  | not _ ih =>
    rw [eval_not]
    exact (ih (inScope_unary.1 hscope)).bind fun _ hv => Value.complement_yields hv
  | concatenate _ _ ihl ihr =>
    obtain ⟨hl, hr⟩ := inScope_binary.1 hscope
    rw [eval_concatenate]
    exact (ihl hl).bind fun _ hl => (ihr hr).bind fun _ hr => Value.join_yields hl hr
  | arithmetic hty htoken _ _ ihl ihr =>
    obtain ⟨hl, hr⟩ := inScope_binary.1 hscope
    rw [eval_arithmetic]
    exact (ihl hl).bind fun _ hl => (ihr hr).bind fun _ hr => Value.combine_yields hty htoken hl hr
  | and _ _ ihl ihr =>
    obtain ⟨hl, hr⟩ := inScope_binary.1 hscope
    rw [eval_and]
    refine (ihl hl).bind fun l hl => ?_
    cases hl with
    | boolean b =>
      cases b with
      | true => exact ihr hr
      | false => exact Machine.yields_pure (.boolean false)
  | or _ _ ihl ihr =>
    obtain ⟨hl, hr⟩ := inScope_binary.1 hscope
    rw [eval_or]
    refine (ihl hl).bind fun l hl => ?_
    cases hl with
    | boolean b =>
      cases b with
      | true => exact Machine.yields_pure (.boolean true)
      | false => exact ihr hr
  | compareOrdered hty htoken _ _ ihl ihr =>
    obtain ⟨hl, hr⟩ := inScope_compare.1 hscope
    rw [eval_compare]
    exact (ihl hl).bind fun _ hl => (ihr hr).bind fun _ hr => Value.holds_yields_ordered hty htoken hl hr
  | compareBooleans htoken _ _ ihl ihr =>
    obtain ⟨hl, hr⟩ := inScope_compare.1 hscope
    rw [eval_compare]
    refine (ihl hl).bind fun l hl => (ihr hr).bind fun r hr => ?_
    cases hl with
    | boolean l =>
      cases hr with
      | boolean r =>
        rw [Value.holds_booleans htoken]
        exact Machine.yields_done (.boolean _)
  | compareNull htoken hleftTy hrightTy hnull _ _ ihl ihr =>
    obtain ⟨hl, hr⟩ := inScope_compare.1 hscope
    rw [eval_compare]
    refine (ihl hl).bind fun l hl => (ihr hr).bind fun r hr => ?_
    rw [Value.holds_nulls htoken hleftTy hrightTy hnull hl hr]
    exact Machine.yields_done (.boolean _)

/-- The known value of a plain expression is what it evaluates to. -/
theorem Plain.eval_of_known {e : Expr} {ty : Ty} {value : Value} (h : e.Plain ty) (hknown : e.known? = some value) :
    e.eval env oracle = pure value := by
  induction h with
  | @literal span v hvalue =>
    have hv : v = value := literal_of_known hknown
    rw [eval_literal, hv]
  | paren _ ih =>
    rw [eval_paren]
    exact ih hknown
  | _ => cases hknown

/-- The known value of a plain expression has its type. -/
theorem Plain.holds_of_known {e : Expr} {ty : Ty} {value : Value} (h : e.Plain ty) (hknown : e.known? = some value) :
    value.naturalTy = ty ∧ ty.Holds value := by
  induction h with
  | @literal span v hvalue =>
    have hv : v = value := literal_of_known hknown
    subst hv
    exact ⟨rfl, hvalue⟩
  | paren _ ih => exact ih hknown
  | _ => cases hknown

end Expr

end TemplateTree
