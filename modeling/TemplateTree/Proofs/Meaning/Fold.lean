import TemplateTree.Proofs.Meaning.Rules

namespace TemplateTree

/-- Every variable is an integer. -/
def Scope.integers : Scope := fun _ value => ∃ n, value = .number (.int n)

/-- A value of a type of variables: the given truth value, the integer zero or the empty string. -/
def Ty.sample (answer : Bool) : Ty → Value
  | .boolean => .boolean answer
  | .int => .number (.int 0)
  | .long => .number (.long 0)
  | _ => .string ""

theorem Ty.holds_sample (answer : Bool) {ty : Ty} (hty : ty ∈ declared) : ty.Holds (ty.sample answer) := by
  simp only [declared, List.mem_cons, List.not_mem_nil, or_false] at hty
  obtain rfl | rfl | rfl | rfl | rfl := hty
  · exact .int 0
  · exact .long 0
  · exact .boolean answer
  · exact .string ""
  · exact .nonNullString ""

/-- Every call returns the same truth value, the integer zero or the empty string. -/
def Oracle.constant (answer : Bool) : Oracle := fun _ _ _ ty => ty.sample answer

theorem Oracle.constant_respects (answer : Bool) : (constant answer).Respects := by
  intro trace callee arguments ty hty
  have hdeclared : Ty.results ⊆ Ty.declared := by decide
  exact Ty.holds_sample answer (hdeclared hty)

theorem Expr.inScope_integer {span : Span} {ref : VarRef} : (varRef (.natural span .int) ref).InScope .integers := by
  refine inScope_varRef.2 ?_
  rintro ty hty value ⟨n, rfl⟩
  cases hty
  exact .int n

/-- The pass succeeds with a plain expression of type `ty` that means what `e` means. -/
def Expr.RefinedBy (e : Expr) (ty : Ty) (x : Folding Expr) : Prop :=
  ∃ e', x.result = .ok e' ∧ e'.Plain ty ∧ SameMeaning e e'

open TemplateTree.Expr

namespace Folding

theorem Rewrites.sound {rule : Rule} {node : Expr} {result : Except TreeError Expr} {ty : Ty}
    (h : Rewrites rule node result) (hplain : node.Plain ty) :
    ∃ e, result = .ok e ∧ e.Plain ty ∧ SameMeaning node e := by
  cases node with
  | unary => exact h.unary_sound hplain
  | binary => exact h.binary_sound hplain
  | compare => exact h.compare_sound hplain
  | isa => cases hplain
  | _ => cases h

/-- Choosing a rule for a node keeps what the node means. -/
theorem orKeep_refined {span : Span} {outcome : Option Outcome} {node e : Expr} {ty : Ty}
    (hrule : ∀ rule result, outcome = some (rule, result) → Rewrites rule node result)
    (hplain : node.Plain ty) (hmeaning : SameMeaning e node) : e.RefinedBy ty (orKeep span outcome node) := by
  cases outcome with
  | none => exact ⟨node, rfl, hplain, hmeaning⟩
  | some outcome =>
    obtain ⟨rule, result⟩ := outcome
    obtain ⟨e', rfl, hplain', hmeaning'⟩ := (hrule rule result rfl).sound hplain
    exact ⟨e', rfl, hplain', hmeaning.trans hmeaning'⟩

end Folding

namespace Expr

/-- A replacement of the type of the expression is not coerced. -/
theorem Plain.replacedBy {e e' : Expr} {ty : Ty} (h : e.Plain ty) (h' : e'.Plain ty) : e.replacedBy e' = .ok e' := by
  have hty : e'.ty? = e.ty? := by rw [h'.ty?_eq, h.ty?_eq]
  exact if_pos hty

theorem RefinedBy.keepingTy {x : Folding Expr} {e : Expr} {ty : Ty} (hx : e.RefinedBy ty x) (hplain : e.Plain ty) :
    e.RefinedBy ty (e.keepingTy x) := by
  obtain ⟨e', hx, hplain', hmeaning⟩ := hx
  exact ⟨e', keepingTy_result_eq_ok_iff.2 ⟨e', hx, hplain.replacedBy hplain'⟩, hplain', hmeaning⟩

private theorem unary_refined {head : Head} {op : UnaryOp} {operand : Expr} {ty operandTy : Ty}
    (hoperand : operand.Plain operandTy) (hfold : operand.RefinedBy operandTy operand.fold)
    (hnode : ∀ e, e.Plain operandTy → (unary head op e).Plain ty) :
    (unary head op operand).RefinedBy ty (unary head op operand).fold := by
  obtain ⟨e, he, hplain, hmeaning⟩ := hfold.keepingTy hoperand
  unfold RefinedBy
  rw [fold, Logged.bind_result_of_ok he]
  exact Folding.orKeep_refined (fun _ _ => Folding.unary?_rewrites) (hnode e hplain) hmeaning.unary

private theorem binary_refined {head : Head} {op : BinaryOp} {token : Token} {left right : Expr}
    {ty leftTy rightTy : Ty}
    (hleft : left.Plain leftTy) (hright : right.Plain rightTy)
    (hfoldLeft : left.RefinedBy leftTy left.fold) (hfoldRight : right.RefinedBy rightTy right.fold)
    (hnode : ∀ l r, l.Plain leftTy → r.Plain rightTy → (binary head op token l r).Plain ty) :
    (binary head op token left right).RefinedBy ty (binary head op token left right).fold := by
  obtain ⟨l, hl, hplainLeft, hmeaningLeft⟩ := hfoldLeft.keepingTy hleft
  obtain ⟨r, hr, hplainRight, hmeaningRight⟩ := hfoldRight.keepingTy hright
  unfold RefinedBy
  rw [fold, Logged.bind_result_of_ok hl, Logged.bind_result_of_ok hr]
  exact Folding.orKeep_refined (fun _ _ => Folding.binary?_rewrites) (hnode l r hplainLeft hplainRight)
    (hmeaningLeft.binary hmeaningRight)

private theorem compare_refined {head : Head} {token : Token} {left right : Expr} {ty leftTy rightTy : Ty}
    (hleft : left.Plain leftTy) (hright : right.Plain rightTy)
    (hfoldLeft : left.RefinedBy leftTy left.fold) (hfoldRight : right.RefinedBy rightTy right.fold)
    (hnode : ∀ l r, l.Plain leftTy → r.Plain rightTy → (compare head token l r).Plain ty) :
    (compare head token left right).RefinedBy ty (compare head token left right).fold := by
  obtain ⟨l, hl, hplainLeft, hmeaningLeft⟩ := hfoldLeft.keepingTy hleft
  obtain ⟨r, hr, hplainRight, hmeaningRight⟩ := hfoldRight.keepingTy hright
  unfold RefinedBy
  rw [fold, Logged.bind_result_of_ok hl, Logged.bind_result_of_ok hr]
  exact Folding.orKeep_refined (fun _ _ => Folding.compare?_rewrites) (hnode l r hplainLeft hplainRight)
    (hmeaningLeft.compare hmeaningRight)

private theorem foldExprs_refined {arguments : List Expr}
    (h : ∀ e ∈ arguments, ∃ ty, e.RefinedBy ty (e.keepingTy e.fold)) :
    ∃ arguments', (foldExprs arguments).result = .ok arguments' ∧ (∀ e ∈ arguments', ∃ ty, e.Plain ty) ∧
      List.Forall₂ SameMeaning arguments arguments' := by
  induction arguments with
  | nil => exact ⟨[], by rw [foldExprs]; rfl, by simp, .nil⟩
  | cons e rest ih =>
    obtain ⟨ty, e', he, hplain, hmeaning⟩ := h e List.mem_cons_self
    obtain ⟨rest', hrest, hplains, hmeanings⟩ := ih fun e he => h e (List.mem_cons_of_mem _ he)
    refine ⟨e' :: rest', ?_, List.forall_mem_cons.2 ⟨⟨ty, hplain⟩, hplains⟩, .cons hmeaning hmeanings⟩
    rw [foldExprs, Logged.bind_result_of_ok he, Logged.bind_result_of_ok hrest]
    rfl

/-- A call is plain if each argument has a type. -/
theorem call_plain {span listSpan : Span} {callee : Callee} {arguments : List Expr} {ty : Ty}
    (hty : ty ∈ Ty.results) (h : ∀ e ∈ arguments, ∃ ty, e.Plain ty) :
    (call (.natural span ty) .function callee listSpan arguments none none).Plain ty := by
  have harguments : ∀ e ∈ arguments, e.Plain (e.ty?.getD .null) := by
    intro e he
    obtain ⟨argumentTy, hplain⟩ := h e he
    rwa [hplain.ty?_eq]
  exact .call hty harguments

/-- Folding a plain expression succeeds and keeps its type and its meaning. -/
theorem Plain.fold_refined {e : Expr} {ty : Ty} (h : e.Plain ty) : e.RefinedBy ty e.fold := by
  induction h with
  | @literal span value hvalue => exact ⟨_, by rw [fold]; rfl, .literal hvalue, .refl _⟩
  | varRef hty => exact ⟨_, by rw [fold]; rfl, .varRef hty, .refl _⟩
  | call hty harguments ih =>
    obtain ⟨arguments, hfold, hplain, hmeaning⟩ :=
      foldExprs_refined fun e he => ⟨_, (ih e he).keepingTy (harguments e he)⟩
    refine ⟨_, ?_, call_plain hty hplain, .call hmeaning⟩
    rw [fold, Logged.bind_result_of_ok hfold, foldOptionalStmt, foldOptionalBody]
    rfl
  | paren _ ih =>
    obtain ⟨e, hfold, hplain, hmeaning⟩ := ih
    refine ⟨e, ?_, hplain, .trans .paren hmeaning⟩
    rw [fold, applied_bind_result, hfold]
  | negate hty hoperand ih => exact unary_refined hoperand ih fun _ => .negate hty
  | not hoperand ih => exact unary_refined hoperand ih fun _ => .not
  | concatenate hleft hright ihl ihr => exact binary_refined hleft hright ihl ihr fun _ _ => .concatenate
  | arithmetic hty htoken hleft hright ihl ihr =>
    exact binary_refined hleft hright ihl ihr fun _ _ => .arithmetic hty htoken
  | and hleft hright ihl ihr => exact binary_refined hleft hright ihl ihr fun _ _ => .and
  | or hleft hright ihl ihr => exact binary_refined hleft hright ihl ihr fun _ _ => .or
  | compareOrdered hty htoken hleft hright ihl ihr =>
    exact compare_refined hleft hright ihl ihr fun _ _ => .compareOrdered hty htoken
  | compareBooleans htoken hleft hright ihl ihr =>
    exact compare_refined hleft hright ihl ihr fun _ _ => .compareBooleans htoken
  | compareNull htoken hleftTy hrightTy hnull hleft hright ihl ihr =>
    exact compare_refined hleft hright ihl ihr fun _ _ => .compareNull htoken hleftTy hrightTy hnull

/-- Folding a plain expression succeeds, with or without regard to its type. Where variables and calls
    have values of their types the result has the type of the expression, and from every trace on both
    end with the same value or fault and leave the same trace: they make the same calls in the same
    order. Neither is ever stuck. -/
theorem Plain.runFrom_eval_fold {e : Expr} {ty : Ty} (h : e.Plain ty) :
    ∃ e', e.fold.result = .ok e' ∧ (e.keepingTy e.fold).result = .ok e' ∧ e'.ty? = some ty ∧
      ∀ (scope : Scope) (env : Env) (oracle : Oracle), e.InScope scope → env.Respects scope → oracle.Respects →
        (e.eval env oracle).Yields ty.Holds ∧
        ∀ trace, (e'.eval env oracle).runFrom trace = (e.eval env oracle).runFrom trace := by
  obtain ⟨e', hfold, hplain, hmeaning⟩ := h.fold_refined
  refine ⟨e', hfold, keepingTy_result_eq_ok_iff.2 ⟨e', hfold, h.replacedBy hplain⟩, hplain.ty?_eq, ?_⟩
  intro scope env oracle hscope henv horacle
  refine ⟨h.yields hscope henv horacle, fun trace => ?_⟩
  rw [hmeaning.eval_eq hscope henv horacle]

/-- The condition `not (ready(1 / n) != true)`. -/
def notUnready : Expr :=
  unary (.natural default .boolean) .not
    (compare (.natural default .boolean) ⟨.ne, default⟩
      (call (.natural default .boolean) .function ⟨⟨default, "ready"⟩, false, none⟩ default
        [binary (.natural default .int) .arithmetic ⟨.div, default⟩ (ofNumber default (.int 1))
          (varRef (.natural default .int) ⟨⟨default, "n"⟩, none⟩)] none none)
      (ofBool default true))

/-- The condition calls `ready` once and faults if `n` is zero, and so does what it folds to. -/
theorem notUnready_runFrom_eval_fold :
    notUnready.Plain .boolean ∧ ∃ e', notUnready.fold.result = .ok e' ∧
      ∀ (n : Int32) (answer : Bool) (trace : Trace),
        (e'.eval (fun _ => .number (.int n)) (.constant answer)).runFrom trace =
          (notUnready.eval (fun _ => .number (.int n)) (.constant answer)).runFrom trace := by
  have hone : (ofNumber default (.int 1)).Plain .int := .literal (.int 1)
  have htrue : (ofBool default true).Plain .boolean := .literal (.boolean true)
  have hplain : notUnready.Plain .boolean := by
    refine .not (.compareBooleans rfl (call_plain (by decide) ?_) htrue)
    exact List.forall_mem_singleton.2 ⟨.int, .arithmetic (by decide) rfl hone (.varRef (by decide))⟩
  have hscope : notUnready.InScope .integers := by
    refine inScope_unary.2 (inScope_compare.2 ⟨inScope_call.2 (List.forall_mem_singleton.2 ?_), inScope_ofValue⟩)
    exact inScope_binary.2 ⟨inScope_ofValue, inScope_integer⟩
  obtain ⟨e', hfold, -, -, hmeaning⟩ := hplain.runFrom_eval_fold
  refine ⟨hplain, e', hfold, fun n answer => ?_⟩
  exact (hmeaning .integers _ _ hscope (fun _ => ⟨n, rfl⟩) (Oracle.constant_respects answer)).2

end Expr

end TemplateTree
