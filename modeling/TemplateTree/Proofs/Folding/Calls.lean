import TemplateTree.Proofs.Folding.Induction

namespace TemplateTree

open TemplateTree.Folding

/-- The name of the function or template that the node calls. -/
def Node.callName? : Node → Option String
  | .expr (.call _ _ callee ..) => some callee.target.name
  | _ => none

/-- The names of all calls in the expression, in the order of the walk. -/
def Expr.calls (e : Expr) : List String := e.nodes.filterMap Node.callName?

mutual

/-- The names of the calls that are made whenever the expression is evaluated, in the order of the walk:
    it goes neither into the right operands of `and` and `or` nor into the statements that a call carries,
    and only into those class tests that it `enters`. -/
def Expr.sureCalls (enters : Expr → TypeName → Bool) : Expr → List String
  | .paren _ inner => inner.sureCalls enters
  | .array _ _ elements _ => exprSureCalls enters elements
  | .call _ _ callee _ arguments _ _ => callee.target.name :: exprSureCalls enters arguments
  | .varRef .. => []
  | .property _ object .. => object.sureCalls enters
  | .index _ object _ position _ => object.sureCalls enters ++ position.sureCalls enters
  | .unary _ _ operand => operand.sureCalls enters
  | .binary _ .and _ left _ => left.sureCalls enters
  | .binary _ .or _ left _ => left.sureCalls enters
  | .binary _ .concatenate _ left right => left.sureCalls enters ++ right.sureCalls enters
  | .binary _ .arithmetic _ left right => left.sureCalls enters ++ right.sureCalls enters
  | .compare _ _ left right => left.sureCalls enters ++ right.sureCalls enters
  | .isa _ _ operand tested => if enters operand tested then operand.sureCalls enters else []
  | .literal .. => []

/-- The calls of the expressions of a list one after another. -/
def exprSureCalls (enters : Expr → TypeName → Bool) : List Expr → List String
  | [] => []
  | e :: rest => e.sureCalls enters ++ exprSureCalls enters rest

end

/-- The pass settles the class test: what it makes of the operand has a type that the tested one
    accepts. -/
def Expr.passes (operand : Expr) (tested : TypeName) : Bool :=
  match (operand.keepingTy operand.fold).result, tested.ty? with
  | .ok operand', some testedTy => operand'.ty?.any testedTy.accepts
  | _, _ => false

/-- The calls that are made for sure, apart from those in class tests that the pass settles. -/
abbrev Expr.keptCalls (e : Expr) : List String := e.sureCalls fun operand tested => !operand.passes tested

namespace Expr

variable {head : Head} {token : Token}

theorem filterMap_exprNodes (es : List Expr) : (exprNodes es).filterMap Node.callName? = es.flatMap calls := by
  induction es with
  | nil => rfl
  | cons e rest ih =>
    rw [exprNodes, List.filterMap_append, ih]
    rfl

@[simp]
theorem calls_array (listSpan : Span) (elements : List Expr) (associative : Bool) :
    (array head listSpan elements associative).calls = elements.flatMap calls :=
  filterMap_exprNodes elements

@[simp]
theorem calls_varRef (ref : VarRef) : (varRef head ref).calls = [] := by
  simp only [calls, nodes, VarRef.nodes]
  cases ref.bound? <;> rfl

@[simp]
theorem calls_index (object position : Expr) (reader? : Option Method) :
    (index head object token position reader?).calls = object.calls ++ position.calls :=
  List.filterMap_append

@[simp]
theorem calls_unary (op : UnaryOp) (operand : Expr) : (unary head op operand).calls = operand.calls := rfl

@[simp]
theorem calls_binary (op : BinaryOp) (left right : Expr) :
    (binary head op token left right).calls = left.calls ++ right.calls :=
  List.filterMap_append

@[simp]
theorem calls_compare (left right : Expr) : (compare head token left right).calls = left.calls ++ right.calls :=
  List.filterMap_append

@[simp]
theorem calls_isa (operand : Expr) (tested : TypeName) : (isa head token operand tested).calls = operand.calls := by
  rw [calls, nodes, List.filterMap_cons_none rfl, List.filterMap_append]
  exact List.append_nil _

/-- The calls of a call are its own and then those of its arguments and of the statements it carries. -/
theorem sublist_calls_call (kind : CallKind) (callee : Callee) (listSpan : Span) (arguments : List Expr)
    (initializer : Option Stmt) (substitution : Option Block) :
    (callee.target.name :: arguments.flatMap calls).Sublist
      (call head kind callee listSpan arguments initializer substitution).calls := by
  have hname : Node.callName? (.expr (call head kind callee listSpan arguments initializer substitution)) =
      some callee.target.name := rfl
  rw [calls, nodes, List.filterMap_cons_some hname, List.filterMap_cons_none rfl, List.filterMap_append,
    List.filterMap_append, filterMap_exprNodes, List.append_assoc]
  exact (List.sublist_append_left _ _).cons_cons _

theorem calls_withHead (e : Expr) (head : Head) : (e.withHead head).calls = e.calls := by
  cases e <;> rfl

theorem flatMap_calls_eq {es es' : List Expr} (h : List.Forall₂ (fun e e' => e'.calls = e.calls) es es') :
    es'.flatMap calls = es.flatMap calls := by
  induction h with
  | nil => rfl
  | cons he _ ih => rw [List.flatMap_cons, List.flatMap_cons, he, ih]

/-- A coercion changes types, not calls. -/
theorem Coerced.calls_eq {target : Ty} {e e' : Expr} (h : Coerced target e e') : e'.calls = e.calls := by
  induction h with
  | @node _ _ e head => exact calls_withHead e head
  | paren _ ih => exact ih
  | @values _ _ _ _ _ elements elements' _ _ hlength _ ih =>
    rw [calls_array, calls_array]
    exact flatMap_calls_eq (forall₂_of_zip (R := fun e e' => e'.calls = e.calls) (fun _ => rfl) hlength ih)

/-- A known value is a literal, which calls nothing. -/
theorem calls_of_known? : ∀ e : Expr, e.known?.isSome → e.calls = []
  | .paren _ inner, h => inner.calls_of_known? h
  | .literal .., _ => rfl
  | .array .., h | .call .., h | .varRef .., h | .property .., h | .index .., h | .unary .., h | .binary .., h
  | .compare .., h | .isa .., h => nomatch h
termination_by structural e => e

theorem calls_of_known {α : Type} {e : Expr} {f : Value → Option α} {a : α} (h : e.known?.bind f = some a) :
    e.calls = [] :=
  e.calls_of_known? (Option.isSome_of_isSome_bind (Option.isSome_of_eq_some h))

theorem calls_of_isKnownNull {e : Expr} (h : e.isKnownNull) : e.calls = [] :=
  e.calls_of_known? (Option.isSome_of_any h)

/-- What can be dropped calls nothing. -/
theorem calls_of_isPureNonNull {e : Expr} (h : e.isPureNonNull) : e.calls = [] := by
  obtain ⟨-, hshape⟩ := Bool.and_eq_true_iff.1 h
  cases e with
  | literal => rfl
  | varRef => exact calls_varRef _
  | _ => cases hshape

theorem calls_of_negated {e e' : Expr} {span : Span} (h : e.negated span = .ok e') : e'.calls = e.calls := by
  obtain ⟨operand, hcoerced, rfl⟩ := negated_eq_ok h
  exact hcoerced.calls_eq

/-- The calls in those operands that an operator always evaluates. -/
def operatorCalls : Expr → List String
  | .unary _ _ operand => operand.calls
  | .binary _ .and _ left _ => left.calls
  | .binary _ .or _ left _ => left.calls
  | .binary _ .concatenate _ left right => left.calls ++ right.calls
  | .binary _ .arithmetic _ left right => left.calls ++ right.calls
  | .compare _ _ left right => left.calls ++ right.calls
  | .isa _ _ operand _ => operand.calls
  | _ => []

theorem operatorCalls_sublist (e : Expr) : e.operatorCalls.Sublist e.calls := by
  cases e with
  | binary head op token left right => cases op <;> simp [operatorCalls]
  | _ => simp [operatorCalls]

end Expr

namespace Folding

theorem calls_of_answer? {operator : TokenKind} {left right : Expr} {answer : Bool}
    (h : answer? operator left right = some answer) : left.calls = [] ∧ right.calls = [] := by
  unfold answer? at h
  split at h
  · exact ⟨left.calls_of_known? (Option.isSome_of_eq_some ‹_›), right.calls_of_known? (Option.isSome_of_eq_some ‹_›)⟩
  · exact ⟨left.calls_of_known? (Option.isSome_of_eq_some ‹_›), right.calls_of_known? (Option.isSome_of_eq_some ‹_›)⟩
  · cases h

theorem calls_of_keepOrNegate {known : Bool} {operator : TokenKind} {span : Span} {e e' : Expr}
    (h : keepOrNegate known operator span e = .ok e') : e'.calls = e.calls := by
  unfold keepOrNegate at h
  split at h
  · cases h
    rfl
  · exact Expr.calls_of_negated h

/-- Every rule keeps the calls that the operator always makes, except the one for class tests. -/
theorem Rewrites.operatorCalls_sublist {rule : Rule} {node e : Expr} (hrule : Rewrites rule node (.ok e))
    (hisa : rule ≠ .isaWidening) : node.operatorCalls.Sublist e.calls := by
  generalize hresult : (Except.ok e : Except TreeError Expr) = result at hrule
  cases hrule with
  | negateConstant hoperand => simp [Expr.operatorCalls, Expr.calls_of_known hoperand]
  | notConstant hoperand => simp [Expr.operatorCalls, Expr.calls_of_known hoperand]
  | doubleNegate | doubleNot =>
    cases hresult
    exact .refl _
  | concatenateConstants hleft hright =>
    simp [Expr.operatorCalls, Expr.calls_of_known hleft, Expr.calls_of_known hright]
  | arithmeticConstants _ hleft hright =>
    simp [Expr.operatorCalls, Expr.calls_of_known hleft, Expr.calls_of_known hright]
  | concatenateEmptyLeft hleft =>
    cases hresult
    simp [Expr.operatorCalls, Expr.calls_of_known hleft]
  | concatenateEmptyRight hright =>
    cases hresult
    simp [Expr.operatorCalls, Expr.calls_of_known hright]
  | andTrueLeft hleft | andFalseLeft hleft | orTrueLeft hleft | orFalseLeft hleft =>
    simp [Expr.operatorCalls, Expr.calls_of_known hleft]
  | andTrueRight | orFalseRight =>
    cases hresult
    exact .refl _
  | compareConstants _ hanswer =>
    obtain ⟨hleft, hright⟩ := calls_of_answer? hanswer
    simp [Expr.operatorCalls, hleft, hright]
  | compareBooleans _ _ _ hleft hright =>
    simp [Expr.operatorCalls, Expr.calls_of_known hleft, Expr.calls_of_known hright]
  | compareBooleanLeft _ _ _ hleft =>
    simp [Expr.operatorCalls, Expr.calls_of_known hleft, calls_of_keepOrNegate hresult.symm]
  | compareBooleanRight _ _ _ hright =>
    simp [Expr.operatorCalls, Expr.calls_of_known hright, calls_of_keepOrNegate hresult.symm]
  | compareNulls _ hleft hright =>
    simp [Expr.operatorCalls, Expr.calls_of_isKnownNull hleft, Expr.calls_of_isKnownNull hright]
  | compareNullLeft _ hleft hright =>
    simp [Expr.operatorCalls, Expr.calls_of_isKnownNull hleft, Expr.calls_of_isPureNonNull hright]
  | compareNullRight _ hleft hright =>
    simp [Expr.operatorCalls, Expr.calls_of_isPureNonNull hleft, Expr.calls_of_isKnownNull hright]
  | isaWidening => exact absurd rfl hisa

/-- What becomes of an operator keeps the calls that it always makes, if it is no class test. -/
theorem Settles.operatorCalls_sublist {node e : Expr} (h : Settles node e)
    (hisa : ∀ head token operand tested, node ≠ .isa head token operand tested) :
    node.operatorCalls.Sublist e.calls := by
  cases h with
  | kept => exact node.operatorCalls_sublist
  | rewritten hrule =>
    refine hrule.operatorCalls_sublist fun hwidening => ?_
    subst hwidening
    cases hrule
    exact hisa _ _ _ _ rfl

/-- A class test that the pass does not settle stays. -/
theorem Settles.isa_kept {head : Head} {token : Token} {operand operand' e : Expr} {tested : TypeName}
    (h : Settles (.isa head token operand' tested) e)
    (hoperand : (operand.keepingTy operand.fold).result = .ok operand')
    (hpasses : operand.passes tested = false) : e = .isa head token operand' tested := by
  cases h with
  | kept => rfl
  | rewritten hrule =>
    cases hrule with
    | isaWidening htested hty haccepts => simp [Expr.passes, hoperand, htested, hty, haccepts] at hpasses

theorem keptCalls_of_kept {e e' : Expr} (h : Kept (fun e d => e.keptCalls.Sublist d.calls) e e') :
    e.keptCalls.Sublist e'.calls := by
  obtain ⟨d, -, hd, hreplaced⟩ := h
  have hcalls : e'.calls = d.calls :=
    Expr.replacedBy_induction (P := fun c => c.calls = d.calls) (fun hcoerced hc => hcoerced.calls_eq.trans hc)
      hreplaced rfl
  rwa [hcalls]

theorem keptCalls_of_forall₂ {es es' : List Expr}
    (h : List.Forall₂ (Kept fun e d => e.keptCalls.Sublist d.calls) es es') :
    (exprSureCalls (fun operand tested => !operand.passes tested) es).Sublist (es'.flatMap Expr.calls) := by
  induction h with
  | nil => exact .refl _
  | cons he _ ih =>
    rw [exprSureCalls, List.flatMap_cons]
    exact (keptCalls_of_kept he).append ih

/-- The pass keeps the calls of that walk, in their order. Nothing is asked of statements. -/
theorem calls_cases :
    Cases (fun e d => e.keptCalls.Sublist d.calls) (fun _ _ => True) (fun _ _ => True) where
  paren hinner := hinner
  array helements := by
    rw [Expr.calls_array]
    exact keptCalls_of_forall₂ helements
  call harguments _ _ :=
    ((keptCalls_of_forall₂ harguments).cons_cons _).trans (Expr.sublist_calls_call _ _ _ _ _ _)
  varRef := List.nil_sublist _
  property hobject := (keptCalls_of_kept hobject :)
  index hobject hposition := by
    rw [Expr.calls_index]
    exact (keptCalls_of_kept hobject).append (keptCalls_of_kept hposition)
  unary hoperand hsettles := (keptCalls_of_kept hoperand).trans (hsettles.operatorCalls_sublist (by simp))
  binary {head op token left left' right right' e} hleft hright hsettles := by
    refine List.Sublist.trans ?_ (hsettles.operatorCalls_sublist (by simp))
    cases op with
    | and | or => exact (keptCalls_of_kept hleft :)
    | concatenate | arithmetic => exact (keptCalls_of_kept hleft).append (keptCalls_of_kept hright)
  compare hleft hright hsettles :=
    ((keptCalls_of_kept hleft).append (keptCalls_of_kept hright)).trans (hsettles.operatorCalls_sublist (by simp))
  isa {head token operand operand' e tested} hoperand hsettles := by
    rw [Expr.keptCalls, Expr.sureCalls]
    split
    next hstays =>
      obtain ⟨d, hd, -, hreplaced⟩ := id hoperand
      have hfolded := Expr.keepingTy_result_eq_ok_iff.2 ⟨d, hd, hreplaced⟩
      rw [hsettles.isa_kept hfolded (by simpa using hstays), Expr.calls_isa]
      exact keptCalls_of_kept hoperand
    next => exact List.nil_sublist _
  literal := List.nil_sublist _
  empty := trivial
  emptyList _ := trivial
  singleList _ := trivial
  list _ _ := trivial
  block _ := trivial
  assign _ := trivial
  breakLoop := trivial
  emptyForEach _ _ _ _ _ := trivial
  forEach _ _ _ _ _ := trivial
  constantCond _ _ _ := trivial
  turnedCond _ _ _ _ _ := trivial
  cond _ _ _ _ _ := trivial
  substitution := trivial
  eval _ := trivial
  ret _ := trivial
  guarded _ _ := trivial
  emptyBlock _ _ _ := trivial
  mkBlock _ _ _ _ := trivial

end Folding

/-- If the node is a class test that the pass settles, then its operand makes no call for sure. -/
def Node.SparesCalls : Node → Prop
  | .expr (.isa _ _ operand tested) => operand.passes tested → operand.sureCalls (fun _ _ => true) = []
  | _ => True

mutual

/-- The two walks meet the same calls where class tests that are settled make none. -/
theorem Expr.sureCalls_eq_keptCalls :
    ∀ e : Expr, e.Every Node.SparesCalls → e.sureCalls (fun _ _ => true) = e.keptCalls
  | .paren _ inner, h => inner.sureCalls_eq_keptCalls (Expr.every_paren.1 h).2
  | .array _ _ elements _, h => exprSureCalls_eq elements (Expr.every_array.1 h).2.2
  | .call _ _ callee _ arguments _ _, h =>
    congrArg (callee.target.name :: ·) (exprSureCalls_eq arguments (Expr.every_call.1 h).2.2.1)
  | .varRef .., _ => rfl
  | .property _ object .., h => object.sureCalls_eq_keptCalls (Expr.every_property.1 h).2
  | .index _ object _ position _, h => by
    obtain ⟨-, hobject, hposition⟩ := Expr.every_index.1 h
    exact congrArg₂ (· ++ ·) (object.sureCalls_eq_keptCalls hobject) (position.sureCalls_eq_keptCalls hposition)
  | .unary _ _ operand, h => operand.sureCalls_eq_keptCalls (Expr.every_unary.1 h).2
  | .binary _ op _ left right, h => by
    obtain ⟨-, hleft, hright⟩ := Expr.every_binary.1 h
    cases op with
    | and | or => exact left.sureCalls_eq_keptCalls hleft
    | concatenate | arithmetic =>
      exact congrArg₂ (· ++ ·) (left.sureCalls_eq_keptCalls hleft) (right.sureCalls_eq_keptCalls hright)
  | .compare _ _ left right, h => by
    obtain ⟨-, hleft, hright⟩ := Expr.every_compare.1 h
    exact congrArg₂ (· ++ ·) (left.sureCalls_eq_keptCalls hleft) (right.sureCalls_eq_keptCalls hright)
  | .isa _ _ operand tested, h => by
    obtain ⟨hnode, hoperand, -⟩ := Expr.every_isa.1 h
    rw [Expr.keptCalls, Expr.sureCalls, Expr.sureCalls]
    cases hpasses : operand.passes tested with
    | true => exact hnode hpasses
    | false => exact operand.sureCalls_eq_keptCalls hoperand
  | .literal .., _ => rfl
termination_by structural e => e

theorem exprSureCalls_eq : ∀ es : List Expr, (∀ e ∈ es, e.Every Node.SparesCalls) →
    exprSureCalls (fun _ _ => true) es = exprSureCalls (fun operand tested => !operand.passes tested) es
  | [], _ => rfl
  | e :: rest, h => by
    rw [List.forall_mem_cons] at h
    exact congrArg₂ (· ++ ·) (e.sureCalls_eq_keptCalls h.1) (exprSureCalls_eq rest h.2)
termination_by structural es => es

end

namespace Expr

/-- The pass keeps all calls that are made for sure, in their order, apart from those in the operands of
    class tests that it settles. Where such operands call nothing it keeps them all. -/
theorem keptCalls_sublist_calls_fold {e e' : Expr} (h : (e.keepingTy e.fold).result = .ok e') :
    e.keptCalls.Sublist e'.calls ∧
      ((∀ head token operand tested, .expr (.isa head token operand tested) ∈ e.nodes → operand.passes tested →
          operand.sureCalls (fun _ _ => true) = []) →
        (e.sureCalls fun _ _ => true).Sublist e'.calls) := by
  have hkept : e.keptCalls.Sublist e'.calls := keptCalls_of_kept (kept_of_keepingTy (calls_cases.expr e) h)
  refine ⟨hkept, fun hspares => ?_⟩
  have hevery : e.Every Node.SparesCalls := by
    intro n hn
    unfold Node.SparesCalls
    split
    next head token operand tested => exact hspares head token operand tested hn
    next => trivial
  rwa [e.sureCalls_eq_keptCalls hevery]

/-- A class test of the result of a call, which every value passes. -/
def nextTest : Expr :=
  let span : Span := ⟨1, 0, 8⟩
  let call : Expr :=
    .call ⟨span, .ofTy .nonNullString, false⟩ .function ⟨⟨span, "next"⟩, false, none⟩ span [] none none
  .isa ⟨span, .ofTy .boolean, false⟩ ⟨.isa, span⟩ call (.ofTy span .object)

/-- The test is settled and the call is gone. -/
theorem nextTest_calls_fold_eq_nil :
    nextTest.sureCalls (fun _ _ => true) = ["next"] ∧
      ∃ e', (nextTest.keepingTy nextTest.fold).result = .ok e' ∧ e'.calls = [] :=
  ⟨rfl, _, rfl, rfl⟩

/-- A call compared with a class test of a constant. -/
def readyTest : Expr :=
  let span : Span := ⟨1, 0, 8⟩
  let call : Expr :=
    .call ⟨span, .ofTy .boolean, false⟩ .function ⟨⟨span, "ready"⟩, false, none⟩ span [] none none
  let test : Expr := .isa ⟨span, .ofTy .boolean, false⟩ ⟨.isa, span⟩ (.ofString span "") (.ofTy span .object)
  .compare ⟨span, .ofTy .boolean, false⟩ ⟨.ne, span⟩ call test

theorem readyTest_keptCalls_sublist_calls_fold :
    ∃ e', (readyTest.keepingTy readyTest.fold).result = .ok e' ∧ readyTest.fold.events.length = 2 ∧
      readyTest.sureCalls (fun _ _ => true) = ["ready"] ∧ (["ready"] : List String).Sublist e'.calls := by
  refine ⟨_, rfl, rfl, rfl, (keptCalls_sublist_calls_fold (e := readyTest) rfl).2 ?_⟩
  intro head token operand tested hmem _
  have hoperand : operand = .ofString ⟨1, 0, 8⟩ "" := by
    simp [readyTest, nodes, exprNodes, optionalStmtNodes, optionalBlockNodes, ofString, ofValue] at hmem
    exact hmem.2.2.1
  rw [hoperand]
  rfl

end Expr

end TemplateTree
