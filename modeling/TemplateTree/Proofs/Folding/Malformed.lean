import TemplateTree.Proofs.Folding.Contract

namespace TemplateTree

open TemplateTree.Folding

namespace Logged

variable {ι α β : Type} {error : TreeError}

/-- The computation does not stop at the error. -/
def Avoids (error : TreeError) (x : Logged ι α) : Prop := x.result ≠ .error error

theorem avoids_pure (a : α) : (pure a : Logged ι α).Avoids error := nofun

theorem avoids_ofExcept {result : Except TreeError α} (h : result ≠ .error error) :
    (ofExcept result : Logged ι α).Avoids error := h

theorem Avoids.bind {x : Logged ι α} {f : α → Logged ι β} (hx : x.Avoids error)
    (hf : ∀ a, x.result = .ok a → (f a).Avoids error) : (x >>= f).Avoids error := by
  unfold Avoids
  cases hresult : x.result with
  | ok a =>
    rw [bind_result_of_ok hresult]
    exact hf a hresult
  | error stopped =>
    rw [bind_of_error hresult]
    intro h
    cases h
    exact hx hresult

/-- Logging the use of a rule does not fail. -/
theorem avoids_applied_bind {rule : Rule} {span : Span} {f : Unit → Folding α} (h : (f ()).Avoids error) :
    (applied rule span >>= f).Avoids error := h

end Logged

section

variable {defect : Defect} {place : Span}

theorem Attempt.error?_andThen_ne {α : Type} {attempt : Attempt α} {next : α → Attempt α} {error : TreeError}
    (hattempt : attempt.error? ≠ some error) (hnext : ∀ a, (next a).error? ≠ some error) :
    (attempt.andThen next).error? ≠ some error := by
  unfold andThen
  split
  · exact hnext attempt.value
  · exact hattempt

theorem Attempt.toExcept_ne {α : Type} {attempt : Attempt α} {error : TreeError} (h : attempt.error? ≠ some error) :
    attempt.toExcept ≠ .error error := by
  unfold toExcept
  split
  · exact nofun
  · intro hsame
    cases hsame
    exact h ‹_›

namespace Expr

theorem extended_error?_ne (e : Expr) (target : Ty) (preferCast : Bool) :
    (e.extended target preferCast).error? ≠ some (.malformed defect place) := by
  unfold extended Head.extended
  cases e.head.chain.converted? target preferCast <;> simp [Attempt.done]

theorem coerceNode_error?_ne (e : Expr) (target : Ty) (preferCast : Bool) :
    (e.coerceNode target preferCast).error? ≠ some (.malformed defect place) := by
  unfold coerceNode
  split
  · split
    · split
      · exact nofun
      · exact extended_error?_ne _ _ _
    · exact extended_error?_ne _ _ _
  · split
    · exact nofun
    · exact extended_error?_ne _ _ _

mutual

/-- A coercion that fails is an illegal conversion. -/
theorem convertTo_error?_ne {target : Ty} {preferCast : Bool} :
    ∀ e : Expr, (e.convertTo target preferCast).error? ≠ some (.malformed defect place)
  | .paren head inner => by
    rw [convertTo]
    exact convertTo_error?_ne inner
  | .array head listSpan elements associative => by
    rw [convertTo, Head.extended]
    cases head.chain.converted? target preferCast with
    | none => exact nofun
    | some converted =>
      cases target.element? with
      | none => exact nofun
      | some element => exact convertValues_error?_ne elements
  | .call .. => coerceNode_error?_ne _ _ _
  | .varRef .. => coerceNode_error?_ne _ _ _
  | .property .. => coerceNode_error?_ne _ _ _
  | .index .. => coerceNode_error?_ne _ _ _
  | .unary .. => coerceNode_error?_ne _ _ _
  | .binary .. => coerceNode_error?_ne _ _ _
  | .compare .. => coerceNode_error?_ne _ _ _
  | .isa .. => coerceNode_error?_ne _ _ _
  | .literal .. => coerceNode_error?_ne _ _ _
termination_by structural e => e

theorem convertValues_error?_ne {element : Ty} {preferCast associative isKey : Bool} :
    ∀ es : List Expr, (convertValues element preferCast associative isKey es).error? ≠ some (.malformed defect place)
  | [] => nofun
  | e :: rest => by
    rw [convertValues]
    split
    · exact convertValues_error?_ne rest
    · split
      · exact convertValues_error?_ne rest
      · have he : (e.convertTo element preferCast).error? ≠ some (.malformed defect place) := convertTo_error?_ne e
        simp only
        split
        · rename_i error herror
          rwa [herror] at he
        · exact convertValues_error?_ne rest
termination_by structural es => es

end

theorem replay_error?_ne (steps : List Conversion) (e : Expr) :
    (e.replay steps).error? ≠ some (.malformed defect place) := by
  have hsteps : ∀ {attempt : Attempt Expr}, attempt.error? ≠ some (.malformed defect place) →
      (steps.foldl (fun attempt step => attempt.andThen (convertTo step.target step.castPreferred)) attempt).error? ≠
        some (.malformed defect place) := by
    induction steps with
    | nil => exact id
    | cons step rest ih => exact fun h => ih (Attempt.error?_andThen_ne h convertTo_error?_ne)
  exact hsteps nofun

theorem negated_ne (e : Expr) (span : Span) : e.negated span ≠ .error (.malformed defect place) := by
  unfold negated
  cases hoperand : (e.convertTo .boolean true).toExcept with
  | ok operand =>
    change ((mkUnary span .not operand).convertTo .boolean true).toExcept ≠ .error (.malformed defect place)
    exact Attempt.toExcept_ne (convertTo_error?_ne _)
  | error error =>
    intro h
    cases h
    exact Attempt.toExcept_ne (convertTo_error?_ne e) hoperand

theorem keepingTy_avoids {e : Expr} (h : e.fold.Avoids (.malformed defect place)) :
    (e.keepingTy e.fold).Avoids (.malformed defect place) := by
  refine h.bind fun replacement _ => ?_
  split
  · exact Logged.avoids_pure replacement
  · exact Logged.avoids_ofExcept (Attempt.toExcept_ne (replay_error?_ne _ _))

end Expr

namespace Folding

theorem keepOrNegate_ne {known : Bool} {operator : TokenKind} (e : Expr) (span : Span) :
    keepOrNegate known operator span e ≠ .error (.malformed defect place) := by
  unfold keepOrNegate
  split
  · exact nofun
  · exact e.negated_ne span

/-- A rule that fails could not make a negation. -/
theorem Rewrites.ne_malformed {rule : Rule} {node : Expr} {result : Except TreeError Expr}
    (h : Rewrites rule node result) : result ≠ .error (.malformed defect place) := by
  cases h with
  | compareBooleanLeft | compareBooleanRight => exact keepOrNegate_ne _ _
  | _ => exact nofun

theorem orKeep_avoids {node : Expr} {span : Span} {outcome : Option Outcome}
    (h : ∀ rule result, outcome = some (rule, result) → Rewrites rule node result) :
    (orKeep span outcome node).Avoids (.malformed defect place) := by
  unfold orKeep
  split
  · exact Logged.avoids_pure node
  · exact Logged.avoids_applied_bind (Logged.avoids_ofExcept (h _ _ rfl).ne_malformed)

theorem foldList_avoids {error : TreeError} (span : Span) (statements : List Stmt) :
    (Stmt.foldList span statements).Avoids error := by
  rcases statements with _ | ⟨s, _ | ⟨s', rest⟩⟩ <;> exact nofun

theorem foldEmpty_avoids {error : TreeError} (b : Block) : b.foldEmpty.Avoids error := by
  unfold Block.foldEmpty
  split <;> exact nofun

/-- Turning a conditional around fails only if its condition cannot be negated. -/
theorem foldCond_avoids (span : Span) (condition : Expr) (thenPart elsePart : Option Block)
    (merged : Option (List Variable)) :
    (Stmt.foldCond span condition thenPart elsePart merged).Avoids (.malformed defect place) := by
  unfold Stmt.foldCond
  split
  · refine Logged.avoids_applied_bind ?_
    exact (Logged.avoids_ofExcept (condition.negated_ne condition.span)).bind fun _ _ => Logged.avoids_pure _
  · exact Logged.avoids_pure _

end Folding

/-- The error is not that the node is a class test of a call that may be void and has no type. -/
def Node.Clears (error : TreeError) : Node → Prop
  | .expr (.isa _ _ operand _) =>
    operand.isVoidPermitted → operand.ty? = none → error ≠ .malformed .untypedOperand operand.span
  | _ => True

/-- The node meets its obligations and is not where the error comes from. -/
def Node.Sound (error : TreeError) (n : Node) : Prop := n.Conforms ∧ n.Clears error

theorem Node.Conforms.tested_typed {head : Head} {token : Token} {operand : Expr} {tested : TypeName}
    (h : Conforms (.expr (.isa head token operand tested))) : tested.ty? ≠ none := by
  obtain ⟨-, hresolved⟩ := List.append_eq_nil_iff.1 h
  intro hnone
  simp [hnone] at hresolved

namespace Expr

/-- A call keeps its head when it is folded. -/
theorem head_of_keepingTy {e e' : Expr} (hvoid : e.isVoidPermitted) (h : (e.keepingTy e.fold).result = .ok e') :
    e'.head = e.head := by
  cases e with
  | call head kind callee listSpan arguments initializer substitution =>
    obtain ⟨d, hd, hreplaced⟩ := keepingTy_result_eq_ok_iff.1 h
    rw [fold, Logged.bind_result_eq_ok_iff] at hd
    obtain ⟨arguments', -, hd⟩ := hd
    rw [Logged.bind_result_eq_ok_iff] at hd
    obtain ⟨initializer', -, hd⟩ := hd
    rw [Logged.bind_result_eq_ok_iff] at hd
    obtain ⟨substitution', -, hd⟩ := hd
    cases hd
    unfold replacedBy at hreplaced
    split at hreplaced
    next =>
      cases hreplaced
      rfl
    next hother => exact absurd rfl hother
  | _ => cases hvoid

/-- A class test is decided unless the error is that its operand has no type. -/
theorem isa?_ne {head : Head} {token : Token} {operand operand' : Expr} {tested : TypeName}
    (h : (isa head token operand tested).Every (Node.Sound (.malformed defect place)))
    (hoperand : (operand.keepingTy operand.fold).result = .ok operand') :
    isa? head operand' tested ≠ .error (.malformed defect place) := by
  obtain ⟨⟨hnode, hclears⟩, hevery, -⟩ := every_isa.1 h
  obtain ⟨htop, -⟩ := hevery (.expr operand) (by rw [nodes_eq_cons]; exact List.mem_cons_self)
  unfold isa?
  split
  next hnone => exact absurd hnone hnode.tested_typed
  next hnone =>
    have hty : operand.ty? = none := by
      cases hty : operand.ty? with
      | none => rfl
      | some ty =>
        obtain ⟨d, -, hreplaced⟩ := keepingTy_result_eq_ok_iff.1 hoperand
        obtain ⟨ty', hty', -⟩ := replacedBy_fits hty hreplaced
        cases hnone.symm.trans hty'
    have hvoid := htop.isVoidPermitted hty
    intro herror
    rw [Expr.span, head_of_keepingTy hvoid hoperand] at herror
    cases herror
    exact hclears hvoid hty rfl
  next => exact nofun

end Expr

mutual

/-- An expression folds without the error if its nodes are sound. -/
theorem Expr.fold_avoids :
    ∀ e : Expr, e.Every (Node.Sound (.malformed defect place)) → e.fold.Avoids (.malformed defect place)
  | .paren head inner, h => by
    rw [Expr.fold]
    exact Logged.avoids_applied_bind (inner.fold_avoids (Expr.every_paren.1 h).2)
  | .array head listSpan elements associative, h => by
    rw [Expr.fold]
    exact (foldExprs_avoids elements (Expr.every_array.1 h).2.2).bind fun _ _ => Logged.avoids_pure _
  | .call head kind callee listSpan arguments initializer substitution, h => by
    obtain ⟨-, -, harguments, hinitializer, hsubstitution⟩ := Expr.every_call.1 h
    rw [Expr.fold]
    refine (foldExprs_avoids arguments harguments).bind fun _ _ => ?_
    refine (foldOptionalStmt_avoids initializer hinitializer).bind fun _ _ => ?_
    exact (foldOptionalBody_avoids substitution hsubstitution).bind fun _ _ => Logged.avoids_pure _
  | .varRef head ref, _ => by
    rw [Expr.fold]
    exact Logged.avoids_pure _
  | .property head object dot name reader?, h => by
    rw [Expr.fold]
    exact (Expr.keepingTy_avoids (object.fold_avoids (Expr.every_property.1 h).2)).bind fun _ _ => Logged.avoids_pure _
  | .index head object bracket position reader?, h => by
    obtain ⟨-, hobject, hposition⟩ := Expr.every_index.1 h
    rw [Expr.fold]
    refine (Expr.keepingTy_avoids (object.fold_avoids hobject)).bind fun _ _ => ?_
    exact (Expr.keepingTy_avoids (position.fold_avoids hposition)).bind fun _ _ => Logged.avoids_pure _
  | .unary head op operand, h => by
    rw [Expr.fold]
    refine (Expr.keepingTy_avoids (operand.fold_avoids (Expr.every_unary.1 h).2)).bind fun _ _ => ?_
    exact orKeep_avoids fun _ _ => unary?_rewrites
  | .binary head op token left right, h => by
    obtain ⟨-, hleft, hright⟩ := Expr.every_binary.1 h
    rw [Expr.fold]
    refine (Expr.keepingTy_avoids (left.fold_avoids hleft)).bind fun _ _ => ?_
    refine (Expr.keepingTy_avoids (right.fold_avoids hright)).bind fun _ _ => ?_
    exact orKeep_avoids fun _ _ => binary?_rewrites
  | .compare head token left right, h => by
    obtain ⟨-, hleft, hright⟩ := Expr.every_compare.1 h
    rw [Expr.fold]
    refine (Expr.keepingTy_avoids (left.fold_avoids hleft)).bind fun _ _ => ?_
    refine (Expr.keepingTy_avoids (right.fold_avoids hright)).bind fun _ _ => ?_
    exact orKeep_avoids fun _ _ => compare?_rewrites
  | .isa head token operand tested, h => by
    rw [Expr.fold]
    refine (Expr.keepingTy_avoids (operand.fold_avoids (Expr.every_isa.1 h).2.1)).bind fun operand' hoperand => ?_
    refine (Logged.avoids_ofExcept (Expr.isa?_ne h hoperand)).bind fun outcome houtcome => ?_
    refine orKeep_avoids fun rule result hrule => ?_
    subst hrule
    exact isa?_rewrites houtcome
  | .literal head value, _ => by
    rw [Expr.fold]
    exact Logged.avoids_pure _
termination_by structural e => e

theorem foldExprs_avoids : ∀ es : List Expr, (∀ e ∈ es, e.Every (Node.Sound (.malformed defect place))) →
    (foldExprs es).Avoids (.malformed defect place)
  | [], _ => by
    rw [foldExprs]
    exact Logged.avoids_pure _
  | e :: rest, h => by
    rw [List.forall_mem_cons] at h
    rw [foldExprs]
    refine (Expr.keepingTy_avoids (e.fold_avoids h.1)).bind fun _ _ => ?_
    exact (foldExprs_avoids rest h.2).bind fun _ _ => Logged.avoids_pure _
termination_by structural es => es

theorem foldOptionalExpr_avoids :
    ∀ e? : Option Expr, (∀ e, e? = some e → e.Every (Node.Sound (.malformed defect place))) →
      (foldOptionalExpr e?).Avoids (.malformed defect place)
  | none, _ => by
    rw [foldOptionalExpr]
    exact Logged.avoids_pure _
  | some e, h => by
    rw [foldOptionalExpr]
    exact (Expr.keepingTy_avoids (e.fold_avoids (h e rfl))).bind fun _ _ => Logged.avoids_pure _
termination_by structural e? => e?

/-- A statement folds without the error if its nodes are sound. -/
theorem Stmt.fold_avoids :
    ∀ s : Stmt, s.Every (Node.Sound (.malformed defect place)) → s.fold.Avoids (.malformed defect place)
  | .empty span, _ => by
    rw [Stmt.fold]
    exact Logged.avoids_applied_bind (Logged.avoids_pure _)
  | .list span statements, h => by
    rw [Stmt.fold]
    exact (foldStmts_avoids statements (Stmt.every_list.1 h).2).bind fun _ _ => foldList_avoids _ _
  | .block b, h => by
    rw [Stmt.fold]
    exact (b.fold_avoids (Stmt.every_block.1 h).2).bind fun _ _ => Logged.avoids_pure _
  | .assign span target value, h => by
    rw [Stmt.fold]
    exact (Expr.keepingTy_avoids (value.fold_avoids (Stmt.every_assign.1 h).2.2)).bind fun _ _ => Logged.avoids_pure _
  | .breakLoop span, _ => by
    rw [Stmt.fold]
    exact Logged.avoids_pure _
  | .forEach span loopVar range rangeEnd reverse initializer body, h => by
    obtain ⟨-, -, hrange, hrangeEnd, hinitializer, hbody⟩ := Stmt.every_forEach.1 h
    rw [Stmt.fold]
    refine (Expr.keepingTy_avoids (range.fold_avoids hrange)).bind fun _ _ => ?_
    refine (foldOptionalExpr_avoids rangeEnd hrangeEnd).bind fun _ _ => ?_
    refine (foldOptionalStmt_avoids initializer hinitializer).bind fun _ _ => ?_
    refine (foldOptionalBody_avoids body hbody).bind fun _ _ => ?_
    split
    · exact Logged.avoids_applied_bind (Logged.avoids_pure _)
    · exact Logged.avoids_pure _
  | .cond span condition thenPart elsePart merged, h => by
    obtain ⟨-, hcondition, hthen, helse⟩ := Stmt.every_cond.1 h
    rw [Stmt.fold]
    refine (Expr.keepingTy_avoids (condition.fold_avoids hcondition)).bind fun _ _ => ?_
    split
    · exact Logged.avoids_applied_bind ((foldPart_avoids thenPart hthen).bind fun _ _ => Logged.avoids_pure _)
    · exact Logged.avoids_applied_bind ((foldPart_avoids elsePart helse).bind fun _ _ => Logged.avoids_pure _)
    · refine (foldPart_avoids thenPart hthen).bind fun _ _ => ?_
      refine (foldPart_avoids elsePart helse).bind fun _ _ => ?_
      exact (foldCond_avoids _ _ _ _ _).bind fun _ _ => Logged.avoids_pure _
  | .substitution span, _ => by
    rw [Stmt.fold]
    exact Logged.avoids_pure _
  | .eval span e, h => by
    rw [Stmt.fold]
    exact (Expr.keepingTy_avoids (e.fold_avoids (Stmt.every_eval.1 h).2)).bind fun _ _ => Logged.avoids_pure _
  | .ret span value, h => by
    rw [Stmt.fold]
    exact (foldOptionalExpr_avoids value (Stmt.every_ret.1 h).2).bind fun _ _ => Logged.avoids_pure _
  | .guarded span part replacement, h => by
    obtain ⟨-, hpart, hreplacement⟩ := Stmt.every_guarded.1 h
    rw [Stmt.fold]
    refine (foldOptionalStmt_avoids part hpart).bind fun _ _ => ?_
    exact (foldOptionalStmt_avoids replacement hreplacement).bind fun _ _ => Logged.avoids_pure _
termination_by structural s => s

theorem foldStmts_avoids : ∀ ss : List Stmt, (∀ s ∈ ss, s.Every (Node.Sound (.malformed defect place))) →
    (foldStmts ss).Avoids (.malformed defect place)
  | [], _ => by
    rw [foldStmts]
    exact Logged.avoids_pure _
  | s :: rest, h => by
    rw [List.forall_mem_cons] at h
    rw [foldStmts]
    refine (s.fold_avoids h.1).bind fun _ _ => ?_
    exact (foldStmts_avoids rest h.2).bind fun _ _ => Logged.avoids_pure _
termination_by structural ss => ss

theorem foldOptionalStmt_avoids :
    ∀ s? : Option Stmt, (∀ s, s? = some s → s.Every (Node.Sound (.malformed defect place))) →
      (foldOptionalStmt s?).Avoids (.malformed defect place)
  | none, _ => by
    rw [foldOptionalStmt]
    exact Logged.avoids_pure _
  | some s, h => by
    rw [foldOptionalStmt]
    exact s.fold_avoids (h s rfl)
termination_by structural s? => s?

/-- A block folds without the error if its nodes are sound. -/
theorem Block.fold_avoids :
    ∀ b : Block, b.Every (Node.Sound (.malformed defect place)) → b.fold.Avoids (.malformed defect place)
  | ⟨span, statements, initializer, finalizer⟩, h => by
    obtain ⟨-, hinitializer, hstatements, hfinalizer⟩ := Block.every_mk.1 h
    rw [Block.fold]
    refine (foldOptionalStmt_avoids initializer hinitializer).bind fun _ _ => ?_
    refine (foldStmts_avoids statements hstatements).bind fun _ _ => ?_
    exact (foldOptionalStmt_avoids finalizer hfinalizer).bind fun _ _ => foldEmpty_avoids _
termination_by structural b => b

theorem foldPart_avoids : ∀ b? : Option Block, (∀ b, b? = some b → b.Every (Node.Sound (.malformed defect place))) →
    (foldPart b?).Avoids (.malformed defect place)
  | none, _ => by
    rw [foldPart]
    exact Logged.avoids_pure _
  | some b, h => by
    rw [foldPart]
    exact b.fold_avoids (h b rfl)
termination_by structural b? => b?

theorem foldOptionalBody_avoids :
    ∀ b? : Option Block, (∀ b, b? = some b → b.Every (Node.Sound (.malformed defect place))) →
      (foldOptionalBody b?).Avoids (.malformed defect place)
  | none, _ => by
    rw [foldOptionalBody]
    exact Logged.avoids_pure _
  | some b, h => by
    rw [foldOptionalBody]
    exact (b.fold_avoids (h b rfl)).bind fun _ _ => Logged.avoids_pure _
termination_by structural b? => b?

end

end

namespace Template

/-- The pass gives up a template that meets the contract as malformed only where the operand of a class
    test is a call that may be void and has no type. -/
theorem exists_isa_of_fold_eq_malformed {t : Template} {defect : Defect} {place : Span} (hcheck : t.check = .ok ())
    (h : t.fold.result = .error (.malformed defect place)) :
    defect = .untypedOperand ∧ ∃ head token operand tested, .expr (.isa head token operand tested) ∈ t.nodes ∧
      operand.isVoidPermitted ∧ operand.ty? = none ∧ operand.span = place := by
  by_contra hnone
  have hclears : ∀ n ∈ t.nodes, n.Clears (.malformed defect place) := by
    intro n hn
    unfold Node.Clears
    split
    next head token operand tested =>
      intro hvoid hty herror
      cases herror
      exact hnone ⟨rfl, head, token, operand, tested, hn, hvoid, hty, rfl⟩
    next => trivial
  have hconforms : ∀ n ∈ t.nodes, n.Conforms :=
    (forall_mem_nodes (P := Node.Conforms) rfl (fun _ => rfl) (fun _ => rfl) (fun _ => rfl)).2
      (check_eq_ok_iff.1 hcheck)
  have hsound : ∀ s, t.body = some s → s.Every (Node.Sound (.malformed defect place)) :=
    (forall_mem_nodes ⟨rfl, trivial⟩ (fun _ => ⟨rfl, trivial⟩) (fun _ => ⟨rfl, trivial⟩)
      (fun _ => ⟨rfl, trivial⟩)).1 fun n hn => ⟨hconforms n hn, hclears n hn⟩
  exact (foldOptionalStmt_avoids t.body hsound).bind (fun _ _ => Logged.avoids_pure _) h

/-- A class test of a call that may be void. The contract asks for no type of the call. -/
def voidTest : Template :=
  let span : Span := ⟨1, 0, 8⟩
  let log : Method := ⟨none, "log", [], .void⟩
  let call : Expr := .call (.untyped span) .function ⟨⟨span, "log"⟩, true, some log⟩ span [] none none
  let test : Expr := .isa ⟨span, .ofTy .boolean, false⟩ ⟨.isa, span⟩ call (.ofTy span .string)
  { span, name := ⟨span, "voidTest"⟩, params := [], takesSubstitution := false, returnTy := none,
    body := some (.eval span test) }

/-- The contract does not cover all that the pass asks of a class test. -/
theorem voidTest_fold_eq_malformed :
    voidTest.check = .ok () ∧ voidTest.fold.result = .error (.malformed .untypedOperand ⟨1, 0, 8⟩) :=
  ⟨rfl, rfl⟩

theorem voidTest_exists_isa :
    voidTest.check = .ok () ∧ voidTest.fold.result = .error (.malformed .untypedOperand ⟨1, 0, 8⟩) ∧
      ∃ head token operand tested, .expr (.isa head token operand tested) ∈ voidTest.nodes ∧
        operand.isVoidPermitted ∧ operand.ty? = none ∧ operand.span = ⟨1, 0, 8⟩ :=
  ⟨rfl, rfl, (exists_isa_of_fold_eq_malformed (t := voidTest) rfl rfl).2⟩

end Template

end TemplateTree
