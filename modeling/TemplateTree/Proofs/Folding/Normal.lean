import TemplateTree.Proofs.Folding.Contract

namespace TemplateTree

open TemplateTree.Folding

/-- The expression is no pair of parentheses and no operator that its operands make superfluous.
    Complements are left out: turning a conditional around can make one of anything. -/
def Expr.TopNormal : Expr → Prop
  | .paren .. => False
  | .unary _ .negate operand =>
    (∀ head inner, operand ≠ .unary head .negate inner) ∧ operand.knownNumber? = none
  | .binary _ .and _ left right => left.knownBoolean? = none ∧ right.knownBoolean? ≠ some true
  | .binary _ .or _ left right => left.knownBoolean? = none ∧ right.knownBoolean? ≠ some false
  | .binary _ .concatenate _ left right =>
    left.knownString? ≠ some "" ∧ right.knownString? ≠ some "" ∧
      (left.knownString? = none ∨ right.knownString? = none)
  | .binary _ .arithmetic token left right =>
    ∀ ty l r, left.ty? = some ty → right.ty? = some ty → left.knownNumber? = some l → right.knownNumber? = some r →
      Number.arithmetic? token.kind ty l r = none
  | _ => True

/-- The statement does something, is no list of fewer than two, and is not decided by a constant. Blocks
    hold something where they stand as a statement or as a part of a conditional; the bodies of loops
    and the blocks passed to templates may be empty. -/
def Stmt.TopNormal : Stmt → Prop
  | .empty _ => False
  | .list _ statements => 2 ≤ statements.length
  | .block b => b.isEmpty = false
  | .cond _ condition thenPart elsePart _ =>
    (∀ ty, condition.ty? = some ty → ty.isBoolean → condition.knownBoolean? = none) ∧
      (thenPart = none → elsePart = none) ∧
        (∀ b, thenPart = some b → b.isEmpty = false) ∧ ∀ b, elsePart = some b → b.isEmpty = false
  | _ => True

/-- The node is in normal form, apart from its parts. -/
def Node.Normal : Node → Prop
  | .expr e => e.TopNormal
  | .stmt s => s.TopNormal
  | _ => True

theorem VarRef.normal_nodes (ref : VarRef) : ∀ n ∈ ref.nodes, n.Normal := by
  obtain ⟨name, _ | v⟩ := ref <;> simp [VarRef.nodes, Variable.nodes, Node.Normal]

namespace Expr

/-- Every node of the expression is in normal form. -/
def Normal (e : Expr) : Prop := e.Every Node.Normal

theorem TopNormal.withHead {e : Expr} (h : e.TopNormal) (head : Head) : (e.withHead head).TopNormal := by
  cases e with
  | unary _ op => cases op <;> exact h
  | binary _ op => cases op <;> exact h
  | _ => exact h

/-- A coercion reaches no operand of an operator, so it makes nothing to fold. -/
theorem Coerced.normal {target : Ty} {e e' : Expr} (hcoerced : Coerced target e e') : e.Normal → e'.Normal :=
  hcoerced.every (fun {_ head} _ h => h.withHead head) (fun _ h => h.elim) (fun _ => trivial) (fun _ => trivial)

theorem topNormal_unary {head : Head} {op : UnaryOp} {operand : Expr} (hfinal : Final (.unary head op operand)) :
    (unary head op operand).TopNormal := by
  cases op with
  | negate =>
    refine ⟨fun innerHead inner hoperand => ?_, Option.eq_none_iff_forall_ne_some.2 fun n hn => ?_⟩
    · subst hoperand
      exact hfinal _ _ .doubleNegate
    · exact hfinal _ _ (.negateConstant hn)
  | not => trivial

/-- Arithmetic is folded only where the node has a type, as the contract demands of every operator. -/
theorem topNormal_binary {head : Head} {op : BinaryOp} {token : Token} {left right : Expr}
    (hty : head.chain.ty?.isSome) (hfinal : Final (.binary head op token left right)) :
    (binary head op token left right).TopNormal := by
  cases op with
  | concatenate =>
    refine ⟨fun hl => hfinal _ _ (.concatenateEmptyLeft hl), fun hr => hfinal _ _ (.concatenateEmptyRight hr), ?_⟩
    cases hl : left.knownString? with
    | none => exact .inl rfl
    | some l => exact .inr (Option.eq_none_iff_forall_ne_some.2 fun r hr => hfinal _ _ (.concatenateConstants hl hr))
  | arithmetic =>
    intro ty l r hleftTy hrightTy hl hr
    exact Option.eq_none_iff_forall_ne_some.2 fun n hn =>
      hfinal _ _ (.arithmeticConstants hty hl hr hleftTy hrightTy hn)
  | and =>
    refine ⟨Option.eq_none_iff_forall_ne_some.2 fun b hl => ?_, fun hr => hfinal _ _ (.andTrueRight hr)⟩
    cases b with
    | true => exact hfinal _ _ (.andTrueLeft hl)
    | false => exact hfinal _ _ (.andFalseLeft hl)
  | or =>
    refine ⟨Option.eq_none_iff_forall_ne_some.2 fun b hl => ?_, fun hr => hfinal _ _ (.orFalseRight hr)⟩
    cases b with
    | true => exact hfinal _ _ (.orTrueLeft hl)
    | false => exact hfinal _ _ (.orFalseLeft hl)

/-- An operator that conforms has a type of its own. -/
theorem head_typed_of_conforms {head : Head} {op : BinaryOp} {token : Token} {left right : Expr}
    (h : Node.Conforms (.expr (binary head op token left right))) : head.chain.ty?.isSome := by
  by_contra hnone
  have hty : (binary head op token left right).ty? = none := Option.not_isSome_iff_eq_none.1 hnone
  cases h.isVoidPermitted hty

end Expr

namespace Stmt

/-- Every node of the statement is in normal form. -/
def Normal (s : Stmt) : Prop := s.Every Node.Normal

/-- A condition that is not decided has no known truth value as a boolean. -/
theorem known?_eq_none_of_decided? {condition : Expr} (h : decided? condition = none) :
    ∀ ty, condition.ty? = some ty → ty.isBoolean → condition.knownBoolean? = none := by
  intro ty hty hboolean
  rwa [decided?, hty, Option.any_some, if_pos hboolean] at h

end Stmt

namespace Block

/-- Every node of the block is in normal form. -/
def Normal (b : Block) : Prop := b.Every Node.Normal

/-- The block is in normal form and holds something. -/
def FullNormal (b : Block) : Prop := b.Normal ∧ b.isEmpty = false

end Block

namespace Folding

/-- A node that is kept is one to which no rule applies, and what is made is normal from the start. -/
theorem normal_nodeCases : NodeCases Node.Conforms Node.Normal where
  rebuilt hrebuilt h := by
    cases hrebuilt with
    | ofRef hn => exact VarRef.normal_nodes _ _ hn
    | unary hfinal => exact Expr.topNormal_unary hfinal
    | binary hfinal => exact Expr.topNormal_binary (Expr.head_typed_of_conforms h) hfinal
    | cond hdecided hturned hthen helse =>
      exact ⟨Stmt.known?_eq_none_of_decided? hdecided, hturned, hthen, helse⟩
    | _ => trivial
  made hmade := by
    cases hmade with
    | list hlength => exact hlength
    | block hfull => exact hfull
    | _ => trivial
  coerced := Expr.Coerced.normal

/-- The pass puts every part of a conforming tree into normal form. -/
theorem normal_cases : Cases (fun e d => e.Conforms → d.Normal) (Gives Stmt.Conforms Stmt.Normal)
    (Gives Block.Conforms Block.FullNormal) :=
  normal_nodeCases.toCases

end Folding

namespace Template

/-- One pass over a template that meets the contract leaves nothing that is not in normal form. -/
theorem normal_of_mem_nodes_fold {t t' : Template} (hcheck : t.check = .ok ()) (h : t.fold.result = .ok t') :
    ∀ n ∈ t'.nodes, n.Normal := by
  obtain ⟨hbody, -⟩ := Folding.normal_cases.template h
  have hnormal : ∀ s, t'.body = some s → s.Normal := forall_of_part hbody (check_eq_ok_iff.1 hcheck)
  exact (forall_mem_nodes trivial (fun _ => trivial) (fun _ => trivial) (fun _ => trivial)).2 hnormal

/-- A template in which much is left to do: a condition that is known, one without a first part, empty
    statements and blocks, negations, and constants below a call and in a block that is passed to it. -/
def untidy : Template :=
  let span : Span := ⟨1, 0, 8⟩
  let count : Variable := .ofTy span "count" .int
  let ready : Variable := .ofTy span "ready" .boolean
  let countRef : Expr := .varRef ⟨span, .ofTy .int, false⟩ ⟨⟨span, "count"⟩, some count⟩
  let readyRef : Expr := .varRef ⟨span, .ofTy .boolean, false⟩ ⟨⟨span, "ready"⟩, some ready⟩
  let negate : Expr → Expr := .unary ⟨span, .ofTy .int, false⟩ .negate
  let sum : Expr :=
    .binary ⟨span, .ofTy .int, false⟩ .arithmetic ⟨.plus, span⟩ countRef
      (negate (.paren (.untyped span) (.ofNumber span (.int 5))))
  let always : Expr := .binary ⟨span, .ofTy .boolean, false⟩ .or ⟨.or, span⟩ (.ofBool span true) readyRef
  { span, name := ⟨span, "untidy"⟩, params := [count, ready], takesSubstitution := true, returnTy := none,
    body := some (.list span [
      .empty span,
      .cond span always (some (.wrap (.substitution span))) none none,
      .cond span readyRef (some (.wrap (.empty span))) (some (.wrap (.substitution span))) none,
      .eval span (.call (.untyped span) .template ⟨⟨span, "show"⟩, true, none⟩ span [negate (negate sum)] none
        (some (.wrap (.list span []))))]) }

theorem untidy_normal_of_mem_nodes_fold :
    untidy.check = .ok () ∧ (∃ n ∈ untidy.nodes, ¬ n.Normal) ∧
      ∃ t', untidy.fold.result = .ok t' ∧ t'.body.isSome ∧ ∀ n ∈ t'.nodes, n.Normal := by
  have hcheck : untidy.check = .ok () := rfl
  refine ⟨hcheck, ⟨.stmt (.empty ⟨1, 0, 8⟩), ?_, id⟩, _, rfl, rfl, normal_of_mem_nodes_fold hcheck rfl⟩
  simp [untidy, nodes, optionalStmtNodes, Stmt.nodes, stmtNodes]

end Template

end TemplateTree
