import Mathlib.Logic.Relation
import TemplateTree.Proofs.Folding.Induction
import TemplateTree.Proofs.Folding.Uses

namespace TemplateTree

open TemplateTree.Folding

namespace Node

/-- A property of nodes that does not tell expressions apart. -/
structure Uniform (p : Node → Bool) : Prop where
  expr (e e' : Expr) : p (.expr e) = p (.expr e')
  exprList (span : Span) (es es' : List Expr) : p (.exprList span es) = p (.exprList span es')

theorem uniform_isCounted : Uniform isCounted := ⟨fun _ _ => rfl, fun _ _ _ => rfl⟩

theorem uniform_isElseOnly : Uniform isElseOnly := ⟨fun _ _ => rfl, fun _ _ _ => rfl⟩

/-- There are no more nodes in the first list than in the second, whatever is counted, as long as expressions
    are not told apart. -/
def Within (ns ms : List Node) : Prop := ∀ p, Uniform p → ns.countP p ≤ ms.countP p

namespace Within

variable {ns ns' ms ms' : List Node}

theorem refl (ns : List Node) : Within ns ns := fun _ _ => Nat.le_refl _

theorem trans (h : Within ns ms) (h' : Within ms ms') : Within ns ms' := fun p hp => Nat.le_trans (h p hp) (h' p hp)

theorem of_sublist (h : ns.Sublist ms) : Within ns ms := fun _ _ => h.countP_le

theorem append (h : Within ns ms) (h' : Within ns' ms') : Within (ns ++ ns') (ms ++ ms') := by
  intro p hp
  rw [List.countP_append, List.countP_append]
  exact Nat.add_le_add (h p hp) (h' p hp)

theorem expr_cons (e e' : Expr) (h : Within ns ms) : Within (.expr e :: ns) (.expr e' :: ms) := by
  intro p hp
  rw [List.countP_cons, List.countP_cons, hp.expr e e']
  exact Nat.add_le_add_right (h p hp) _

theorem exprList_cons (span : Span) (es es' : List Expr) (h : Within ns ms) :
    Within (.exprList span es :: ns) (.exprList span es' :: ms) := by
  intro p hp
  rw [List.countP_cons, List.countP_cons, hp.exprList span es es']
  exact Nat.add_le_add_right (h p hp) _

end Within

theorem within_exprNodes {es es' : List Expr} (h : List.Forall₂ (fun e e' => Within e'.nodes e.nodes) es es') :
    Within (exprNodes es') (exprNodes es) := by
  induction h with
  | nil => exact .refl _
  | cons he _ ih => exact he.append ih

end Node

open Node

namespace Expr

/-- A coercion adds no nodes. -/
theorem Coerced.within {target : Ty} {e e' : Expr} (h : Coerced target e e') : Within e'.nodes e.nodes := by
  induction h with
  | @node _ _ e head =>
    rw [nodes_withHead, e.nodes_eq_cons]
    exact .expr_cons _ _ (.refl _)
  | paren _ ih => exact .expr_cons _ _ ih
  | @values _ _ _ _ _ elements elements' _ _ hlength _ ih =>
    have hvalues := forall₂_of_zip (R := fun e e' => Within e'.nodes e.nodes) (fun _ => .refl _) hlength ih
    exact .expr_cons _ _ (.exprList_cons _ _ _ (within_exprNodes hvalues))

/-- What stands in the place of an expression has no more nodes than what was chosen to. -/
theorem within_of_replacedBy {e d e' : Expr} (h : e.replacedBy d = .ok e') : Within e'.nodes d.nodes :=
  replacedBy_induction (P := fun c => Within c.nodes d.nodes) (fun hcoerced hc => hcoerced.within.trans hc) h (.refl _)

theorem sublist_nodes_of_mem_operands {node operand : Expr} (h : operand ∈ node.operands) :
    operand.nodes.Sublist node.nodes.tail := by
  cases node with
  | unary | isa =>
    obtain rfl := List.mem_singleton.1 h
    simp [nodes]
  | binary | compare =>
    obtain rfl | h := List.mem_cons.1 h
    · exact List.sublist_append_left _ _
    · obtain rfl := List.mem_singleton.1 h
      exact List.sublist_append_right _ _
  | _ => cases h

/-- An operand has no more nodes than the operator, also below an operator that takes the place of the first. -/
theorem within_of_mem_operands {node operand : Expr} (h : operand ∈ node.operands) : Within operand.nodes node.nodes :=
  .of_sublist ((sublist_nodes_of_mem_operands h).trans (List.tail_sublist _))

theorem within_of_negated {node operand negation : Expr} {span : Span} (hmem : operand ∈ node.operands)
    (h : operand.negated span = .ok negation) : Within negation.nodes node.nodes := by
  obtain ⟨coerced, hcoerced, rfl⟩ := negated_eq_ok h
  rw [node.nodes_eq_cons]
  exact .expr_cons _ _ (hcoerced.within.trans (.of_sublist (sublist_nodes_of_mem_operands hmem)))

theorem within_ofValue (span : Span) (value : Value) (node : Expr) : Within (ofValue span value).nodes node.nodes := by
  rw [node.nodes_eq_cons]
  exact .expr_cons _ _ (.of_sublist (List.nil_sublist _))

end Expr

namespace Folding

/-- A rule puts no more nodes in the place of an operator than it takes away. -/
theorem Rewrites.within {rule : Rule} {node e : Expr} (hrule : Rewrites rule node (.ok e)) :
    Within e.nodes node.nodes := by
  have hkeepOrNegate : ∀ {known : Bool} {operator : TokenKind} {span : Span} {operand : Expr},
      operand ∈ node.operands → keepOrNegate known operator span operand = .ok e → Within e.nodes node.nodes := by
    intro known operator span operand hmem h
    unfold keepOrNegate at h
    split at h
    · cases h
      exact Expr.within_of_mem_operands hmem
    · exact Expr.within_of_negated hmem h
  generalize hresult : (Except.ok e : Except TreeError Expr) = result at hrule
  cases hrule with
  | doubleNegate | doubleNot =>
    cases hresult
    exact .of_sublist ((List.sublist_cons_self _ _).trans (List.sublist_cons_self _ _))
  | concatenateEmptyLeft | andTrueLeft | orFalseLeft =>
    cases hresult
    exact Expr.within_of_mem_operands (List.mem_cons_of_mem _ (List.mem_singleton_self _))
  | concatenateEmptyRight | andTrueRight | orFalseRight =>
    cases hresult
    exact Expr.within_of_mem_operands List.mem_cons_self
  | compareBooleanLeft => exact hkeepOrNegate (List.mem_cons_of_mem _ (List.mem_singleton_self _)) hresult.symm
  | compareBooleanRight => exact hkeepOrNegate List.mem_cons_self hresult.symm
  | _ =>
    cases hresult
    exact Expr.within_ofValue _ _ _

theorem Settles.within {node e : Expr} (h : Settles node e) : Within e.nodes node.nodes := by
  cases h with
  | kept => exact .refl _
  | rewritten hrule => exact hrule.within

/-- What is left after the pass: it grew at most by the conditionals that had only a second part, and it has no
    such conditionals itself. -/
structure Shrinks (before after : List Node) : Prop where
  size_le : size after ≤ size before + elseOnly before
  elseOnly_eq : elseOnly after = 0

namespace Shrinks

variable {ns ns' ms ms' : List Node}

theorem gone (ns : List Node) : Shrinks ns [] := ⟨Nat.zero_le _, rfl⟩

theorem append (h : Shrinks ns ns') (h' : Shrinks ms ms') : Shrinks (ns ++ ms) (ns' ++ ms') := by
  refine ⟨?_, ?_⟩
  · have hsize := h.size_le
    have hsize' := h'.size_le
    rw [size_append, size_append, elseOnly_append]
    omega
  · rw [elseOnly_append, h.elseOnly_eq, h'.elseOnly_eq]

/-- Nodes at the start may go away. -/
theorem drop (ms : List Node) (h : Shrinks ns ns') : Shrinks (ms ++ ns) ns' := (gone ms).append h

/-- Nodes at the end may go away. -/
theorem dropLast (ms : List Node) (h : Shrinks ns ns') : Shrinks (ns ++ ms) ns' := by
  have happend := h.append (gone ms)
  rwa [List.append_nil] at happend

theorem within (h : Shrinks ns ms) (h' : Within ns' ms) : Shrinks ns ns' := by
  refine ⟨Nat.le_trans (h' _ uniform_isCounted) h.size_le, ?_⟩
  exact Nat.eq_zero_of_le_zero (h.elseOnly_eq ▸ h' _ uniform_isElseOnly)

theorem perm (h : Shrinks ns ns') (hperm : ns.Perm ms) : Shrinks ms ns' := by
  have hsize : size ns = size ms := hperm.countP_eq _
  have helse : elseOnly ns = elseOnly ms := hperm.countP_eq _
  exact ⟨hsize ▸ helse ▸ h.size_le, h.elseOnly_eq⟩

theorem cons {n n' : Node} (hnode : Shrinks [n] [n']) (h : Shrinks ns ns') : Shrinks (n :: ns) (n' :: ns') :=
  hnode.append h

theorem expr_cons (e e' : Expr) (h : Shrinks ns ns') : Shrinks (.expr e :: ns) (.expr e' :: ns') :=
  cons ⟨Nat.le_refl _, rfl⟩ h

theorem exprList_cons (span : Span) (es es' : List Expr) (h : Shrinks ns ns') :
    Shrinks (.exprList span es :: ns) (.exprList span es' :: ns') :=
  cons ⟨Nat.le_refl _, rfl⟩ h

theorem block_cons (b b' : Block) (h : Shrinks ns ns') : Shrinks (.block b :: ns) (.block b' :: ns') :=
  cons ⟨Nat.le_refl _, rfl⟩ h

/-- A statement stays, if it is not counted where it was not before and has a first part if it has a second. -/
theorem stmt_cons {s s' : Stmt} (hcounted : (Node.stmt s').isCounted = true → (Node.stmt s).isCounted = true)
    (helse : (Node.stmt s').isElseOnly = false) (h : Shrinks ns ns') : Shrinks (.stmt s :: ns) (.stmt s' :: ns') := by
  refine cons ⟨?_, ?_⟩ h
  · rw [size, size, List.countP_singleton, List.countP_singleton]
    cases hs' : (Node.stmt s').isCounted with
    | false => exact Nat.zero_le _
    | true =>
      rw [hcounted hs']
      exact Nat.le_add_right _ _
  · rw [elseOnly, List.countP_singleton, helse]
    rfl

end Shrinks

theorem shrinks_varRef (ref : VarRef) : Shrinks ref.nodes ref.nodes := by
  refine ⟨Nat.le_add_right _ _, ?_⟩
  obtain ⟨name, _ | v⟩ := ref <;> rfl

theorem shrinks_of_kept {e e' : Expr} (h : Kept (fun e d => Shrinks e.nodes d.nodes) e e') :
    Shrinks e.nodes e'.nodes := by
  obtain ⟨d, -, hd, hreplaced⟩ := h
  exact hd.within (Expr.within_of_replacedBy hreplaced)

theorem shrinks_of_forall₂ {es es' : List Expr} (h : List.Forall₂ (Kept fun e d => Shrinks e.nodes d.nodes) es es') :
    Shrinks (exprNodes es) (exprNodes es') := by
  induction h with
  | nil => exact .gone _
  | cons he _ ih => exact (shrinks_of_kept he).append ih

theorem shrinks_of_rel {e? e'? : Option Expr} (h : Option.Rel (Kept fun e d => Shrinks e.nodes d.nodes) e? e'?) :
    Shrinks (optionalExprNodes e?) (optionalExprNodes e'?) := by
  cases h with
  | none => exact .gone _
  | some he => exact shrinks_of_kept he

theorem shrinks_of_stmtPart {s? s'? : Option Stmt}
    (h : Part (fun s s'? => Shrinks s.nodes (optionalStmtNodes s'?)) s? s'?) :
    Shrinks (optionalStmtNodes s?) (optionalStmtNodes s'?) := by
  cases h with
  | none => exact .gone _
  | some hs => exact hs

theorem shrinks_of_part {b? b'? : Option Block}
    (h : Part (fun b b'? => Shrinks b.nodes (optionalBlockNodes b'?)) b? b'?) :
    Shrinks (optionalBlockNodes b?) (optionalBlockNodes b'?) := by
  cases h with
  | none => exact .gone _
  | some hb => exact hb

/-- A body that went away is one empty block, and it was at least one block before. -/
theorem shrinks_of_body {b? b'? : Option Block}
    (h : Body (fun b b'? => Shrinks b.nodes (optionalBlockNodes b'?)) b? b'?) :
    Shrinks (optionalBlockNodes b?) (optionalBlockNodes b'?) := by
  cases h with
  | none => exact .gone _
  | @some b b'? hb =>
    cases b'? with
    | none =>
      change Shrinks b.nodes [.block (.empty b.span)]
      rw [b.nodes_eq_cons]
      exact .block_cons _ _ (.gone _)
    | some b' => exact hb

theorem shrinks_of_left {ss ss' : List Stmt}
    (h : Left (fun s s'? => Shrinks s.nodes (optionalStmtNodes s'?)) ss ss') :
    Shrinks (stmtNodes ss) (stmtNodes ss') := by
  obtain ⟨left?, hleft, rfl⟩ := h
  induction hleft with
  | nil => exact .gone _
  | @cons s s'? rest rest'? hs _ ih =>
    cases s'? with
    | none => exact ih.drop s.nodes
    | some s' => exact hs.append ih

/-- A conditional that is turned around has room for the negation: either its first part went away, or it had
    none. -/
theorem shrinks_toNegation (span : Span) (condition negation : Expr) (thenPart : Option Block) (elsePart part : Block)
    (merged : Option (List Variable)) :
    Shrinks (.stmt (.cond span condition thenPart (some elsePart) merged) :: optionalBlockNodes thenPart)
      [.stmt (.cond span negation (some part) none merged), .expr negation] := by
  cases thenPart with
  | none => exact ⟨Nat.le_refl 2, rfl⟩
  | some gone =>
    have hblock : Shrinks [.block gone] [.expr negation] := ⟨Nat.le_refl 1, rfl⟩
    rw [optionalBlockNodes, gone.nodes_eq_cons]
    exact .stmt_cons id rfl (hblock.append (.gone _))

theorem shrinks_turned {span : Span} {condition condition' negation : Expr} {thenPart elsePart : Option Block}
    {part : Block} {merged : Option (List Variable)} (hcondition : Shrinks condition.nodes condition'.nodes)
    (helse : Part (fun b b'? => Shrinks b.nodes (optionalBlockNodes b'?)) elsePart (some part))
    (hnegation : condition'.negated condition'.span = .ok negation) :
    Shrinks (Stmt.cond span condition thenPart elsePart merged).nodes
      (Stmt.cond span negation (some part) none merged).nodes := by
  obtain ⟨operand, hcoerced, rfl⟩ := Expr.negated_eq_ok hnegation
  have hoperand : Shrinks condition.nodes operand.nodes := hcondition.within hcoerced.within
  cases helse with
  | @some elsePart _ hpart =>
    have hnode := shrinks_toNegation span condition (.unary ⟨condition'.span, .ofTy .boolean, false⟩ .not operand)
      thenPart elsePart part merged
    have hparts := (hnode.append hoperand).append hpart
    refine (hparts.perm ((List.perm_append_comm.append_right _).cons _)).within ?_
    rw [Stmt.nodes, optionalBlockNodes, optionalBlockNodes, List.append_nil]
    exact .refl _

/-- The pass shrinks every part of a tree. -/
theorem shrinks_cases : Cases (fun e d => Shrinks e.nodes d.nodes)
    (fun s s'? => Shrinks s.nodes (optionalStmtNodes s'?)) (fun b b'? => Shrinks b.nodes (optionalBlockNodes b'?)) where
  paren {head inner e} hinner := hinner.drop [.expr (.paren head inner)]
  array helements := .expr_cons _ _ (.exprList_cons _ _ _ (shrinks_of_forall₂ helements))
  call harguments hinitializer hsubstitution :=
    .expr_cons _ _ (.exprList_cons _ _ _ (((shrinks_of_forall₂ harguments).append
      (shrinks_of_stmtPart hinitializer)).append (shrinks_of_body hsubstitution)))
  varRef {head ref} := .expr_cons _ _ (shrinks_varRef ref)
  property hobject := .expr_cons _ _ (shrinks_of_kept hobject)
  index hobject hposition := .expr_cons _ _ ((shrinks_of_kept hobject).append (shrinks_of_kept hposition))
  unary hoperand hsettles := (Shrinks.expr_cons _ _ (shrinks_of_kept hoperand)).within hsettles.within
  binary hleft hright hsettles :=
    (Shrinks.expr_cons _ _ ((shrinks_of_kept hleft).append (shrinks_of_kept hright))).within hsettles.within
  compare hleft hright hsettles :=
    (Shrinks.expr_cons _ _ ((shrinks_of_kept hleft).append (shrinks_of_kept hright))).within hsettles.within
  isa {head token operand operand' e tested} hoperand hsettles := by
    have htested : Shrinks [.typeName tested] [.typeName tested] := ⟨Nat.le_refl _, rfl⟩
    exact (Shrinks.expr_cons _ _ ((shrinks_of_kept hoperand).append htested)).within hsettles.within
  literal := .expr_cons _ _ (.gone _)
  empty := .gone _
  emptyList _ := .gone _
  singleList {span statements s} hleft := by
    have hone := shrinks_of_left hleft
    rw [stmtNodes, stmtNodes, List.append_nil] at hone
    exact hone.drop [.stmt (.list span statements)]
  list hleft _ := .stmt_cons id rfl (shrinks_of_left hleft)
  block {b b'?} hblock := by
    cases b'? with
    | none => exact .gone _
    | some b' => exact .stmt_cons id rfl hblock
  assign {span target value value'} hvalue :=
    .stmt_cons id rfl ((shrinks_varRef target).append (shrinks_of_kept hvalue))
  breakLoop := .stmt_cons id rfl (.gone _)
  emptyForEach hrange hrangeEnd hinitializer _ _ :=
    .stmt_cons id rfl (((((shrinks_varRef _).append (shrinks_of_kept hrange)).append (shrinks_of_rel hrangeEnd)).append
      (shrinks_of_stmtPart hinitializer)).append (.gone _))
  forEach hrange hrangeEnd hinitializer hbody _ :=
    .stmt_cons id rfl (((((shrinks_varRef _).append (shrinks_of_kept hrange)).append (shrinks_of_rel hrangeEnd)).append
      (shrinks_of_stmtPart hinitializer)).append (shrinks_of_body hbody))
  constantCond {span condition condition' thenPart elsePart part' merged b} _ _ hpart := by
    cases part' with
    | none => exact .gone _
    | some part' =>
      have htaken := shrinks_of_part hpart
      refine .stmt_cons (fun h => absurd h Bool.false_ne_true) rfl ?_
      cases b with
      | true => exact (htaken.drop condition.nodes).dropLast (optionalBlockNodes elsePart)
      | false => exact htaken.drop (condition.nodes ++ optionalBlockNodes thenPart)
  turnedCond hcondition _ _ helse hnegation := shrinks_turned (shrinks_of_kept hcondition) helse hnegation
  cond {span condition condition' thenPart thenPart' elsePart elsePart' merged} hcondition _ hthen helse hturned := by
    have hparts := ((shrinks_of_kept hcondition).append (shrinks_of_part hthen)).append (shrinks_of_part helse)
    refine .stmt_cons id ?_ hparts
    cases thenPart' with
    | none => rw [hturned rfl]; rfl
    | some part => rfl
  substitution := .stmt_cons id rfl (.gone _)
  eval he := .stmt_cons id rfl (shrinks_of_kept he)
  ret hvalue := .stmt_cons id rfl (shrinks_of_rel hvalue)
  guarded hpart hreplacement :=
    .stmt_cons id rfl ((shrinks_of_stmtPart hpart).append (shrinks_of_stmtPart hreplacement))
  emptyBlock _ _ _ := .gone _
  mkBlock hinitializer hleft hfinalizer _ :=
    .block_cons _ _ (((shrinks_of_stmtPart hinitializer).append (shrinks_of_left hleft)).append
      (shrinks_of_stmtPart hfinalizer))

end Folding

namespace Template

/-- A pass over the first template succeeds with the second. -/
def FoldsTo (t t' : Template) : Prop := t.fold.result = .ok t'

theorem FoldsTo.shrinks {t t' : Template} (h : t.FoldsTo t') :
    t'.census.total ≤ t.census.total + t.elseOnly ∧ t'.elseOnly = 0 := by
  obtain ⟨hbody, -⟩ := shrinks_cases.template h
  have hshrinks := shrinks_of_stmtPart hbody
  rw [total_census, total_census, elseOnly_eq, elseOnly_eq]
  exact ⟨hshrinks.size_le, hshrinks.elseOnly_eq⟩

/-- A template without conditionals that have only a second part never grows again. -/
theorem total_le_of_passes {t t' : Template} (ht : t.elseOnly = 0) (h : Relation.ReflTransGen FoldsTo t t') :
    t'.census.total ≤ t.census.total ∧ t'.elseOnly = 0 := by
  induction h with
  | refl => exact ⟨Nat.le_refl _, ht⟩
  | tail _ hpass ih =>
    obtain ⟨hle, hnone⟩ := ih
    obtain ⟨hgrowth, hnone'⟩ := hpass.shrinks
    rw [hnone, Nat.add_zero] at hgrowth
    exact ⟨Nat.le_trans hgrowth hle, hnone'⟩

/-- A pass adds at most one node for each conditional that has a second part but no first one, and leaves no
    such conditional; it uses no more rules than the template has nodes. After any number of further passes the
    template is no larger than after the first one, and the number of nodes that they removed is exact. -/
theorem total_census_fold_le {t t' : Template} (h : t.fold.result = .ok t') :
    t'.census.total ≤ t.census.total + t.elseOnly ∧ t.fold.events.length ≤ t.census.total ∧ t'.elseOnly = 0 ∧
      ∀ t'', Relation.ReflTransGen FoldsTo t' t'' →
        t''.census.total ≤ t'.census.total ∧
          t'.census.removed t''.census + t''.census.total = t'.census.total := by
  obtain ⟨hgrowth, hnone⟩ := FoldsTo.shrinks h
  refine ⟨hgrowth, t.atMost_fold, hnone, fun t'' hpasses => ?_⟩
  have hle := (total_le_of_passes hnone hpasses).1
  exact ⟨hle, Nat.sub_add_cancel hle⟩

/-- A conditional without a first part: the one kind of statement that grows. -/
def unlessReady : Template :=
  let span : Span := ⟨1, 0, 8⟩
  let ready : Variable := .ofTy span "ready" .boolean
  { span, name := ⟨span, "t"⟩, params := [ready], takesSubstitution := true, returnTy := none,
    body := some (.cond span (.varRef ⟨span, .ofTy .boolean, false⟩ ⟨⟨span, "ready"⟩, some ready⟩) none
      (some (.wrap (.substitution span))) none) }

theorem unlessReady_total_census_fold_le :
    unlessReady.census.total = 4 ∧ unlessReady.elseOnly = 1 ∧
      ∃ t', unlessReady.fold.result = .ok t' ∧ t'.census.total = 5 ∧
        t'.census.total ≤ unlessReady.census.total + unlessReady.elseOnly ∧
        unlessReady.fold.events.length ≤ unlessReady.census.total ∧ t'.elseOnly = 0 ∧
        ∃ t'', t'.FoldsTo t'' ∧ t''.census.total ≤ t'.census.total ∧
          t'.census.removed t''.census + t''.census.total = t'.census.total := by
  obtain ⟨hgrowth, hrules, hnone, hlater⟩ := total_census_fold_le (t := unlessReady) rfl
  exact ⟨rfl, rfl, _, rfl, rfl, hgrowth, hrules, hnone, _, rfl, hlater _ (.single rfl)⟩

end Template

end TemplateTree
