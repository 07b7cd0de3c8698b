import TemplateTree.Proofs.Census
import TemplateTree.Proofs.Folding.Rewrite
import TemplateTree.Proofs.Tree.Induction

namespace TemplateTree

open TemplateTree.Folding TemplateTree.Node

namespace Logged

variable {ι α β : Type} {m n : Nat}

/-- The computation records no more than `n` events. -/
def AtMost (n : Nat) (x : Logged ι α) : Prop := x.events.length ≤ n

theorem atMost_pure (a : α) : (pure a : Logged ι α).AtMost 0 := Nat.le_refl 0

theorem atMost_ofExcept (result : Except TreeError α) : (ofExcept result : Logged ι α).AtMost 0 := Nat.le_refl 0

theorem AtMost.mono {x : Logged ι α} (h : x.AtMost m) (hle : m ≤ n) : x.AtMost n := Nat.le_trans h hle

theorem AtMost.bind {x : Logged ι α} {f : α → Logged ι β} (hx : x.AtMost m) (hf : ∀ a, (f a).AtMost n) :
    (x >>= f).AtMost (m + n) := by
  cases hresult : x.result with
  | error error =>
    rw [bind_of_error hresult]
    exact Nat.le_trans hx (Nat.le_add_right m n)
  | ok a =>
    rw [bind_of_ok hresult, AtMost, List.length_append]
    exact Nat.add_le_add hx (hf a)

theorem AtMost.keepingTy {e : Expr} {x : Logged ι Expr} (h : x.AtMost n) : (e.keepingTy x).AtMost n := by
  refine h.bind (n := 0) fun replacement => ?_
  split
  · exact atMost_pure _
  · exact atMost_ofExcept _

end Logged

namespace Folding

theorem atMost_applied (rule : Rule) (span : Span) : (applied rule span).AtMost 1 := Nat.le_refl 1

theorem atMost_orKeep (span : Span) (outcome : Option Outcome) (node : Expr) :
    (orKeep span outcome node).AtMost 1 := by
  cases outcome with
  | none => exact (Logged.atMost_pure node).mono (Nat.zero_le 1)
  | some outcome => exact (atMost_applied _ _).bind fun _ => Logged.atMost_ofExcept _

theorem atMost_foldList (span : Span) (statements : List Stmt) : (Stmt.foldList span statements).AtMost 1 := by
  rcases statements with _ | ⟨s, _ | ⟨s', rest⟩⟩
  · exact (atMost_applied _ _).bind fun _ => Logged.atMost_pure _
  · exact (atMost_applied _ _).bind fun _ => Logged.atMost_pure _
  · exact (Logged.atMost_pure _).mono (Nat.zero_le 1)

theorem atMost_foldEmpty (b : Block) : b.foldEmpty.AtMost 1 := by
  unfold Block.foldEmpty
  split
  · exact (atMost_applied _ _).bind fun _ => Logged.atMost_pure _
  · exact (Logged.atMost_pure _).mono (Nat.zero_le 1)

theorem atMost_foldCond (span : Span) (condition : Expr) (thenPart elsePart : Option Block)
    (merged : Option (List Variable)) : (Stmt.foldCond span condition thenPart elsePart merged).AtMost 1 := by
  unfold Stmt.foldCond
  split
  · exact (atMost_applied _ _).bind fun _ => (Logged.atMost_ofExcept _).bind fun _ => Logged.atMost_pure _
  · exact (Logged.atMost_pure _).mono (Nat.zero_le 1)

end Folding

/-- The pass uses no more rules on the expression than it has nodes. -/
def Expr.BoundsRules (e : Expr) : Prop := e.fold.AtMost (size e.nodes)

/-- The pass uses no more rules on the statement than it has nodes. -/
def Stmt.BoundsRules (s : Stmt) : Prop := s.fold.AtMost (size s.nodes)

/-- The pass uses no more rules on the block than it has nodes. -/
def Block.BoundsRules (b : Block) : Prop := b.fold.AtMost (size b.nodes)

namespace Folding

theorem atMost_foldExprs {es : List Expr} (h : ∀ e ∈ es, e.BoundsRules) :
    (foldExprs es).AtMost (size (exprNodes es)) := by
  induction es with
  | nil => exact Logged.atMost_pure []
  | cons e rest ih =>
    rw [List.forall_mem_cons] at h
    rw [foldExprs, exprNodes, size_append]
    exact h.1.keepingTy.bind fun _ => (ih h.2).bind fun _ => Logged.atMost_pure _

theorem atMost_foldOptionalExpr {e? : Option Expr} (h : ∀ e, e? = some e → e.BoundsRules) :
    (foldOptionalExpr e?).AtMost (size (optionalExprNodes e?)) := by
  cases e? with
  | none => exact Logged.atMost_pure none
  | some e => exact (h e rfl).keepingTy.bind fun _ => Logged.atMost_pure _

theorem atMost_foldStmts {ss : List Stmt} (h : ∀ s ∈ ss, s.BoundsRules) :
    (foldStmts ss).AtMost (size (stmtNodes ss)) := by
  induction ss with
  | nil => exact Logged.atMost_pure []
  | cons s rest ih =>
    rw [List.forall_mem_cons] at h
    rw [foldStmts, stmtNodes, size_append]
    exact h.1.bind fun _ => (ih h.2).bind fun _ => Logged.atMost_pure _

theorem atMost_foldOptionalStmt {s? : Option Stmt} (h : ∀ s, s? = some s → s.BoundsRules) :
    (foldOptionalStmt s?).AtMost (size (optionalStmtNodes s?)) := by
  cases s? with
  | none => exact Logged.atMost_pure none
  | some s => exact h s rfl

theorem atMost_foldPart {b? : Option Block} (h : ∀ b, b? = some b → b.BoundsRules) :
    (foldPart b?).AtMost (size (optionalBlockNodes b?)) := by
  cases b? with
  | none => exact Logged.atMost_pure none
  | some b => exact h b rfl

theorem atMost_foldOptionalBody {b? : Option Block} (h : ∀ b, b? = some b → b.BoundsRules) :
    (foldOptionalBody b?).AtMost (size (optionalBlockNodes b?)) := by
  cases b? with
  | none => exact Logged.atMost_pure none
  | some b => exact (h b rfl).bind fun _ => Logged.atMost_pure _

/-- At every node at most one rule is used, after those that are used on its parts. -/
theorem boundsRules_cases : Tree.Cases Expr.BoundsRules Stmt.BoundsRules Block.BoundsRules where
  paren hinner := by
    rw [Expr.BoundsRules, Expr.fold, Expr.nodes, size_expr_cons, Nat.add_comm]
    exact (atMost_applied _ _).bind fun _ => hinner
  array helements := by
    rw [Expr.BoundsRules, Expr.fold, Expr.nodes, size_expr_cons, size_exprList_cons]
    exact ((atMost_foldExprs helements).bind fun _ => Logged.atMost_pure _).mono (Nat.le_add_right _ 1)
  call harguments hinitializer hsubstitution := by
    rw [Expr.BoundsRules, Expr.fold, Expr.nodes, size_expr_cons, size_exprList_cons, size_append, size_append]
    exact ((atMost_foldExprs harguments).bind fun _ => (atMost_foldOptionalStmt hinitializer).bind fun _ =>
      (atMost_foldOptionalBody hsubstitution).bind fun _ => Logged.atMost_pure _).mono (by omega)
  varRef := Nat.zero_le _
  property hobject := by
    rw [Expr.BoundsRules, Expr.fold, Expr.nodes, size_expr_cons]
    exact (hobject.keepingTy.bind fun _ => Logged.atMost_pure _).mono (Nat.le_add_right _ 1)
  index hobject hposition := by
    rw [Expr.BoundsRules, Expr.fold, Expr.nodes, size_expr_cons, size_append]
    exact (hobject.keepingTy.bind fun _ => hposition.keepingTy.bind fun _ => Logged.atMost_pure _).mono (by omega)
  unary hoperand := by
    rw [Expr.BoundsRules, Expr.fold, Expr.nodes, size_expr_cons]
    exact hoperand.keepingTy.bind fun _ => atMost_orKeep _ _ _
  binary hleft hright := by
    rw [Expr.BoundsRules, Expr.fold, Expr.nodes, size_expr_cons, size_append, Nat.add_assoc]
    exact hleft.keepingTy.bind fun _ => hright.keepingTy.bind fun _ => atMost_orKeep _ _ _
  compare hleft hright := by
    rw [Expr.BoundsRules, Expr.fold, Expr.nodes, size_expr_cons, size_append, Nat.add_assoc]
    exact hleft.keepingTy.bind fun _ => hright.keepingTy.bind fun _ => atMost_orKeep _ _ _
  isa hoperand := by
    rw [Expr.BoundsRules, Expr.fold, Expr.nodes, size_expr_cons, size_append]
    refine (hoperand.keepingTy.bind fun _ => (Logged.atMost_ofExcept _).bind fun _ => atMost_orKeep _ _ _).mono ?_
    omega
  literal := Nat.zero_le _
  empty := Nat.le_refl 1
  list hstatements := by
    rw [Stmt.BoundsRules, Stmt.fold, Stmt.nodes, size_stmt_cons rfl]
    exact (atMost_foldStmts hstatements).bind fun _ => atMost_foldList _ _
  block hblock := hblock.bind fun _ => Logged.atMost_pure _
  assign hvalue := by
    rw [Stmt.BoundsRules, Stmt.fold, Stmt.nodes, size_stmt_cons rfl, size_append]
    exact (hvalue.keepingTy.bind fun _ => Logged.atMost_pure _).mono (by omega)
  breakLoop := Nat.zero_le _
  forEach hrange hrangeEnd hinitializer hbody := by
    rw [Stmt.BoundsRules, Stmt.fold, Stmt.nodes, size_stmt_cons rfl]
    simp only [size_append]
    refine (hrange.keepingTy.bind fun _ => (atMost_foldOptionalExpr hrangeEnd).bind fun _ =>
      (atMost_foldOptionalStmt hinitializer).bind fun _ =>
        (atMost_foldOptionalBody hbody).bind (n := 1) fun _ => ?_).mono ?_
    · split
      · exact (atMost_applied _ _).bind fun _ => Logged.atMost_pure _
      · exact (Logged.atMost_pure _).mono (Nat.zero_le 1)
    · omega
  cond {span condition thenPart elsePart merged} hcondition hthen helse := by
    have hfirst := atMost_foldPart hthen
    have hsecond := atMost_foldPart helse
    rw [Stmt.BoundsRules, Stmt.fold, Stmt.nodes, size_stmt_cons rfl, size_append, size_append, Nat.add_assoc,
      Nat.add_assoc]
    refine hcondition.keepingTy.bind fun condition' => ?_
    split
    · exact ((atMost_applied _ _).bind fun _ => hfirst.bind fun _ => Logged.atMost_pure _).mono (by omega)
    · exact ((atMost_applied _ _).bind fun _ => hsecond.bind fun _ => Logged.atMost_pure _).mono (by omega)
    · exact hfirst.bind fun _ => hsecond.bind fun _ => (atMost_foldCond _ _ _ _ _).bind fun _ => Logged.atMost_pure _
  substitution := Nat.zero_le _
  eval he := by
    rw [Stmt.BoundsRules, Stmt.fold, Stmt.nodes, size_stmt_cons rfl]
    exact (he.keepingTy.bind fun _ => Logged.atMost_pure _).mono (Nat.le_add_right _ 1)
  ret hvalue := by
    rw [Stmt.BoundsRules, Stmt.fold, Stmt.nodes, size_stmt_cons rfl]
    exact ((atMost_foldOptionalExpr hvalue).bind fun _ => Logged.atMost_pure _).mono (Nat.le_add_right _ 1)
  guarded hpart hreplacement := by
    rw [Stmt.BoundsRules, Stmt.fold, Stmt.nodes, size_stmt_cons rfl, size_append]
    exact ((atMost_foldOptionalStmt hpart).bind fun _ => (atMost_foldOptionalStmt hreplacement).bind fun _ =>
      Logged.atMost_pure _).mono (by omega)
  parts hstatements hinitializer hfinalizer := by
    rw [Block.BoundsRules, Block.fold, Block.nodes, size_block_cons, size_append, size_append]
    exact ((atMost_foldOptionalStmt hinitializer).bind fun _ => (atMost_foldStmts hstatements).bind fun _ =>
      (atMost_foldOptionalStmt hfinalizer).bind fun _ => atMost_foldEmpty _).mono (by omega)

end Folding

/-- A pass uses no more rules than the template has statements and expressions, also if it fails. -/
theorem Template.atMost_fold (t : Template) : t.fold.AtMost t.census.total := by
  rw [fold, total_census]
  exact (atMost_foldOptionalStmt (boundsRules_cases.optionalStmt t.body)).bind fun _ => Logged.atMost_pure _

end TemplateTree
