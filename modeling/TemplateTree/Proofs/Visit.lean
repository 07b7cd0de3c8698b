import TemplateTree.Nodes
import TemplateTree.Proofs.Tree.Induction
import TemplateTree.Visit

namespace TemplateTree.Visitor

variable {σ : Type} {r : Visitor σ} {step : σ → Node → σ}

/-- The visitor takes a step at each node and then walks on. -/
structure Meets (r : Visitor σ) (step : σ → Node → σ) : Prop where
  template (t : Template) (walk : σ → σ) (state : σ) : r.template t walk state = walk (step state (.template t))
  name (n : Name) (state : σ) : r.name n state = step state (.name n)
  typeName (n : TypeName) (state : σ) : r.typeName n state = step state (.typeName n)
  var (v : Variable) (walk : σ → σ) (state : σ) : r.var v walk state = walk (step state (.var v))
  varRef (ref : VarRef) (walk : σ → σ) (state : σ) (hunbound : ref.bound? = none → walk = id) :
    r.varRef ref walk state = walk (step state (.varRef ref))
  exprList (span : Span) (es : List Expr) (walk : σ → σ) (state : σ) :
    r.exprList span es walk state = walk (step state (.exprList span es))
  stmt (s : Stmt) (walk : σ → σ) (state : σ) : r.meetStmt s walk state = walk (step state (.stmt s))
  block (b : Block) (walk : σ → σ) (state : σ) : r.block b walk state = walk (step state (.block b))
  expr (e : Expr) (walk : σ → σ) (state : σ) : r.meetExpr e walk state = walk (step state (.expr e))

namespace Meets

theorem visitVar (h : r.Meets step) (v : Variable) (state : σ) : r.visitVar v state = v.nodes.foldl step state := by
  rw [Visitor.visitVar, h.var, h.typeName]
  rfl

theorem visitVars (h : r.Meets step) (vs : List Variable) (state : σ) :
    r.visitVars vs state = (vs.flatMap Variable.nodes).foldl step state := by
  induction vs generalizing state with
  | nil => rfl
  | cons v rest ih =>
    calc r.visitVars (v :: rest) state = r.visitVars rest (r.visitVar v state) := rfl
      _ = (rest.flatMap Variable.nodes).foldl step (v.nodes.foldl step state) := by rw [h.visitVar, ih]
      _ = ((v :: rest).flatMap Variable.nodes).foldl step state := by rw [List.flatMap_cons, List.foldl_append]

theorem visitVarRef (h : r.Meets step) (ref : VarRef) (state : σ) :
    r.visitVarRef ref state = ref.nodes.foldl step state := by
  rw [Visitor.visitVarRef, h.varRef _ _ _ fun hunbound => by rw [hunbound], VarRef.nodes]
  cases ref.bound? with
  | none => rfl
  | some v => exact h.visitVar v _

theorem visitExprs {es : List Expr} (hes : ∀ e ∈ es, ∀ state, r.visitExpr e state = e.nodes.foldl step state)
    (state : σ) : r.visitExprs es state = (exprNodes es).foldl step state := by
  induction es generalizing state with
  | nil => rfl
  | cons e rest ih =>
    obtain ⟨he, hrest⟩ := List.forall_mem_cons.1 hes
    rw [exprNodes, List.foldl_append, ← he, ← ih hrest]
    rfl

theorem visitStmts {ss : List Stmt} (hss : ∀ s ∈ ss, ∀ state, r.visitStmt s state = s.nodes.foldl step state)
    (state : σ) : r.visitStmts ss state = (stmtNodes ss).foldl step state := by
  induction ss generalizing state with
  | nil => rfl
  | cons s rest ih =>
    obtain ⟨hs, hrest⟩ := List.forall_mem_cons.1 hss
    rw [stmtNodes, List.foldl_append, ← hs, ← ih hrest]
    rfl

theorem visitOptionalExpr {e? : Option Expr}
    (he : ∀ e, e? = some e → ∀ state, r.visitExpr e state = e.nodes.foldl step state) (state : σ) :
    r.visitOptionalExpr e? state = (optionalExprNodes e?).foldl step state := by
  cases e? with
  | none => rfl
  | some e => exact he e rfl state

theorem visitOptionalStmt {s? : Option Stmt}
    (hs : ∀ s, s? = some s → ∀ state, r.visitStmt s state = s.nodes.foldl step state) (state : σ) :
    r.visitOptionalStmt s? state = (optionalStmtNodes s?).foldl step state := by
  cases s? with
  | none => rfl
  | some s => exact hs s rfl state

theorem visitOptionalBlock {b? : Option Block}
    (hb : ∀ b, b? = some b → ∀ state, r.visitBlock b state = b.nodes.foldl step state) (state : σ) :
    r.visitOptionalBlock b? state = (optionalBlockNodes b?).foldl step state := by
  cases b? with
  | none => rfl
  | some b => exact hb b rfl state

/-- A walk takes its steps in the order of the nodes. -/
theorem cases (h : r.Meets step) :
    Tree.Cases (fun e => ∀ state, r.visitExpr e state = e.nodes.foldl step state)
      (fun s => ∀ state, r.visitStmt s state = s.nodes.foldl step state)
      (fun b => ∀ state, r.visitBlock b state = b.nodes.foldl step state) where
  paren hinner state := by
    rw [Visitor.visitExpr, h.expr, hinner, Expr.nodes, List.foldl_cons]
  array helements state := by
    rw [Visitor.visitExpr, h.expr, h.exprList, visitExprs helements, Expr.nodes, List.foldl_cons, List.foldl_cons]
  call harguments hinitializer hsubstitution state := by
    rw [Visitor.visitExpr, h.expr, h.exprList, visitExprs harguments, visitOptionalStmt hinitializer,
      visitOptionalBlock hsubstitution, Expr.nodes]
    simp only [List.foldl_cons, List.foldl_append]
  varRef state := by
    rw [Visitor.visitExpr, h.expr, h.visitVarRef, Expr.nodes, List.foldl_cons]
  property hobject state := by
    rw [Visitor.visitExpr, h.expr, hobject, Expr.nodes, List.foldl_cons]
  index hobject hposition state := by
    rw [Visitor.visitExpr, h.expr, hobject, hposition, Expr.nodes, List.foldl_cons, List.foldl_append]
  unary hoperand state := by
    rw [Visitor.visitExpr, h.expr, hoperand, Expr.nodes, List.foldl_cons]
  binary hleft hright state := by
    rw [Visitor.visitExpr, h.expr, hleft, hright, Expr.nodes, List.foldl_cons, List.foldl_append]
  compare hleft hright state := by
    rw [Visitor.visitExpr, h.expr, hleft, hright, Expr.nodes, List.foldl_cons, List.foldl_append]
  isa hoperand state := by
    rw [Visitor.visitExpr, h.expr, hoperand, h.typeName, Expr.nodes, List.foldl_cons, List.foldl_append]
    rfl
  literal state := by
    rw [Visitor.visitExpr, h.expr, Expr.nodes]
    rfl
  empty state := by
    rw [Visitor.visitStmt, h.stmt, Stmt.nodes]
    rfl
  list hstatements state := by
    rw [Visitor.visitStmt, h.stmt, visitStmts hstatements, Stmt.nodes, List.foldl_cons]
  block hb state := by
    rw [Visitor.visitStmt, h.stmt, hb, Stmt.nodes, List.foldl_cons]
  assign hvalue state := by
    rw [Visitor.visitStmt, h.stmt, h.visitVarRef, hvalue, Stmt.nodes, List.foldl_cons, List.foldl_append]
  breakLoop state := by
    rw [Visitor.visitStmt, h.stmt, Stmt.nodes]
    rfl
  forEach hrange hrangeEnd hinitializer hbody state := by
    rw [Visitor.visitStmt, h.stmt, h.visitVarRef, hrange, visitOptionalExpr hrangeEnd, visitOptionalStmt hinitializer,
      visitOptionalBlock hbody, Stmt.nodes]
    simp only [List.foldl_cons, List.foldl_append]
  cond hcondition hthenPart helsePart state := by
    rw [Visitor.visitStmt, h.stmt, hcondition, visitOptionalBlock hthenPart, visitOptionalBlock helsePart, Stmt.nodes]
    simp only [List.foldl_cons, List.foldl_append]
  substitution state := by
    rw [Visitor.visitStmt, h.stmt, Stmt.nodes]
    rfl
  eval he state := by
    rw [Visitor.visitStmt, h.stmt, he, Stmt.nodes, List.foldl_cons]
  ret hvalue state := by
    rw [Visitor.visitStmt, h.stmt, visitOptionalExpr hvalue, Stmt.nodes, List.foldl_cons]
  guarded hpart hreplacement state := by
    rw [Visitor.visitStmt, h.stmt, visitOptionalStmt hpart, visitOptionalStmt hreplacement, Stmt.nodes, List.foldl_cons,
      List.foldl_append]
  parts hstatements hinitializer hfinalizer state := by
    rw [Visitor.visitBlock, h.block, visitOptionalStmt hinitializer, visitStmts hstatements,
      visitOptionalStmt hfinalizer, Block.nodes]
    simp only [List.foldl_cons, List.foldl_append]

/-- Every node is met once, in the order of the nodes. -/
theorem visit_eq_foldl (h : r.Meets step) (t : Template) (state : σ) : r.visit t state = t.nodes.foldl step state := by
  rw [visit, h.template, h.name, h.visitVars, visitOptionalStmt fun s _ => h.cases.stmt s, Template.nodes]
  simp only [List.foldl_cons, List.foldl_append]

end Meets

end TemplateTree.Visitor
