import TemplateTree.Tree

namespace TemplateTree

/-- What is done at the nodes of a template on a walk through it, which carries a state along. Each
    function for a node with parts receives the walk through these parts last. By default nothing is
    done but to walk on. -/
structure Visitor (σ : Type) where
  template : Template → (σ → σ) → σ → σ := fun _ walk => walk
  name : Name → σ → σ := fun _ => id
  typeName : TypeName → σ → σ := fun _ => id
  var : Variable → (σ → σ) → σ → σ := fun _ walk => walk
  varRef : VarRef → (σ → σ) → σ → σ := fun _ walk => walk
  /-- A list of arguments or elements has a span of its own. -/
  exprList : Span → List Expr → (σ → σ) → σ → σ := fun _ _ walk => walk
  stmt : Stmt → (σ → σ) → σ → σ := fun _ walk => walk
  /-- A statement other than a block, once more, by its kind. -/
  stmtKind : Stmt → (σ → σ) → σ → σ := fun _ walk => walk
  block : Block → (σ → σ) → σ → σ := fun _ walk => walk
  expr : Expr → (σ → σ) → σ → σ := fun _ walk => walk
  /-- An expression other than a reference to a variable, once more, by its kind. -/
  exprKind : Expr → (σ → σ) → σ → σ := fun _ walk => walk

namespace Visitor

variable {σ : Type} (r : Visitor σ)

def visitVar (v : Variable) : σ → σ := r.var v (r.typeName v.typeName)

def visitVars : List Variable → σ → σ
  | [] => id
  | v :: rest => fun state => state |> r.visitVar v |> visitVars rest

/-- Visits a reference and the variable that it is bound to. -/
def visitVarRef (ref : VarRef) : σ → σ :=
  r.varRef ref <| match ref.bound? with
    | none => id
    | some v => r.visitVar v

/-- What is done at a statement, given the walk through its parts. -/
def meetStmt (s : Stmt) (walk : σ → σ) : σ → σ :=
  r.stmt s <| match s with
    | .block _ => walk
    | _ => r.stmtKind s walk

/-- What is done at an expression, given the walk through its parts. -/
def meetExpr (e : Expr) (walk : σ → σ) : σ → σ :=
  r.expr e <| match e with
    | .varRef .. => walk
    | _ => r.exprKind e walk

mutual

/-- Visits an expression and all that is in it. -/
def visitExpr : Expr → σ → σ
  | .paren head inner => r.meetExpr (.paren head inner) (visitExpr inner)
  | .array head listSpan elements associative =>
    r.meetExpr (.array head listSpan elements associative) (r.exprList listSpan elements (visitExprs elements))
  | .call head kind callee listSpan arguments initializer substitution =>
    r.meetExpr (.call head kind callee listSpan arguments initializer substitution) fun state =>
      state |> r.exprList listSpan arguments (visitExprs arguments) |> visitOptionalStmt initializer
        |> visitOptionalBlock substitution
  | .varRef head ref => r.meetExpr (.varRef head ref) (r.visitVarRef ref)
  | .property head object dot name reader? => r.meetExpr (.property head object dot name reader?) (visitExpr object)
  | .index head object bracket position reader? =>
    r.meetExpr (.index head object bracket position reader?) fun state =>
      state |> visitExpr object |> visitExpr position
  | .unary head op operand => r.meetExpr (.unary head op operand) (visitExpr operand)
  | .binary head op token left right => r.meetExpr (.binary head op token left right) fun state =>
    state |> visitExpr left |> visitExpr right
  | .compare head token left right => r.meetExpr (.compare head token left right) fun state =>
    state |> visitExpr left |> visitExpr right
  | .isa head token operand tested => r.meetExpr (.isa head token operand tested) fun state =>
    state |> visitExpr operand |> r.typeName tested
  | .literal head value => r.meetExpr (.literal head value) id

/-- Visits the expressions of a list in turn. -/
def visitExprs : List Expr → σ → σ
  | [] => id
  | e :: rest => fun state => state |> visitExpr e |> visitExprs rest

def visitOptionalExpr : Option Expr → σ → σ
  | none => id
  | some e => visitExpr e

/-- Visits a statement and all that is in it. -/
def visitStmt : Stmt → σ → σ
  | .empty span => r.meetStmt (.empty span) id
  | .list span statements => r.meetStmt (.list span statements) (visitStmts statements)
  | .block b => r.meetStmt (.block b) (visitBlock b)
  | .assign span target value => r.meetStmt (.assign span target value) fun state =>
    state |> r.visitVarRef target |> visitExpr value
  | .breakLoop span => r.meetStmt (.breakLoop span) id
  | .forEach span loopVar range rangeEnd reverse initializer body =>
    r.meetStmt (.forEach span loopVar range rangeEnd reverse initializer body) fun state =>
      state |> r.visitVarRef loopVar |> visitExpr range |> visitOptionalExpr rangeEnd
        |> visitOptionalStmt initializer |> visitOptionalBlock body
  | .cond span condition thenPart elsePart merged =>
    r.meetStmt (.cond span condition thenPart elsePart merged) fun state =>
      state |> visitExpr condition |> visitOptionalBlock thenPart |> visitOptionalBlock elsePart
  | .substitution span => r.meetStmt (.substitution span) id
  | .eval span e => r.meetStmt (.eval span e) (visitExpr e)
  | .ret span value => r.meetStmt (.ret span value) (visitOptionalExpr value)
  | .guarded span guarded replacement => r.meetStmt (.guarded span guarded replacement) fun state =>
    state |> visitOptionalStmt guarded |> visitOptionalStmt replacement

/-- Visits the statements of a list in turn. -/
def visitStmts : List Stmt → σ → σ
  | [] => id
  | s :: rest => fun state => state |> visitStmt s |> visitStmts rest

def visitOptionalStmt : Option Stmt → σ → σ
  | none => id
  | some s => visitStmt s

/-- Visits a block: its initializer, its statements, its finalizer. -/
def visitBlock : Block → σ → σ
  | ⟨span, statements, initializer, finalizer⟩ => r.block ⟨span, statements, initializer, finalizer⟩ fun state =>
    state |> visitOptionalStmt initializer |> visitStmts statements |> visitOptionalStmt finalizer

def visitOptionalBlock : Option Block → σ → σ
  | none => id
  | some b => visitBlock b

end

/-- Visits a template: its name, its parameters and its body. -/
def visit (t : Template) : σ → σ :=
  r.template t fun state => state |> r.name t.name |> r.visitVars t.params |> r.visitOptionalStmt t.body

end Visitor

end TemplateTree
