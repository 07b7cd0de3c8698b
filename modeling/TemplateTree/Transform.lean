import TemplateTree.Expr.Coerce
import TemplateTree.Logged

namespace TemplateTree

/-- What becomes of the nodes of a template. Each function for a node with parts receives the
    rebuilding of that node last. By default every node is rebuilt. -/
structure Transformer (ι : Type) where
  template : Template → Logged ι Template → Logged ι Template := fun _ rebuilt => rebuilt
  name : Name → Logged ι Name := pure
  typeName : TypeName → Logged ι TypeName := pure
  var : Variable → Logged ι Variable → Logged ι Variable := fun _ rebuilt => rebuilt
  varRef : VarRef → Logged ι VarRef → Logged ι VarRef := fun _ rebuilt => rebuilt
  /-- A list of arguments or elements has a span of its own. -/
  exprList : Span → List Expr → Logged ι (Span × List Expr) → Logged ι (Span × List Expr) := fun _ _ rebuilt => rebuilt
  stmt : Stmt → Logged ι (Option Stmt) → Logged ι (Option Stmt) := fun _ rebuilt => rebuilt
  block : Block → Logged ι Block → Logged ι (Option Stmt) := fun _ rebuilt => do return some (.block (← rebuilt))
  expr : Expr → Logged ι Expr → Logged ι Expr := fun _ rebuilt => rebuilt

/-- The replacement of an expression, coerced along the reduced chain of the expression when its
    type is another. -/
def Expr.keepingTy {ι : Type} (e : Expr) (transformed : Logged ι Expr) : Logged ι Expr := do
  let replacement ← transformed
  if replacement.ty? = e.ty? then return replacement
  else .ofExcept (replacement.replay e.chain.reduced.steps).toExcept

/-- What stands in the place of a block that must stay one: another statement is wrapped, and
    nothing becomes an empty block. -/
def Block.replacedBy (b : Block) : Option Stmt → Block
  | some (.block replacement) => replacement
  | some s => .wrap s
  | none => .empty b.span

namespace Transformer

variable {ι : Type} (r : Transformer ι)

/-- A variable is rebuilt as it is, after its type name was met. -/
def transformVar (v : Variable) : Logged ι Variable :=
  r.var v do
    let _ ← r.typeName v.typeName
    return v

def transformVars : List Variable → Logged ι (List Variable)
  | [] => pure []
  | v :: rest => do
    let v ← r.transformVar v
    return v :: (← transformVars rest)

def transformVarRef (ref : VarRef) : Logged ι VarRef :=
  r.varRef ref do
    match ref.bound? with
    | none => return ref
    | some v => return { ref with bound? := some (← r.transformVar v) }

mutual

/-- Transforms an expression without regard to its type. -/
def transformExpr : Expr → Logged ι Expr
  | .paren head inner => r.expr (.paren head inner) do
    return .paren head (← inner.keepingTy (transformExpr inner))
  | .array head listSpan elements associative => r.expr (.array head listSpan elements associative) do
    let list ← r.exprList listSpan elements do return (listSpan, ← transformExprs elements)
    return .array head list.1 list.2 associative
  | .call head kind callee listSpan arguments initializer substitution =>
    r.expr (.call head kind callee listSpan arguments initializer substitution) do
      let list ← r.exprList listSpan arguments do return (listSpan, ← transformExprs arguments)
      let initializer ← transformOptionalStmt initializer
      let substitution ← transformOptionalBody substitution
      return .call head kind callee list.1 list.2 initializer substitution
  | .varRef head ref => r.expr (.varRef head ref) do
    return .varRef head (← r.transformVarRef ref)
  | .property head object dot name reader? => r.expr (.property head object dot name reader?) do
    return .property head (← object.keepingTy (transformExpr object)) dot name reader?
  | .index head object bracket position reader? => r.expr (.index head object bracket position reader?) do
    let object ← object.keepingTy (transformExpr object)
    let position ← position.keepingTy (transformExpr position)
    return .index head object bracket position reader?
  | .unary head op operand => r.expr (.unary head op operand) do
    return .unary head op (← operand.keepingTy (transformExpr operand))
  | .binary head op token left right => r.expr (.binary head op token left right) do
    let left ← left.keepingTy (transformExpr left)
    let right ← right.keepingTy (transformExpr right)
    return .binary head op token left right
  | .compare head token left right => r.expr (.compare head token left right) do
    let left ← left.keepingTy (transformExpr left)
    let right ← right.keepingTy (transformExpr right)
    return .compare head token left right
  | .isa head token operand tested => r.expr (.isa head token operand tested) do
    let operand ← operand.keepingTy (transformExpr operand)
    return .isa head token operand (← r.typeName tested)
  | .literal head value => r.expr (.literal head value) do
    return .literal head value

/-- Transforms the expressions of a list in turn. -/
def transformExprs : List Expr → Logged ι (List Expr)
  | [] => pure []
  | e :: rest => do
    let e ← e.keepingTy (transformExpr e)
    return e :: (← transformExprs rest)

def transformOptionalExpr : Option Expr → Logged ι (Option Expr)
  | none => pure none
  | some e => do return some (← e.keepingTy (transformExpr e))

/-- Transforms a statement, which may go away. -/
def transformStmt : Stmt → Logged ι (Option Stmt)
  | .empty span => r.stmt (.empty span) do return some (.empty span)
  | .list span statements => r.stmt (.list span statements) do
    return some (.list span (← transformStmts statements))
  | .block b => r.stmt (.block b) (transformBlock b)
  | .assign span target value => r.stmt (.assign span target value) do
    let target ← r.transformVarRef target
    return some (.assign span target (← value.keepingTy (transformExpr value)))
  | .breakLoop span => r.stmt (.breakLoop span) do return some (.breakLoop span)
  | .forEach span loopVar range rangeEnd reverse initializer body =>
    r.stmt (.forEach span loopVar range rangeEnd reverse initializer body) do
      let loopVar ← r.transformVarRef loopVar
      let range ← range.keepingTy (transformExpr range)
      let rangeEnd ← transformOptionalExpr rangeEnd
      let initializer ← transformOptionalStmt initializer
      let body ← transformOptionalBody body
      return some (.forEach span loopVar range rangeEnd reverse initializer body)
  | .cond span condition thenPart elsePart merged => r.stmt (.cond span condition thenPart elsePart merged) do
    let condition ← condition.keepingTy (transformExpr condition)
    let thenPart ← transformOptionalBody thenPart
    let elsePart ← transformOptionalBody elsePart
    return some (.cond span condition thenPart elsePart merged)
  | .substitution span => r.stmt (.substitution span) do return some (.substitution span)
  | .eval span e => r.stmt (.eval span e) do
    return some (.eval span (← e.keepingTy (transformExpr e)))
  | .ret span value => r.stmt (.ret span value) do
    return some (.ret span (← transformOptionalExpr value))
  | .guarded span guarded replacement => r.stmt (.guarded span guarded replacement) do
    let guarded ← transformOptionalStmt guarded
    let replacement ← transformOptionalStmt replacement
    return some (.guarded span guarded replacement)

/-- Transforms the statements of a list in turn and leaves out those that go away. -/
def transformStmts : List Stmt → Logged ι (List Stmt)
  | [] => pure []
  | s :: rest => do
    let s? ← transformStmt s
    let rest ← transformStmts rest
    return match s? with
      | some s => s :: rest
      | none => rest

def transformOptionalStmt : Option Stmt → Logged ι (Option Stmt)
  | none => pure none
  | some s => transformStmt s

/-- Transforms a block, which may become any statement or go away. -/
def transformBlock : Block → Logged ι (Option Stmt)
  | ⟨span, statements, initializer, finalizer⟩ => r.block ⟨span, statements, initializer, finalizer⟩ do
    let initializer ← transformOptionalStmt initializer
    let statements ← transformStmts statements
    let finalizer ← transformOptionalStmt finalizer
    return ⟨span, statements, initializer, finalizer⟩

/-- Transforms a block that must stay one. -/
def transformOptionalBody : Option Block → Logged ι (Option Block)
  | none => pure none
  | some b => do return some (b.replacedBy (← transformBlock b))

end

/-- Transforms a template: its name, its parameters and its body. -/
def transform (t : Template) : Logged ι Template :=
  r.template t do
    let name ← r.name t.name
    let params ← r.transformVars t.params
    let body ← r.transformOptionalStmt t.body
    return { t with name, params, body }

end Transformer

end TemplateTree
