import TemplateTree.Tree

namespace TemplateTree

/-- What is met on a walk through a template. -/
inductive Node where
  | template (t : Template)
  | name (n : Name)
  | typeName (n : TypeName)
  | var (v : Variable)
  | varRef (r : VarRef)
  | exprList (span : Span) (expressions : List Expr)
  | stmt (s : Stmt)
  | block (b : Block)
  | expr (e : Expr)

namespace Variable

def nodes (v : Variable) : List Node := [.var v, .typeName v.typeName]

end Variable

namespace VarRef

/-- A reference and the variable that it is bound to. -/
def nodes (ref : VarRef) : List Node :=
  .varRef ref :: match ref.bound? with
    | none => []
    | some v => v.nodes

end VarRef

mutual

/-- An expression and all that is in it. -/
def Expr.nodes : Expr → List Node
  | .paren head inner => .expr (.paren head inner) :: inner.nodes
  | .array head listSpan elements associative =>
    .expr (.array head listSpan elements associative) :: .exprList listSpan elements :: exprNodes elements
  | .call head kind callee listSpan arguments initializer substitution =>
    .expr (.call head kind callee listSpan arguments initializer substitution) ::
      .exprList listSpan arguments ::
        (exprNodes arguments ++ optionalStmtNodes initializer ++ optionalBlockNodes substitution)
  | .varRef head ref => .expr (.varRef head ref) :: ref.nodes
  | .property head object dot name reader? => .expr (.property head object dot name reader?) :: object.nodes
  | .index head object bracket position reader? =>
    .expr (.index head object bracket position reader?) :: (object.nodes ++ position.nodes)
  | .unary head op operand => .expr (.unary head op operand) :: operand.nodes
  | .binary head op token left right => .expr (.binary head op token left right) :: (left.nodes ++ right.nodes)
  | .compare head token left right => .expr (.compare head token left right) :: (left.nodes ++ right.nodes)
  | .isa head token operand tested => .expr (.isa head token operand tested) :: (operand.nodes ++ [.typeName tested])
  | .literal head value => [.expr (.literal head value)]

/-- The expressions of a list one after another. -/
def exprNodes : List Expr → List Node
  | [] => []
  | e :: rest => e.nodes ++ exprNodes rest

def optionalExprNodes : Option Expr → List Node
  | none => []
  | some e => e.nodes

/-- A statement and all that is in it. -/
def Stmt.nodes : Stmt → List Node
  | .empty span => [.stmt (.empty span)]
  | .list span statements => .stmt (.list span statements) :: stmtNodes statements
  | .block b => .stmt (.block b) :: b.nodes
  | .assign span target value => .stmt (.assign span target value) :: (target.nodes ++ value.nodes)
  | .breakLoop span => [.stmt (.breakLoop span)]
  | .forEach span loopVar range rangeEnd reverse initializer body =>
    .stmt (.forEach span loopVar range rangeEnd reverse initializer body) ::
      (loopVar.nodes ++ range.nodes ++ optionalExprNodes rangeEnd ++ optionalStmtNodes initializer ++
        optionalBlockNodes body)
  | .cond span condition thenPart elsePart merged =>
    .stmt (.cond span condition thenPart elsePart merged) ::
      (condition.nodes ++ optionalBlockNodes thenPart ++ optionalBlockNodes elsePart)
  | .substitution span => [.stmt (.substitution span)]
  | .eval span e => .stmt (.eval span e) :: e.nodes
  | .ret span value => .stmt (.ret span value) :: optionalExprNodes value
  | .guarded span guarded replacement =>
    .stmt (.guarded span guarded replacement) :: (optionalStmtNodes guarded ++ optionalStmtNodes replacement)

/-- The statements of a list one after another. -/
def stmtNodes : List Stmt → List Node
  | [] => []
  | s :: rest => s.nodes ++ stmtNodes rest

def optionalStmtNodes : Option Stmt → List Node
  | none => []
  | some s => s.nodes

/-- A block: its initializer, its statements, its finalizer. -/
def Block.nodes : Block → List Node
  | ⟨span, statements, initializer, finalizer⟩ =>
    .block ⟨span, statements, initializer, finalizer⟩ ::
      (optionalStmtNodes initializer ++ stmtNodes statements ++ optionalStmtNodes finalizer)

def optionalBlockNodes : Option Block → List Node
  | none => []
  | some b => b.nodes

end

/-- A template: its name, its parameters, its body. -/
def Template.nodes (t : Template) : List Node :=
  .template t :: .name t.name :: (t.params.flatMap Variable.nodes ++ optionalStmtNodes t.body)

end TemplateTree
