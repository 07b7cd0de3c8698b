import TemplateTree.Expr.Basic

namespace TemplateTree

/-- What becomes of parentheses and of lists of statements. By default both stay. -/
structure Tree.Edit where
  paren : Head → Expr → Expr := .paren
  list : Span → List Stmt → Stmt := .list
  /-- What stands in the place of parentheses is typed the way the expression inside is. -/
  chain_paren : ∀ head inner, (paren head inner).chain = inner.chain := by exact fun _ _ => rfl

mutual

/-- The expression with an edit made at every depth. -/
def Expr.edit (edit : Tree.Edit) : Expr → Expr
  | .paren head inner => edit.paren head (inner.edit edit)
  | .array head listSpan elements associative => .array head listSpan (editExprs edit elements) associative
  | .call head kind callee listSpan arguments initializer substitution =>
    .call head kind callee listSpan (editExprs edit arguments) (editOptionalStmt edit initializer)
      (editOptionalBlock edit substitution)
  | .varRef head ref => .varRef head ref
  | .property head object dot name reader? => .property head (object.edit edit) dot name reader?
  | .index head object bracket position reader? =>
    .index head (object.edit edit) bracket (position.edit edit) reader?
  | .unary head op operand => .unary head op (operand.edit edit)
  | .binary head op token left right => .binary head op token (left.edit edit) (right.edit edit)
  | .compare head token left right => .compare head token (left.edit edit) (right.edit edit)
  | .isa head token operand tested => .isa head token (operand.edit edit) tested
  | .literal head value => .literal head value

def editExprs (edit : Tree.Edit) : List Expr → List Expr
  | [] => []
  | e :: rest => e.edit edit :: editExprs edit rest

def editOptionalExpr (edit : Tree.Edit) : Option Expr → Option Expr
  | none => none
  | some e => some (e.edit edit)

/-- The statement with an edit made at every depth. -/
def Stmt.edit (edit : Tree.Edit) : Stmt → Stmt
  | .empty span => .empty span
  | .list span statements => edit.list span (editStmts edit statements)
  | .block b => .block (b.edit edit)
  | .assign span target value => .assign span target (value.edit edit)
  | .breakLoop span => .breakLoop span
  | .forEach span loopVar range rangeEnd reverse initializer body =>
    .forEach span loopVar (range.edit edit) (editOptionalExpr edit rangeEnd) reverse (editOptionalStmt edit initializer)
      (editOptionalBlock edit body)
  | .cond span condition thenPart elsePart merged =>
    .cond span (condition.edit edit) (editOptionalBlock edit thenPart) (editOptionalBlock edit elsePart) merged
  | .substitution span => .substitution span
  | .eval span e => .eval span (e.edit edit)
  | .ret span value => .ret span (editOptionalExpr edit value)
  | .guarded span guarded replacement =>
    .guarded span (editOptionalStmt edit guarded) (editOptionalStmt edit replacement)

def editStmts (edit : Tree.Edit) : List Stmt → List Stmt
  | [] => []
  | s :: rest => s.edit edit :: editStmts edit rest

def editOptionalStmt (edit : Tree.Edit) : Option Stmt → Option Stmt
  | none => none
  | some s => some (s.edit edit)

/-- The block with an edit made at every depth. -/
def Block.edit (edit : Tree.Edit) : Block → Block
  | ⟨span, statements, initializer, finalizer⟩ =>
    ⟨span, editStmts edit statements, editOptionalStmt edit initializer, editOptionalStmt edit finalizer⟩

def editOptionalBlock (edit : Tree.Edit) : Option Block → Option Block
  | none => none
  | some b => some (b.edit edit)

end

attribute [local simp] Expr.edit editExprs editOptionalExpr Stmt.edit editStmts editOptionalStmt Block.edit
  editOptionalBlock

/-- The template with an edit made at every depth of its body. -/
def Template.edit (edit : Tree.Edit) (t : Template) : Template := { t with body := editOptionalStmt edit t.body }

theorem Block.edit_span (edit : Tree.Edit) (b : Block) : (b.edit edit).span = b.span := by
  cases b
  rfl

namespace Expr

/-- An edit leaves every expression the chain that types it. -/
theorem chain_edit (edit : Tree.Edit) : ∀ e : Expr, (e.edit edit).chain = e.chain
  | .paren head inner => (edit.chain_paren head (inner.edit edit)).trans (chain_edit edit inner)
  | .array .. | .call .. | .varRef .. | .property .. | .index .. | .unary .. | .binary .. | .compare .. | .isa ..
  | .literal .. => rfl
termination_by structural e => e

theorem ty?_edit (edit : Tree.Edit) (e : Expr) : (e.edit edit).ty? = e.ty? := congrArg Chain.ty? (e.chain_edit edit)

end Expr

end TemplateTree
