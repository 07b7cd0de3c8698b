import TemplateTree.Folding.Operator
import TemplateTree.Transform

namespace TemplateTree

namespace Stmt

/-- A loop over an integer range that is known to be empty keeps its loop variable and loses its
    body. -/
def isEmptyRange (range : Expr) (rangeEnd : Option Expr) : Bool :=
  match range.knownNumber?, rangeEnd.bind Expr.knownNumber? with
  | some first, some last => last.toInt32 < first.toInt32
  | _, _ => false

/-- The value of a condition that is known. It must have boolean type: a known truth value that is
    used as something else decides nothing. -/
def decided? (condition : Expr) : Option Bool :=
  if condition.ty?.any Ty.isBoolean then condition.knownBoolean? else none

/-- A list of statements is dropped when it is empty and replaced by a statement that stands alone;
    otherwise its span is that of its statements. -/
def foldList (span : Span) : List Stmt → Folding (Option Stmt)
  | [] => do
    applied .emptyList span
    return none
  | [s] => do
    applied .singleStatementList span
    return some s
  | statements =>
    let joined := Span.join (statements.map Stmt.span)
    return some (.list (if joined.isUnknown then span else joined) statements)

/-- A conditional without a first part but with a second one is turned around. -/
def foldCond (span : Span) (condition : Expr) (thenPart elsePart : Option Block) (merged : Option (List Variable)) :
    Folding Stmt :=
  match thenPart, elsePart with
  | none, some part => do
    applied .invertedIf span
    let condition ← .ofExcept (condition.negated condition.span)
    return .cond span condition (some part) none merged
  | _, _ => return .cond span condition thenPart elsePart merged

end Stmt

namespace Block

/-- A block of nothing is dropped. -/
def foldEmpty (b : Block) : Folding (Option Block) :=
  if b.isEmpty then do
    applied .emptyBlock b.span
    return none
  else return some b

end Block

mutual

/-- Folds an expression without regard to its type. -/
def Expr.fold : Expr → Folding Expr
  | .paren head inner => do
    applied .paren head.span
    inner.fold
  | .array head listSpan elements associative => do
    return .array head listSpan (← foldExprs elements) associative
  | .call head kind callee listSpan arguments initializer substitution => do
    let arguments ← foldExprs arguments
    let initializer ← foldOptionalStmt initializer
    let substitution ← foldOptionalBody substitution
    return .call head kind callee listSpan arguments initializer substitution
  | .varRef head ref => return .varRef head ref
  | .property head object dot name reader? => do
    return .property head (← object.keepingTy object.fold) dot name reader?
  | .index head object bracket position reader? => do
    let object ← object.keepingTy object.fold
    let position ← position.keepingTy position.fold
    return .index head object bracket position reader?
  | .unary head op operand => do
    let operand ← operand.keepingTy operand.fold
    Folding.orKeep head.span (Folding.unary? head op operand) (.unary head op operand)
  | .binary head op token left right => do
    let left ← left.keepingTy left.fold
    let right ← right.keepingTy right.fold
    Folding.orKeep head.span (Folding.binary? head op token left right) (.binary head op token left right)
  | .compare head token left right => do
    let left ← left.keepingTy left.fold
    let right ← right.keepingTy right.fold
    Folding.orKeep head.span (Folding.compare? head token left right) (.compare head token left right)
  | .isa head token operand tested => do
    let operand ← operand.keepingTy operand.fold
    let outcome ← .ofExcept (Folding.isa? head operand tested)
    Folding.orKeep head.span outcome (.isa head token operand tested)
  | .literal head value => return .literal head value

/-- Folds the expressions of a list in turn. -/
def foldExprs : List Expr → Folding (List Expr)
  | [] => pure []
  | e :: rest => do
    let e ← e.keepingTy e.fold
    return e :: (← foldExprs rest)

def foldOptionalExpr : Option Expr → Folding (Option Expr)
  | none => pure none
  | some e => do return some (← e.keepingTy e.fold)

/-- Folds a statement, which may go away. -/
def Stmt.fold : Stmt → Folding (Option Stmt)
  | .empty span => do
    applied .emptyStatement span
    return none
  | .list span statements => do
    Stmt.foldList span (← foldStmts statements)
  | .block b => do return (← b.fold).map .block
  | .assign span target value => do
    return some (.assign span target (← value.keepingTy value.fold))
  | .breakLoop span => return some (.breakLoop span)
  | .forEach span loopVar range rangeEnd reverse initializer body => do
    let range ← range.keepingTy range.fold
    let rangeEnd ← foldOptionalExpr rangeEnd
    let initializer ← foldOptionalStmt initializer
    let body ← foldOptionalBody body
    if Stmt.isEmptyRange range rangeEnd then
      applied .emptyRangeForeach span
      return some (.forEach span loopVar range rangeEnd reverse initializer none)
    else return some (.forEach span loopVar range rangeEnd reverse initializer body)
  | .cond span condition thenPart elsePart merged => do
    let condition ← condition.keepingTy condition.fold
    match Stmt.decided? condition with
    | some true => do
      applied .constantIf span
      return (← foldPart thenPart).map .block
    | some false => do
      applied .constantIf span
      return (← foldPart elsePart).map .block
    | none => do
      let thenPart ← foldPart thenPart
      let elsePart ← foldPart elsePart
      return some (← Stmt.foldCond span condition thenPart elsePart merged)
  | .substitution span => return some (.substitution span)
  | .eval span e => do return some (.eval span (← e.keepingTy e.fold))
  | .ret span value => do return some (.ret span (← foldOptionalExpr value))
  | .guarded span guarded replacement => do
    let guarded ← foldOptionalStmt guarded
    let replacement ← foldOptionalStmt replacement
    return some (.guarded span guarded replacement)

/-- Folds the statements of a list in turn and leaves out those that go away. -/
def foldStmts : List Stmt → Folding (List Stmt)
  | [] => pure []
  | s :: rest => do
    let s? ← s.fold
    let rest ← foldStmts rest
    return match s? with
      | some s => s :: rest
      | none => rest

def foldOptionalStmt : Option Stmt → Folding (Option Stmt)
  | none => pure none
  | some s => s.fold

/-- Folds a block, which goes away when nothing is left in it. -/
def Block.fold : Block → Folding (Option Block)
  | ⟨span, statements, initializer, finalizer⟩ => do
    let initializer ← foldOptionalStmt initializer
    let statements ← foldStmts statements
    let finalizer ← foldOptionalStmt finalizer
    Block.foldEmpty ⟨span, statements, initializer, finalizer⟩

/-- Folds the part of a conditional. -/
def foldPart : Option Block → Folding (Option Block)
  | none => pure none
  | some b => b.fold

/-- Folds the body of a loop or the block that is passed to a template, which stay blocks. -/
def foldOptionalBody : Option Block → Folding (Option Block)
  | none => pure none
  | some b => do return some ((← b.fold).getD (.empty b.span))

end

/-- Folds the body of a template. All else in it stays as it is. -/
def Template.fold (t : Template) : Folding Template := do
  return { t with body := ← foldOptionalStmt t.body }

end TemplateTree
