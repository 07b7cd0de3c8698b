import TemplateTree.Chain
import TemplateTree.Token
import TemplateTree.Tree.Name
import TemplateTree.Value

namespace TemplateTree

/-- What every expression carries: its span, how its natural type is coerced, and whether the
    coercion may fail at run time. -/
structure Head where
  span : Span
  chain : Chain
  mayThrow : Bool
deriving DecidableEq, Inhabited

/-- The head of an expression that has no type yet. -/
def Head.untyped (span : Span) : Head := ⟨span, .empty, false⟩

inductive CallKind where
  | function
  | template
deriving DecidableEq, Inhabited

/-- The called function or template, apart from its arguments. -/
structure Callee where
  target : Name
  voidPermitted : Bool
  method? : Option Method
deriving DecidableEq, Inhabited

inductive UnaryOp where
  | negate
  | not
deriving DecidableEq, Inhabited

inductive BinaryOp where
  | concatenate
  | arithmetic
  | and
  | or
deriving DecidableEq, Inhabited

mutual

/-- An expression. -/
inductive Expr where
  | paren (head : Head) (inner : Expr)
  /-- An array literal. The elements of an associative one are keys and values in turn. -/
  | array (head : Head) (listSpan : Span) (elements : List Expr) (associative : Bool)
  | call (head : Head) (kind : CallKind) (callee : Callee) (listSpan : Span) (arguments : List Expr)
      (initializer : Option Stmt) (substitution : Option Block)
  | varRef (head : Head) (ref : VarRef)
  | property (head : Head) (object : Expr) (dot : Token) (name : Name) (reader? : Option Method)
  | index (head : Head) (object : Expr) (bracket : Token) (position : Expr) (reader? : Option Method)
  | unary (head : Head) (op : UnaryOp) (operand : Expr)
  | binary (head : Head) (op : BinaryOp) (token : Token) (left right : Expr)
  | compare (head : Head) (token : Token) (left right : Expr)
  /-- A test of the class of a value. -/
  | isa (head : Head) (token : Token) (operand : Expr) (tested : TypeName)
  | literal (head : Head) (value : Value)

/-- A statement. -/
inductive Stmt where
  | empty (span : Span)
  | list (span : Span) (statements : List Stmt)
  | block (block : Block)
  | assign (span : Span) (target : VarRef) (value : Expr)
  | breakLoop (span : Span)
  /-- A loop over a collection or, with an end, over an integer range. -/
  | forEach (span : Span) (loopVar : VarRef) (range : Expr) (rangeEnd : Option Expr) (reverse : Bool)
      (initializer : Option Stmt) (body : Option Block)
  | cond (span : Span) (condition : Expr) (thenPart elsePart : Option Block) (merged : Option (List Variable))
  /-- The place where the block that a caller passes to a template goes. -/
  | substitution (span : Span)
  | eval (span : Span) (expr : Expr)
  | ret (span : Span) (value : Option Expr)
  /-- Runs the guarded statement and, if that throws, the replacement. -/
  | guarded (span : Span) (guarded replacement : Option Stmt)

/-- Statements with others that the type checker put before and after them. -/
structure Block where
  span : Span
  statements : List Stmt
  initializer : Option Stmt
  finalizer : Option Stmt

end

/-- A template: its parameters and the statement it runs. -/
structure Template where
  span : Span
  name : Name
  params : List Variable
  takesSubstitution : Bool
  body : Option Stmt
  returnTy : Option Ty

instance : Inhabited Expr := ⟨.literal default .null⟩
instance : Inhabited Stmt := ⟨.empty default⟩
instance : Inhabited Block := ⟨⟨default, [], none, none⟩⟩
instance : Inhabited Template := ⟨⟨default, default, [], false, none, none⟩⟩

namespace Expr

def head : Expr → Head
  | paren head _ => head
  | array head .. => head
  | call head .. => head
  | varRef head _ => head
  | property head .. => head
  | index head .. => head
  | unary head .. => head
  | binary head .. => head
  | compare head .. => head
  | isa head .. => head
  | literal head _ => head

/-- The same expression under another head. -/
def withHead (head : Head) : Expr → Expr
  | paren _ inner => paren head inner
  | array _ listSpan elements associative => array head listSpan elements associative
  | call _ kind callee listSpan arguments initializer substitution =>
    call head kind callee listSpan arguments initializer substitution
  | varRef _ ref => varRef head ref
  | property _ object dot name reader? => property head object dot name reader?
  | index _ object bracket position reader? => index head object bracket position reader?
  | unary _ op operand => unary head op operand
  | binary _ op token left right => binary head op token left right
  | compare _ token left right => compare head token left right
  | isa _ token operand tested => isa head token operand tested
  | literal _ value => literal head value

def span (e : Expr) : Span := e.head.span

end Expr

namespace Stmt

def span : Stmt → Span
  | empty span => span
  | list span _ => span
  | block b => b.span
  | assign span .. => span
  | breakLoop span => span
  | forEach span .. => span
  | cond span .. => span
  | substitution span => span
  | eval span _ => span
  | ret span _ => span
  | guarded span .. => span

end Stmt

namespace Block

/-- A block of nothing. -/
def empty (span : Span) : Block := ⟨span, [], none, none⟩

/-- A block that holds just one statement. -/
def wrap (s : Stmt) : Block := ⟨s.span, [s], none, none⟩

def isEmpty (b : Block) : Bool := b.statements.isEmpty && b.initializer.isNone && b.finalizer.isNone

end Block

end TemplateTree
