import TemplateTree.Chain.Reduce
import TemplateTree.Tree
import TemplateTree.Ty.Assignable

namespace TemplateTree

/-- A number literal still denotes its number when it has this type: a numeric class, or one wide
    enough for all of them. -/
def Ty.holdsNumber (ty : Ty) : Bool := ty.isNumber || ty.accepts .number

namespace Expr

/-- The chain that types the expression. -/
def chain : Expr → Chain
  | paren _ inner => inner.chain
  | e => e.head.chain

/-- The type after all coercions. -/
def ty? (e : Expr) : Option Ty := e.chain.ty?

/-- The natural type. -/
def initialTy? (e : Expr) : Option Ty := e.chain.initialTy?

/-- The literal forms; a literal in parentheses is none. -/
def isLiteral : Expr → Bool
  | literal .. => true
  | _ => false

/-- The value of a literal, unless it is a number that was given a type without numbers. -/
def known? : Expr → Option Value
  | paren _ inner => inner.known?
  | literal head (.number n) => if head.chain.ty?.any Ty.holdsNumber then some (.number n) else none
  | literal _ value => some value
  | _ => none

def knownBoolean? (e : Expr) : Option Bool := e.known?.bind Value.boolean?

def knownString? (e : Expr) : Option String := e.known?.bind Value.string?

def knownNumber? (e : Expr) : Option Number := e.known?.bind Value.number?

def isKnownNull (e : Expr) : Bool := e.known?.any Value.isNull

/-- The expression may evaluate to null. -/
def isNullable (e : Expr) : Bool := e.ty?.any Ty.isNullable

mutual

/-- Evaluating the expression may throw: a coercion may fail, an operand may throw or turn out to be
    null, or code of which nothing is known runs. -/
def mayThrow : Expr → Bool
  | paren head inner => head.mayThrow || inner.mayThrow
  | array _ _ elements _ => anyMayThrow elements
  | call .. => true
  | varRef head _ => head.mayThrow
  | property head object _ _ reader? => head.mayThrow || (object.mayThrow || object.isNullable) || reader?.isSome
  | index .. => true
  | unary head _ operand => head.mayThrow || (operand.mayThrow || operand.isNullable)
  | binary head _ _ left right =>
    head.mayThrow || (left.mayThrow || left.isNullable) || (right.mayThrow || right.isNullable)
  | compare head _ left right =>
    head.mayThrow || (left.mayThrow || left.isNullable) || (right.mayThrow || right.isNullable)
  | isa head _ operand _ => head.mayThrow || (operand.mayThrow || operand.isNullable)
  | literal head _ => head.mayThrow

/-- Evaluating one of the expressions may throw. -/
def anyMayThrow : List Expr → Bool
  | [] => false
  | e :: rest => e.mayThrow || anyMayThrow rest

end

mutual

/-- The expression is a known value, or an array literal of such elements. -/
def isConstant : Expr → Bool
  | array _ _ elements _ => allConstant elements
  | e => e.known?.isSome

/-- Every expression is constant. -/
def allConstant : List Expr → Bool
  | [] => true
  | e :: rest => e.isConstant && allConstant rest

end

end Expr

end TemplateTree
