import TemplateTree.Expr.Build
import TemplateTree.Expr.Coerce
import TemplateTree.Folding.Rule
import TemplateTree.Number.Arithmetic
import TemplateTree.Text.Units

namespace TemplateTree

namespace Expr

/-- The negation of a truth value, with a boolean on both sides of the operator. -/
def negated (span : Span) (e : Expr) : Except TreeError Expr := do
  let operand ← (e.convertTo .boolean true).toExcept
  ((mkUnary span .not operand).convertTo .boolean true).toExcept

/-- A value of boolean type that is not null. -/
def isSureBoolean (e : Expr) : Bool := e.ty?.any fun ty => ty.isNonNull && ty.isBoolean

/-- A literal or a variable whose type excludes null. It can be dropped: evaluating it does nothing.
    -/
def isPureNonNull (e : Expr) : Bool :=
  e.ty?.any Ty.isNonNull && match e with
    | literal .. | varRef .. => true
    | _ => false

end Expr

namespace Folding

/-- A rule and what it puts in the place of a node. -/
abbrev Outcome := Rule × Except TreeError Expr

/-- A rule that cannot fail. -/
def put (rule : Rule) (e : Expr) : Option Outcome := some (rule, .ok e)

/-- A negated number is a number, and two negations cancel. -/
def negate? (span : Span) (operand : Expr) : Option Outcome :=
  match operand.knownNumber?, operand with
  | some n, _ => put .negateConstant (.ofNumber span n.negated)
  | none, .unary _ .negate inner => put .doubleNegate inner
  | none, _ => none

/-- The complement of a known truth value is known, and two complements cancel. -/
def not? (span : Span) (operand : Expr) : Option Outcome :=
  match operand.knownBoolean?, operand with
  | some value, _ => put .notConstant (.ofBool span !value)
  | none, .unary _ .not inner => put .doubleNot inner
  | none, _ => none

/-- Two known strings are joined, and an empty string is left out. -/
def concatenate? (span : Span) (left right : Expr) : Option Outcome :=
  match left.knownString?, right.knownString? with
  | some l, some r => put .concatenateConstants (.ofString span (l ++ r))
  | some l, none => if l.isEmpty then put .concatenateEmptyLeft right else none
  | none, some r => if r.isEmpty then put .concatenateEmptyRight left else none
  | none, none => none

/-- The type of both operands, when they have the same. -/
def commonTy? (left right : Expr) : Option Ty := left.ty?.filter fun ty => right.ty? = some ty

/-- Two known numbers of one type are combined in that type, if the node itself has a type. What has
    no value is left for the run to raise. -/
def arithmetic? (head : Head) (operator : TokenKind) (left right : Expr) : Option Outcome :=
  match head.chain.ty?, left.knownNumber?, right.knownNumber?, commonTy? left right with
  | some _, some l, some r, some ty =>
    match Number.arithmetic? operator ty l r with
    | some n => put .arithmeticConstants (.ofNumber head.span n)
    | none => none
  | _, _, _, _ => none

/-- A known left operand decides a conjunction or leaves the right one; a right operand that is
    known to be true is left out. A right operand that is known to be false is not: the left one may
    still have an effect. -/
def and? (span : Span) (left right : Expr) : Option Outcome :=
  match left.knownBoolean?, right.knownBoolean? with
  | some true, _ => put .andTrueLeft right
  | some false, _ => put .andFalseLeft (.ofBool span false)
  | none, some true => put .andTrueRight left
  | none, _ => none

/-- A known left operand decides a disjunction or leaves the right one; a right operand that is
    known to be false is left out. A right operand that is known to be true is not: the left one may
    still have an effect. -/
def or? (span : Span) (left right : Expr) : Option Outcome :=
  match left.knownBoolean?, right.knownBoolean? with
  | some true, _ => put .orTrueLeft (.ofBool span true)
  | some false, _ => put .orFalseLeft right
  | none, some false => put .orFalseRight left
  | none, _ => none

/-- The rule for a binary operator. -/
def binary? (head : Head) (op : BinaryOp) (token : Token) (left right : Expr) : Option Outcome :=
  match op with
  | .concatenate => concatenate? head.span left right
  | .arithmetic => arithmetic? head token.kind left right
  | .and => and? head.span left right
  | .or => or? head.span left right

/-- The rule for a unary operator. -/
def unary? (head : Head) (op : UnaryOp) (operand : Expr) : Option Outcome :=
  match op with
  | .negate => negate? head.span operand
  | .not => not? head.span operand

/-- The answer of a comparison of two known values: numbers of one type, or strings by their UTF-16
    units. -/
def answer? (operator : TokenKind) (left right : Expr) : Option Bool :=
  match left.known?, right.known? with
  | some (.number l), some (.number r) => (commonTy? left right).bind fun ty => Number.compare? operator ty l r
  | some (.string l), some (.string r) => operator.ordered? (Text.compareUnits (Text.units l) (Text.units r))
  | _, _ => none

/-- Known values are compared, if the node itself has a type. -/
def compareConstants? (head : Head) (operator : TokenKind) (left right : Expr) : Option Outcome :=
  match head.chain.ty?, answer? operator left right with
  | some _, some answer => put .compareConstants (.ofBool head.span answer)
  | _, _ => none

/-- The comparison of a truth value with a known one: `true == e` and `false != e` are `e`, and the
    other two its negation. -/
def keepOrNegate (known : Bool) (operator : TokenKind) (span : Span) (e : Expr) : Except TreeError Expr :=
  if known == (operator == .eq) then .ok e else e.negated span

/-- Two booleans that are not null are equal or not; one of them known leaves the other or its
    negation. -/
def compareBooleans? (span : Span) (operator : TokenKind) (left right : Expr) : Option Outcome :=
  if left.isSureBoolean && right.isSureBoolean && operator.isEquality then
    match left.knownBoolean?, right.knownBoolean? with
    | some l, some r => put .compareBooleans (.ofBool span ((l == r) == (operator == .eq)))
    | some known, none => some (.compareBooleanLeft, keepOrNegate known operator span right)
    | none, some known => some (.compareBooleanRight, keepOrNegate known operator span left)
    | none, none => none
  else none

/-- Null equals null, and differs from a literal or variable whose type excludes it. -/
def compareNulls? (span : Span) (operator : TokenKind) (left right : Expr) : Option Outcome :=
  if !operator.isEquality then none
  else if left.isKnownNull && right.isKnownNull then put .compareNulls (.ofBool span (operator = .eq))
  else if (left.isKnownNull && right.isPureNonNull) || (right.isKnownNull && left.isPureNonNull) then
    put .compareNullWithNonNull (.ofBool span (operator = .ne))
  else none

/-- The rule for a comparison of two values. -/
def compare? (head : Head) (token : Token) (left right : Expr) : Option Outcome :=
  (compareConstants? head token.kind left right).or
    ((compareBooleans? head.span token.kind left right).or (compareNulls? head.span token.kind left right))

/-- The rule for a class test: a value of a class that is no wider than the tested one passes. The
    tested type and the type of the operand must be there. -/
def isa? (head : Head) (operand : Expr) (tested : TypeName) : Except TreeError (Option Outcome) :=
  match tested.ty?, operand.ty? with
  | none, _ => .error (.malformed .unresolvedTypeName tested.span)
  | some _, none => .error (.malformed .untypedOperand operand.span)
  | some testedTy, some ty => .ok (if testedTy.accepts ty then put .isaWidening (.ofBool head.span true) else none)

/-- Logs the rule of an outcome and puts its expression in place, or keeps the node when no rule
    applies. -/
def orKeep (span : Span) (outcome : Option Outcome) (node : Expr) : Folding Expr :=
  match outcome with
  | none => pure node
  | some (rule, result) => do
    applied rule span
    .ofExcept result

end Folding

end TemplateTree
