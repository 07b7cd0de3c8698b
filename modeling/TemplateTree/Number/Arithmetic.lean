import TemplateTree.Number
import TemplateTree.Token

namespace TemplateTree

namespace TokenKind

/-- The integer operation of a token in any width where `/` and `%` truncate toward zero. -/
def integer? {α : Type} [Add α] [Sub α] [Mul α] [Div α] [Mod α] [OfNat α 0] [DecidableEq α]
    (operator : TokenKind) (a b : α) : Option α :=
  match operator with
  | plus => some (a + b)
  | minus => some (a - b)
  | mult => some (a * b)
  | div => if b = 0 then none else some (a / b)
  | mod => if b = 0 then none else some (a % b)
  | _ => none

/-- The floating-point operation of a token, given the remainder of the width. -/
def real? {α : Type} [Add α] [Sub α] [Mul α] [Div α] (remainder : α → α → α) (operator : TokenKind) (a b : α) : Option α :=
  match operator with
  | plus => some (a + b)
  | minus => some (a - b)
  | mult => some (a * b)
  | div => some (a / b)
  | mod => some (remainder a b)
  | _ => none

/-- The answer of a comparison that depends only on how two values of a linear order are ordered. -/
def ordered? (operator : TokenKind) (ordering : Ordering) : Option Bool :=
  match operator with
  | eq => some (ordering = .eq)
  | ne => some (ordering ≠ .eq)
  | lt => some (ordering = .lt)
  | gt => some (ordering = .gt)
  | le => some (ordering ≠ .gt)
  | ge => some (ordering ≠ .lt)
  | _ => none

/-- The answer of a comparison of floating-point numbers. Nothing but `!=` holds of a value that is
    not a number. -/
def compareReal? {α : Type} [BEq α] [LT α] [LE α] [DecidableLT α] [DecidableLE α]
    (operator : TokenKind) (a b : α) : Option Bool :=
  match operator with
  | eq => some (a == b)
  | ne => some (a != b)
  | lt => some (decide (a < b))
  | gt => some (decide (b < a))
  | le => some (decide (a ≤ b))
  | ge => some (decide (b ≤ a))
  | _ => none

end TokenKind

namespace Number

def singleRemainder (a b : Float32) : Float32 := singleOfDatum ((singleDatum a).remainder (singleDatum b))

def doubleRemainder (a b : Float) : Float := doubleOfDatum ((doubleDatum a).remainder (doubleDatum b))

/-- The value of `left operator right` in the width that `ty` names. There is none when the type
    names no width, when the token is no arithmetic operator, and when an integer divisor is zero.
    -/
def arithmetic? (operator : TokenKind) (ty : Ty) (left right : Number) : Option Number :=
  match ty.kind with
  | .int => (operator.integer? left.toInt32 right.toInt32).map int
  | .long => (operator.integer? left.toInt64 right.toInt64).map long
  | .float => (operator.real? singleRemainder left.toSingle right.toSingle).map float
  | .double => (operator.real? doubleRemainder left.toDouble right.toDouble).map double
  | _ => none

/-- The answer of `left operator right` in the width that `ty` names. -/
def compare? (operator : TokenKind) (ty : Ty) (left right : Number) : Option Bool :=
  match ty.kind with
  | .int => operator.ordered? (compare left.toInt32.toInt right.toInt32.toInt)
  | .long => operator.ordered? (compare left.toInt64.toInt right.toInt64.toInt)
  | .float => operator.compareReal? left.toSingle right.toSingle
  | .double => operator.compareReal? left.toDouble right.toDouble
  | _ => none

end Number

end TemplateTree
