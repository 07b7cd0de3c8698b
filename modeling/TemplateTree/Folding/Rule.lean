import TemplateTree.Logged

namespace TemplateTree

/-- A rule by which the folding pass simplifies a node. -/
inductive Rule where
  | emptyStatement
  | emptyList
  | singleStatementList
  | emptyBlock
  | emptyRangeForeach
  | constantIf
  | invertedIf
  | paren
  | negateConstant
  | doubleNegate
  | notConstant
  | doubleNot
  | concatenateConstants
  | concatenateEmptyLeft
  | concatenateEmptyRight
  | arithmeticConstants
  | isaWidening
  | compareConstants
  | compareBooleans
  | compareBooleanLeft
  | compareBooleanRight
  | compareNulls
  | compareNullWithNonNull
  | andTrueLeft
  | andFalseLeft
  | andTrueRight
  | orTrueLeft
  | orFalseLeft
  | orFalseRight
deriving DecidableEq

def Rule.name : Rule → String
  | emptyStatement => "empty-statement"
  | emptyList => "empty-list"
  | singleStatementList => "single-statement-list"
  | emptyBlock => "empty-block"
  | emptyRangeForeach => "empty-range-foreach"
  | constantIf => "constant-if"
  | invertedIf => "inverted-if"
  | paren => "paren"
  | negateConstant => "negate-constant"
  | doubleNegate => "double-negate"
  | notConstant => "not-constant"
  | doubleNot => "double-not"
  | concatenateConstants => "concatenate-constants"
  | concatenateEmptyLeft => "concatenate-empty-left"
  | concatenateEmptyRight => "concatenate-empty-right"
  | arithmeticConstants => "arithmetic-constants"
  | isaWidening => "isa-widening"
  | compareConstants => "compare-constants"
  | compareBooleans => "compare-booleans"
  | compareBooleanLeft => "compare-boolean-left"
  | compareBooleanRight => "compare-boolean-right"
  | compareNulls => "compare-nulls"
  | compareNullWithNonNull => "compare-null-with-non-null"
  | andTrueLeft => "and-true-left"
  | andFalseLeft => "and-false-left"
  | andTrueRight => "and-true-right"
  | orTrueLeft => "or-true-left"
  | orFalseLeft => "or-false-left"
  | orFalseRight => "or-false-right"

/-- One use of a rule: at the node with this span. -/
structure Fold where
  rule : Rule
  span : Span
deriving DecidableEq

def Fold.text (fold : Fold) : String := fold.rule.name ++ " @ " ++ fold.span.text

/-- A computation that logs the rules it uses. -/
abbrev Folding := Logged Fold

/-- Logs the use of a rule. -/
def applied (rule : Rule) (span : Span) : Folding Unit := .record ⟨rule, span⟩

end TemplateTree
