import TemplateTree.Span
import TemplateTree.Ty

namespace TemplateTree

/-- What is missing from a malformed tree. -/
inductive Defect where
  | untyped
  | unresolvedCall (target : String)
  | unboundVariable (name : String)
  | unresolvedTest (typeName : String)
  | unresolvedTypeName
  | untypedOperand
deriving DecidableEq

def Defect.message : Defect → String
  | untyped => "expression has no type"
  | unresolvedCall target => "call to " ++ target ++ " is unresolved"
  | unboundVariable name => "variable " ++ name ++ " is unbound"
  | unresolvedTest typeName => "isa type " ++ typeName ++ " is unresolved"
  | unresolvedTypeName => "isa type name is unresolved"
  | untypedOperand => "isa operand is untyped"

/-- Why a pass over a tree stopped, and at which node. -/
inductive TreeError where
  | illegalConversion (source : Option Ty) (target : Ty) (span : Span)
  | malformed (defect : Defect) (span : Span)
deriving DecidableEq

namespace TreeError

def span : TreeError → Span
  | illegalConversion _ _ span => span
  | malformed _ span => span

def message : TreeError → String
  | illegalConversion source target span =>
    "can't convert " ++ (source.map Ty.text).getD "untyped expression" ++ " to " ++ target.text ++ " at " ++ span.text
  | malformed defect span => "malformed tree at " ++ span.text ++ ": " ++ defect.message

end TreeError

end TemplateTree
