import TemplateTree.Number
import TemplateTree.Text.Quoted

namespace TemplateTree

inductive Value where
  | null
  | boolean (value : Bool)
  | string (value : String)
  | number (value : Number)
deriving DecidableEq, Inhabited

namespace Value

def isNull : Value → Bool
  | null => true
  | _ => false

def boolean? : Value → Option Bool
  | boolean value => some value
  | _ => none

def string? : Value → Option String
  | string value => some value
  | _ => none

def number? : Value → Option Number
  | number value => some value
  | _ => none

/-- The type that a literal of this value has by itself. -/
def naturalTy : Value → Ty
  | null => .null
  | boolean _ => .boolean
  | string _ => .nonNullString
  | number value => value.naturalTy

def text : Value → String
  | null => "null"
  | boolean value => if value then "true" else "false"
  | string value => Text.quoted value
  | number value => value.text

end Value

end TemplateTree
