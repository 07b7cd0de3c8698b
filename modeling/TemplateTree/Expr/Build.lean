import TemplateTree.Tree

namespace TemplateTree.Expr

/-- A literal with its natural type. -/
def ofValue (span : Span) (value : Value) : Expr := literal ⟨span, .ofTy value.naturalTy, false⟩ value

def ofBool (span : Span) (value : Bool) : Expr := ofValue span (.boolean value)

def ofString (span : Span) (value : String) : Expr := ofValue span (.string value)

def ofNumber (span : Span) (value : Number) : Expr := ofValue span (.number value)

def mkParen (span : Span) (inner : Expr) : Expr := paren (.untyped span) inner

def mkUnary (span : Span) (op : UnaryOp) (operand : Expr) : Expr := unary (.untyped span) op operand

def mkBinary (span : Span) (op : BinaryOp) (token : Token) (left right : Expr) : Expr :=
  binary (.untyped span) op token left right

def mkCompare (span : Span) (token : Token) (left right : Expr) : Expr := compare (.untyped span) token left right

def mkIsa (span : Span) (token : Token) (operand : Expr) (tested : TypeName) : Expr :=
  isa (.untyped span) token operand tested

/-- A reference to a bound variable. -/
def ofVariable (span : Span) (v : Variable) : Expr := varRef (.untyped span) ⟨⟨span, v.name⟩, some v⟩

def mkArray (span listSpan : Span) (elements : List Expr) (associative : Bool) : Expr :=
  array (.untyped span) listSpan elements associative

def mkCall (span : Span) (kind : CallKind) (callee : Callee) (listSpan : Span) (arguments : List Expr) : Expr :=
  call (.untyped span) kind callee listSpan arguments none none

def mkProperty (span : Span) (object : Expr) (dot : Token) (name : Name) (reader? : Option Method) : Expr :=
  property (.untyped span) object dot name reader?

def mkIndex (span : Span) (object : Expr) (bracket : Token) (position : Expr) (reader? : Option Method) : Expr :=
  index (.untyped span) object bracket position reader?

end TemplateTree.Expr
