import TemplateTree.Json.Dialect
import TemplateTree.Tree

namespace TemplateTree

namespace Json

def ofNat (n : Nat) : Json := num (.ofNat n)

def ofInt (n : Int) : Json := num (.ofInt n)

/-- An optional part is null when it is missing. -/
def ofOption {α : Type} (encode : α → Json) : Option α → Json
  | none => null
  | some a => encode a

/-- An alternative with its content. -/
def variant (name : String) (content : Json) : Json := obj [(name, content)]

end Json

open Json

namespace Span

def toJson (span : Span) : Json :=
  obj [("line", ofNat span.line.toNat), ("start", ofNat span.start.toNat), ("end", ofNat span.stop.toNat)]

end Span

/-- The record of a type, given its kind. -/
def tyObject (kind : Json) (primitive nonNull : Bool) : Json :=
  obj [("kind", kind), ("primitive", bool primitive), ("non_null", bool nonNull)]

namespace Kind

def toJson : Kind → Json
  | void => str "Void"
  | null => str "Null"
  | boolean => str "Boolean"
  | char => str "Char"
  | byte => str "Byte"
  | short => str "Short"
  | int => str "Int"
  | long => str "Long"
  | float => str "Float"
  | double => str "Double"
  | number => str "Number"
  | string => str "String"
  | object => str "Object"
  | named name => variant "Class" (str name)
  | array element primitive nonNull => variant "Array" (tyObject element.toJson primitive nonNull)

end Kind

namespace Ty

def toJson (ty : Ty) : Json := tyObject ty.kind.toJson ty.primitive ty.nonNull

end Ty

namespace Number

def toJson (form : RealForm) : Number → Json
  | int value => variant "Int" (ofInt value.toInt)
  | long value => variant "Long" (ofInt value.toInt)
  | float value => variant "Float" (form.single.encode value)
  | double value => variant "Double" (form.double.encode value)

end Number

namespace Value

def toJson (form : RealForm) : Value → Json
  | null => str "Null"
  | boolean value => variant "Boolean" (bool value)
  | string value => variant "String" (str value)
  | number value => variant "Number" (value.toJson form)

/-- The kind of a literal expression. -/
def literalToJson (form : RealForm) : Value → Json
  | null => str "NullLiteral"
  | boolean value => variant "BooleanLiteral" (bool value)
  | string value => variant "StringLiteral" (str value)
  | number value => variant "NumberLiteral" (value.toJson form)

end Value

namespace TokenKind

def toJson : TokenKind → Json
  | plus => str "Plus"
  | minus => str "Minus"
  | mult => str "Mult"
  | div => str "Div"
  | mod => str "Mod"
  | concat => str "Concat"
  | eq => str "Eq"
  | ne => str "Ne"
  | lt => str "Lt"
  | gt => str "Gt"
  | le => str "Le"
  | ge => str "Ge"
  | isa => str "Isa"
  | and => str "And"
  | or => str "Or"
  | not => str "Not"
  | dot => str "Dot"
  | lBracket => str "LBracket"

end TokenKind

namespace Token

def toJson (token : Token) : Json := obj [("kind", token.kind.toJson), ("info", token.span.toJson)]

end Token

namespace Conversion

def toJson (step : Conversion) : Json :=
  obj [("from", ofOption Ty.toJson step.source), ("to", step.target.toJson), ("cast_preferred", bool step.castPreferred)]

end Conversion

namespace Chain

def toJson (chain : Chain) : Json := arr (chain.steps.map Conversion.toJson)

end Chain

namespace Name

def toJson (n : Name) : Json := obj [("info", n.span.toJson), ("name", str n.name)]

end Name

namespace TypeName

def toJson (n : TypeName) : Json :=
  obj [("info", n.span.toJson), ("name", str n.name), ("dimensions", ofOption (fun d => ofNat d.toNat) n.written),
    ("ty", ofOption Ty.toJson n.ty?)]

end TypeName

namespace Variable

def toJson (v : Variable) : Json :=
  obj [("info", v.span.toJson), ("name", str v.name), ("type_name", v.typeName.toJson), ("ty", ofOption Ty.toJson v.ty?),
    ("field", bool v.isField), ("static", bool v.isStatic), ("transient", bool v.isTransient)]

end Variable

namespace Method

def toJson (m : Method) : Json :=
  obj [("declaring_type", ofOption Ty.toJson m.declaringTy), ("name", str m.name), ("params", arr (m.params.map Ty.toJson)),
    ("return_type", m.returnTy.toJson)]

end Method

namespace VarRef

def toJson (ref : VarRef) : Json :=
  obj [("name", ref.name.toJson), ("variable", ofOption Variable.toJson ref.bound?)]

end VarRef

/-- An expression: the parts that all have in common, then what kind it is. -/
def exprObject (head : Head) (kind : Json) : Json :=
  obj [("info", head.span.toJson), ("conversions", head.chain.toJson), ("exception_possible", bool head.mayThrow),
    ("kind", kind)]

def exprListObject (span : Span) (expressions : List Json) : Json :=
  obj [("info", span.toJson), ("expressions", arr expressions)]

def operatorObject (token : Token) (left right : Json) : Json :=
  obj [("operator", token.toJson), ("left", left), ("right", right)]

def CallKind.label : CallKind → String
  | function => "FunctionCall"
  | template => "TemplateCall"

def UnaryOp.label : UnaryOp → String
  | negate => "Negate"
  | not => "Not"

def BinaryOp.label : BinaryOp → String
  | concatenate => "Concatenate"
  | arithmetic => "Arithmetic"
  | and => "And"
  | or => "Or"

mutual

def Expr.toJson (form : RealForm) : Expr → Json
  | .paren head inner => exprObject head (variant "Paren" (inner.toJson form))
  | .array head listSpan elements associative =>
    exprObject head (variant "NewArray"
      (obj [("elements", exprListObject listSpan (exprsToJson form elements)), ("associative", bool associative)]))
  | .call head kind callee listSpan arguments initializer substitution =>
    exprObject head (variant kind.label
      (obj [("target", callee.target.toJson), ("params", exprListObject listSpan (exprsToJson form arguments)),
        ("initializer", optionalStmtToJson form initializer), ("substitution", optionalBlockToJson form substitution),
        ("void_permitted", bool callee.voidPermitted), ("method", ofOption Method.toJson callee.method?)]))
  | .varRef head ref => exprObject head (variant "VariableRef" ref.toJson)
  | .property head object dot name reader? =>
    exprObject head (variant "Lookup"
      (obj [("expression", object.toJson form), ("dot", dot.toJson), ("name", name.toJson),
        ("read_method", ofOption Method.toJson reader?)]))
  | .index head object bracket position reader? =>
    exprObject head (variant "ArrayLookup"
      (obj [("expression", object.toJson form), ("token", bracket.toJson), ("index", position.toJson form),
        ("read_method", ofOption Method.toJson reader?)]))
  | .unary head op operand => exprObject head (variant op.label (operand.toJson form))
  | .binary head op token left right =>
    exprObject head (variant op.label (operatorObject token (left.toJson form) (right.toJson form)))
  | .compare head token left right =>
    exprObject head (variant "Relational"
      (operatorObject token (left.toJson form) (variant "Expression" (right.toJson form))))
  | .isa head token operand tested =>
    exprObject head (variant "Relational" (operatorObject token (operand.toJson form) (variant "Isa" tested.toJson)))
  | .literal head value => exprObject head (value.literalToJson form)

def exprsToJson (form : RealForm) : List Expr → List Json
  | [] => []
  | e :: rest => e.toJson form :: exprsToJson form rest

def optionalExprToJson (form : RealForm) : Option Expr → Json
  | none => Json.null
  | some e => e.toJson form

def Stmt.toJson (form : RealForm) : Stmt → Json
  | .empty span => variant "Empty" span.toJson
  | .list span statements =>
    variant "List" (obj [("info", span.toJson), ("statements", arr (stmtsToJson form statements))])
  | .block b => variant "Block" (b.toJson form)
  | .assign span target value =>
    variant "Assignment" (obj [("info", span.toJson), ("lvalue", target.toJson), ("rvalue", value.toJson form)])
  | .breakLoop span => variant "Break" span.toJson
  | .forEach span loopVar range rangeEnd reverse initializer body =>
    variant "Foreach" (obj [("info", span.toJson), ("loop_variable", loopVar.toJson), ("range", range.toJson form),
      ("end_range", optionalExprToJson form rangeEnd), ("reverse", bool reverse),
      ("initializer", optionalStmtToJson form initializer), ("body", optionalBlockToJson form body)])
  | .cond span condition thenPart elsePart merged =>
    variant "If" (obj [("info", span.toJson), ("condition", condition.toJson form),
      ("then_part", optionalBlockToJson form thenPart), ("else_part", optionalBlockToJson form elsePart),
      ("merged_variables", ofOption (fun vars => arr (vars.map Variable.toJson)) merged)])
  | .substitution span => variant "Substitution" span.toJson
  | .eval span e => variant "Expression" (obj [("info", span.toJson), ("expression", e.toJson form)])
  | .ret span value => variant "Return" (obj [("info", span.toJson), ("expression", optionalExprToJson form value)])
  | .guarded span guarded replacement =>
    variant "ExceptionGuard" (obj [("info", span.toJson), ("guarded", optionalStmtToJson form guarded),
      ("replacement", optionalStmtToJson form replacement)])

def stmtsToJson (form : RealForm) : List Stmt → List Json
  | [] => []
  | s :: rest => s.toJson form :: stmtsToJson form rest

def optionalStmtToJson (form : RealForm) : Option Stmt → Json
  | none => Json.null
  | some s => s.toJson form

def Block.toJson (form : RealForm) : Block → Json
  | ⟨span, statements, initializer, finalizer⟩ =>
    obj [("info", span.toJson), ("statements", arr (stmtsToJson form statements)),
      ("initializer", optionalStmtToJson form initializer), ("finalizer", optionalStmtToJson form finalizer)]

def optionalBlockToJson (form : RealForm) : Option Block → Json
  | none => Json.null
  | some b => b.toJson form

end

namespace Template

def toJson (form : RealForm) (t : Template) : Json :=
  obj [("info", t.span.toJson), ("name", t.name.toJson), ("params", arr (t.params.map Variable.toJson)),
    ("substitution_param", bool t.takesSubstitution), ("statement", optionalStmtToJson form t.body),
    ("return_type", ofOption Ty.toJson t.returnTy)]

end Template

end TemplateTree
