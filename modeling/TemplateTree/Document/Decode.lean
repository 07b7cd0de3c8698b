import TemplateTree.Document.Encode

namespace TemplateTree

/-- The fields of an object by name. -/
abbrev Fields := List (String × Json)

namespace Json

def bool? : Json → Option Bool
  | bool value => some value
  | _ => none

def string? : Json → Option String
  | str value => some value
  | _ => none

/-- An integer between two bounds. -/
def integer? (lo hi : Int) : Json → Option Int
  | num numeral => numeral.integer?.filter fun n => lo ≤ n && n ≤ hi
  | _ => none

def word? (value : Json) : Option UInt64 := (value.integer? 0 (UInt64.size - 1)).map fun n => UInt64.ofNat n.toNat

/-- The items of an array, each read in the same way. -/
def list? {α : Type} (decode : Json → Option α) : Json → Option (List α)
  | arr items => items.mapM decode
  | _ => none

/-- The fields of an object. -/
def fields? : Json → Option Fields
  | obj fields => some fields
  | _ => none

/-- The fields of a record: those of an object, or the items of an array in the order of the fields.
    From an array only fields at the end may be missing, and only those that can be left out. -/
def record? (needed further : List String) : Json → Option Fields
  | obj fields => some fields
  | arr items =>
    if needed.length ≤ items.length && items.length ≤ needed.length + further.length then
      some ((needed ++ further).zip items)
    else none
  | _ => none

/-- The name of an alternative and its content. -/
def variant? : Json → Option (String × Option Json)
  | str name => some (name, none)
  | obj [(name, content)] => some (name, some content)
  | _ => none

/-- What can stand in an object for the content of an alternative that has none. -/
inductive Blank where
  | null
  | nullOrEmpty
deriving DecidableEq

def Blank.accepts : Blank → Json → Bool
  | _, .null => true
  | .nullOrEmpty, .obj [] => true
  | _, _ => false

/-- The name of an alternative that has no content. -/
def label? (blank : Blank) (value : Json) : Option String :=
  match value.variant? with
  | some (name, none) => some name
  | some (name, some content) => if blank.accepts content then some name else none
  | none => none

end Json

namespace Fields

/-- The value of a field, if the object has it. No field may be there twice. -/
def lookup? (fields : Fields) (key : String) : Option (Option Json) :=
  match fields.filter (·.1 = key) with
  | [] => some none
  | [(_, value)] => some (some value)
  | _ => none

variable {α : Type}

/-- A field that must be there. -/
def required? (fields : Fields) (key : String) (decode : Json → Option α) : Option α := do
  let value ← (← fields.lookup? key)
  decode value

/-- A field that may be null or missing. -/
def optional? (fields : Fields) (key : String) (decode : Json → Option α) : Option (Option α) := do
  match ← fields.lookup? key with
  | none => return none
  | some .null => return none
  | some value => return some (← decode value)

/-- A field with a default. -/
def defaulted? (fields : Fields) (key : String) (default : α) (decode : Json → Option α) : Option α := do
  match ← fields.lookup? key with
  | none => return default
  | some value => decode value

/-- A flag is off unless it is set. -/
def flag? (fields : Fields) (key : String) : Option Bool := fields.defaulted? key false Json.bool?

end Fields

namespace Span

def ofJson? (value : Json) : Option Span := do
  let fields ← value.record? ["line", "start", "end"] []
  return ⟨← fields.required? "line" Json.word?, ← fields.required? "start" Json.word?,
    ← fields.required? "end" Json.word?⟩

end Span

namespace Kind

/-- The kinds that are written as just a name. -/
def ofLabel? : String → Option Kind
  | "Void" => some void
  | "Null" => some null
  | "Boolean" => some boolean
  | "Char" => some char
  | "Byte" => some byte
  | "Short" => some short
  | "Int" => some int
  | "Long" => some long
  | "Float" => some float
  | "Double" => some double
  | "Number" => some number
  | "String" => some string
  | "Object" => some object
  | _ => none

end Kind

namespace Ty

mutual

def decode? (blank : Json.Blank) : Nat → Json → Option Ty
  | 0, _ => none
  | depth + 1, value => do
    let fields ← value.record? ["kind", "primitive", "non_null"] []
    return ⟨← fields.required? "kind" (decodeKind? blank depth),
      ← fields.required? "primitive" Json.bool?, ← fields.required? "non_null" Json.bool?⟩

def decodeKind? (blank : Json.Blank) : Nat → Json → Option Kind
  | 0, value => (value.label? blank).bind Kind.ofLabel?
  | depth + 1, value =>
    match value.variant? with
    | some ("Class", some content) => content.string?.map .named
    | some ("Array", some content) =>
      (decode? blank depth content).map fun ty => .array ty.kind ty.primitive ty.nonNull
    | _ => (value.label? blank).bind Kind.ofLabel?

end

def read? (blank : Json.Blank) (value : Json) : Option Ty := decode? blank value.depth value

def ofJson? (value : Json) : Option Ty := read? .null value

end Ty

def Kind.ofJson? (value : Json) : Option Kind := Ty.decodeKind? .null value.depth value

namespace Number

def ofJson? (form : RealForm) (value : Json) : Option Number :=
  match value.variant? with
  | some ("Int", some content) =>
    (content.integer? Int32.minValue.toInt Int32.maxValue.toInt).map fun n => int (.ofInt n)
  | some ("Long", some content) =>
    (content.integer? Int64.minValue.toInt Int64.maxValue.toInt).map fun n => long (.ofInt n)
  | some ("Float", some content) => (form.single.decode? content).map float
  | some ("Double", some content) => (form.double.decode? content).map double
  | _ => none

end Number

namespace Value

def ofJson? (form : RealForm) (value : Json) : Option Value :=
  match value.variant? with
  | some ("Boolean", some content) => content.bool?.map boolean
  | some ("String", some content) => content.string?.map string
  | some ("Number", some content) => (Number.ofJson? form content).map number
  | _ => if value.label? .null = some "Null" then some null else none

/-- A literal expression. -/
def literalOfJson? (form : RealForm) (value : Json) : Option Value :=
  match value.variant? with
  | some ("BooleanLiteral", some content) => content.bool?.map boolean
  | some ("StringLiteral", some content) => content.string?.map string
  | some ("NumberLiteral", some content) => (Number.ofJson? form content).map number
  | _ => if value.label? .null = some "NullLiteral" then some null else none

end Value

namespace TokenKind

def ofLabel? : String → Option TokenKind
  | "Plus" => some plus
  | "Minus" => some minus
  | "Mult" => some mult
  | "Div" => some div
  | "Mod" => some mod
  | "Concat" => some concat
  | "Eq" => some eq
  | "Ne" => some ne
  | "Lt" => some lt
  | "Gt" => some gt
  | "Le" => some le
  | "Ge" => some ge
  | "Isa" => some isa
  | "And" => some and
  | "Or" => some or
  | "Not" => some not
  | "Dot" => some dot
  | "LBracket" => some lBracket
  | _ => none

def ofJson? (value : Json) : Option TokenKind := (value.label? .null).bind ofLabel?

end TokenKind

namespace Token

def ofJson? (value : Json) : Option Token := do
  let fields ← value.record? ["kind"] ["info"]
  return ⟨← fields.required? "kind" TokenKind.ofJson?, ← fields.defaulted? "info" .unknown Span.ofJson?⟩

end Token

namespace Conversion

def read? (blank : Json.Blank) (value : Json) : Option Conversion := do
  let fields ← value.record? ["from", "to", "cast_preferred"] []
  return ⟨← fields.optional? "from" (Ty.read? blank), ← fields.required? "to" (Ty.read? blank),
    ← fields.required? "cast_preferred" Json.bool?⟩

end Conversion

namespace Chain

def read? (blank : Json.Blank) (value : Json) : Option Chain :=
  (value.list? (Conversion.read? blank)).map Chain.mk

def ofJson? (value : Json) : Option Chain := read? .null value

end Chain

namespace Name

def ofJson? (value : Json) : Option Name := do
  let fields ← value.record? ["info", "name"] []
  return ⟨← fields.required? "info" Span.ofJson?, ← fields.required? "name" Json.string?⟩

end Name

namespace TypeName

def ofJson? (value : Json) : Option TypeName := do
  let fields ← value.record? ["info", "name"] ["dimensions", "ty"]
  return ⟨← fields.required? "info" Span.ofJson?, ← fields.required? "name" Json.string?,
    ← fields.optional? "dimensions" Json.word?, ← fields.optional? "ty" Ty.ofJson?⟩

end TypeName

namespace Variable

def ofJson? (value : Json) : Option Variable := do
  let fields ← value.record? ["info", "name", "type_name"] ["ty", "field", "static", "transient"]
  return ⟨← fields.required? "info" Span.ofJson?, ← fields.required? "name" Json.string?,
    ← fields.required? "type_name" TypeName.ofJson?, ← fields.optional? "ty" Ty.ofJson?, ← fields.flag? "field",
    ← fields.flag? "static", ← fields.flag? "transient"⟩

end Variable

namespace Method

def ofJson? (value : Json) : Option Method := do
  let fields ← value.record? ["declaring_type", "name", "params", "return_type"] []
  return ⟨← fields.optional? "declaring_type" Ty.ofJson?, ← fields.required? "name" Json.string?,
    ← fields.defaulted? "params" [] (Json.list? Ty.ofJson?), ← fields.required? "return_type" Ty.ofJson?⟩

end Method

namespace VarRef

def ofJson? (value : Json) : Option VarRef := do
  let fields ← value.record? ["name"] ["variable"]
  return ⟨← fields.required? "name" Name.ofJson?, ← fields.optional? "variable" Variable.ofJson?⟩

end VarRef

namespace Head

/-- The parts that all expressions have in common. An expression is read as a whole before it is
    taken apart, so that even the fields that nobody asks for must be readable. In the parts an empty
    object is as good as null for the content of a kind that has none. -/
def ofFields? (form : RealForm) (fields : Fields) : Option Head := do
  guard (fields.all fun (key, value) => key = "kind" || value.isReadable form)
  return ⟨← fields.required? "info" Span.ofJson?,
    ← fields.defaulted? "conversions" .empty (Chain.read? .nullOrEmpty),
    ← fields.flag? "exception_possible"⟩

end Head

/-- The unary operator of a kind of expression. -/
def UnaryOp.ofLabel? : String → Option UnaryOp
  | "Negate" => some negate
  | "Not" => some not
  | _ => none

/-- The binary operator of a kind of expression. -/
def BinaryOp.ofLabel? : String → Option BinaryOp
  | "Concatenate" => some concatenate
  | "Arithmetic" => some arithmetic
  | "And" => some and
  | "Or" => some or
  | _ => none

/-- The kind of call of a kind of expression. -/
def CallKind.ofLabel? : String → Option CallKind
  | "FunctionCall" => some function
  | "TemplateCall" => some template
  | _ => none

/-- The span and the members of a list of expressions. -/
def exprList? (decode : Json → Option Expr) (value : Json) : Option (Span × List Expr) := do
  let fields ← value.record? ["info", "expressions"] []
  return (← fields.defaulted? "info" .unknown Span.ofJson?, ← fields.required? "expressions" (Json.list? decode))

mutual

def Expr.decode? (form : RealForm) : Nat → Json → Option Expr
  | 0, _ => none
  | depth + 1, value => do
    let fields ← value.fields?
    let head ← Head.ofFields? form fields
    fields.required? "kind" (Expr.decodeKind? form depth head)

/-- The kind of an expression with a given head. -/
def Expr.decodeKind? (form : RealForm) : Nat → Head → Json → Option Expr
  | 0, head, value => (Value.literalOfJson? form value).map (.literal head)
  | depth + 1, head, value =>
    match value.variant? with
    | some ("Paren", some content) => (Expr.decode? form depth content).map (.paren head)
    | some ("NewArray", some content) => do
      let fields ← content.record? ["elements"] ["associative"]
      let (listSpan, elements) ← fields.required? "elements" (exprList? (Expr.decode? form depth))
      return .array head listSpan elements (← fields.flag? "associative")
    | some ("VariableRef", some content) => (VarRef.ofJson? content).map (.varRef head)
    | some ("Lookup", some content) => do
      let fields ← content.record? ["expression", "dot", "name"] ["read_method"]
      return .property head (← fields.required? "expression" (Expr.decode? form depth))
        (← fields.required? "dot" Token.ofJson?) (← fields.required? "name" Name.ofJson?)
        (← fields.optional? "read_method" Method.ofJson?)
    | some ("ArrayLookup", some content) => do
      let fields ← content.record? ["expression", "token", "index"] ["read_method"]
      return .index head (← fields.required? "expression" (Expr.decode? form depth))
        (← fields.required? "token" Token.ofJson?) (← fields.required? "index" (Expr.decode? form depth))
        (← fields.optional? "read_method" Method.ofJson?)
    | some ("Relational", some content) => do
      let fields ← content.record? ["operator", "left", "right"] []
      let token ← fields.required? "operator" Token.ofJson?
      let left ← fields.required? "left" (Expr.decode? form depth)
      fields.required? "right" fun right =>
        match right.variant? with
        | some ("Expression", some right) => (Expr.decode? form depth right).map (.compare head token left)
        | some ("Isa", some tested) => (TypeName.ofJson? tested).map (.isa head token left)
        | _ => none
    | some (label, some content) =>
      match UnaryOp.ofLabel? label, BinaryOp.ofLabel? label, CallKind.ofLabel? label with
      | some op, _, _ => (Expr.decode? form depth content).map (.unary head op)
      | _, some op, _ => do
        let fields ← content.record? ["operator", "left", "right"] []
        return .binary head op (← fields.required? "operator" Token.ofJson?)
          (← fields.required? "left" (Expr.decode? form depth)) (← fields.required? "right" (Expr.decode? form depth))
      | _, _, some kind => do
        let fields ← content.record? ["target", "params"] ["initializer", "substitution", "void_permitted", "method"]
        let target ← fields.required? "target" Name.ofJson?
        let (listSpan, arguments) ← fields.required? "params" (exprList? (Expr.decode? form depth))
        let initializer ← fields.optional? "initializer" (Stmt.decode? form depth)
        let substitution ← fields.optional? "substitution" (Block.decode? form depth)
        let callee := ⟨target, ← fields.flag? "void_permitted", ← fields.optional? "method" Method.ofJson?⟩
        return .call head kind callee listSpan arguments initializer substitution
      | none, none, none => (Value.literalOfJson? form value).map (.literal head)
    | _ => (Value.literalOfJson? form value).map (.literal head)

def Stmt.decode? (form : RealForm) : Nat → Json → Option Stmt
  | 0, _ => none
  | depth + 1, value =>
    match value.variant? with
    | some ("Empty", some content) => (Span.ofJson? content).map .empty
    | some ("Break", some content) => (Span.ofJson? content).map .breakLoop
    | some ("Substitution", some content) => (Span.ofJson? content).map .substitution
    | some ("List", some content) => do
      let fields ← content.record? ["info", "statements"] []
      return .list (← fields.required? "info" Span.ofJson?)
        (← fields.required? "statements" (Json.list? (Stmt.decode? form depth)))
    | some ("Block", some content) => (Block.decode? form depth content).map .block
    | some ("Assignment", some content) => do
      let fields ← content.record? ["info", "lvalue", "rvalue"] []
      return .assign (← fields.required? "info" Span.ofJson?) (← fields.required? "lvalue" VarRef.ofJson?)
        (← fields.required? "rvalue" (Expr.decode? form depth))
    | some ("Foreach", some content) => do
      let fields ← content.record? ["info", "loop_variable", "range", "end_range", "reverse", "initializer", "body"] []
      return .forEach (← fields.required? "info" Span.ofJson?) (← fields.required? "loop_variable" VarRef.ofJson?)
        (← fields.required? "range" (Expr.decode? form depth)) (← fields.optional? "end_range" (Expr.decode? form depth))
        (← fields.flag? "reverse") (← fields.optional? "initializer" (Stmt.decode? form depth))
        (← fields.optional? "body" (Block.decode? form depth))
    | some ("If", some content) => do
      let fields ← content.record? ["info", "condition"] ["then_part", "else_part", "merged_variables"]
      return .cond (← fields.required? "info" Span.ofJson?) (← fields.required? "condition" (Expr.decode? form depth))
        (← fields.optional? "then_part" (Block.decode? form depth))
        (← fields.optional? "else_part" (Block.decode? form depth))
        (← fields.optional? "merged_variables" (Json.list? Variable.ofJson?))
    | some ("Expression", some content) => do
      let fields ← content.record? ["info", "expression"] []
      return .eval (← fields.required? "info" Span.ofJson?) (← fields.required? "expression" (Expr.decode? form depth))
    | some ("Return", some content) => do
      let fields ← content.record? ["info"] ["expression"]
      return .ret (← fields.required? "info" Span.ofJson?) (← fields.optional? "expression" (Expr.decode? form depth))
    | some ("ExceptionGuard", some content) => do
      let fields ← content.record? ["info", "guarded"] ["replacement"]
      return .guarded (← fields.required? "info" Span.ofJson?) (← fields.optional? "guarded" (Stmt.decode? form depth))
        (← fields.optional? "replacement" (Stmt.decode? form depth))
    | _ => none

def Block.decode? (form : RealForm) : Nat → Json → Option Block
  | 0, _ => none
  | depth + 1, value => do
    let fields ← value.record? ["info", "statements"] ["initializer", "finalizer"]
    return ⟨← fields.required? "info" Span.ofJson?,
      ← fields.required? "statements" (Json.list? (Stmt.decode? form depth)),
      ← fields.optional? "initializer" (Stmt.decode? form depth), ← fields.optional? "finalizer" (Stmt.decode? form depth)⟩

end

def Expr.ofJson? (form : RealForm) (value : Json) : Option Expr := Expr.decode? form value.depth value

def Stmt.ofJson? (form : RealForm) (value : Json) : Option Stmt := Stmt.decode? form value.depth value

def Block.ofJson? (form : RealForm) (value : Json) : Option Block := Block.decode? form value.depth value

namespace Template

def ofJson? (form : RealForm) (value : Json) : Option Template := do
  let fields ← value.record? ["info", "name", "params", "substitution_param", "statement"] ["return_type"]
  return ⟨← fields.required? "info" Span.ofJson?, ← fields.required? "name" Name.ofJson?,
    ← fields.required? "params" (Json.list? Variable.ofJson?), ← fields.flag? "substitution_param",
    ← fields.optional? "statement" (Stmt.ofJson? form), ← fields.optional? "return_type" Ty.ofJson?⟩

end Template

end TemplateTree
