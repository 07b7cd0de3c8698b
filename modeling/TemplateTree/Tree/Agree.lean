import TemplateTree.Tree

namespace TemplateTree

namespace Number

def agrees : Number → Number → Bool
  | int a, int b => a = b
  | long a, long b => a = b
  | float a, float b => a == b
  | double a, double b => a == b
  | _, _ => false

end Number

namespace Value

def agrees : Value → Value → Bool
  | number a, number b => a.agrees b
  | a, b => a = b

end Value

mutual

def Expr.agrees : Expr → Expr → Bool
  | .paren head inner, .paren head' inner' => head = head' && inner.agrees inner'
  | .array head listSpan elements associative, .array head' listSpan' elements' associative' =>
    head = head' && listSpan = listSpan' && exprsAgree elements elements' && associative = associative'
  | .call head kind callee listSpan arguments initializer substitution,
    .call head' kind' callee' listSpan' arguments' initializer' substitution' =>
    head = head' && kind = kind' && callee = callee' && listSpan = listSpan' && exprsAgree arguments arguments' &&
      optionalStmtsAgree initializer initializer' && optionalBlocksAgree substitution substitution'
  | .varRef head ref, .varRef head' ref' => head = head' && ref = ref'
  | .property head object dot name reader?, .property head' object' dot' name' reader'? =>
    head = head' && object.agrees object' && dot = dot' && name = name' && reader? = reader'?
  | .index head object bracket position reader?, .index head' object' bracket' position' reader'? =>
    head = head' && object.agrees object' && bracket = bracket' && position.agrees position' && reader? = reader'?
  | .unary head op operand, .unary head' op' operand' => head = head' && op = op' && operand.agrees operand'
  | .binary head op token left right, .binary head' op' token' left' right' =>
    head = head' && op = op' && token = token' && left.agrees left' && right.agrees right'
  | .compare head token left right, .compare head' token' left' right' =>
    head = head' && token = token' && left.agrees left' && right.agrees right'
  | .isa head token operand tested, .isa head' token' operand' tested' =>
    head = head' && token = token' && operand.agrees operand' && tested = tested'
  | .literal head value, .literal head' value' => head = head' && value.agrees value'
  | _, _ => false

def exprsAgree : List Expr → List Expr → Bool
  | [], [] => true
  | e :: rest, e' :: rest' => e.agrees e' && exprsAgree rest rest'
  | _, _ => false

def optionalExprsAgree : Option Expr → Option Expr → Bool
  | none, none => true
  | some e, some e' => e.agrees e'
  | _, _ => false

def Stmt.agrees : Stmt → Stmt → Bool
  | .empty span, .empty span' => span = span'
  | .list span statements, .list span' statements' => span = span' && stmtsAgree statements statements'
  | .block b, .block b' => b.agrees b'
  | .assign span target value, .assign span' target' value' => span = span' && target = target' && value.agrees value'
  | .breakLoop span, .breakLoop span' => span = span'
  | .forEach span loopVar range rangeEnd reverse initializer body,
    .forEach span' loopVar' range' rangeEnd' reverse' initializer' body' =>
    span = span' && loopVar = loopVar' && range.agrees range' && optionalExprsAgree rangeEnd rangeEnd' &&
      reverse = reverse' && optionalStmtsAgree initializer initializer' && optionalBlocksAgree body body'
  | .cond span condition thenPart elsePart merged, .cond span' condition' thenPart' elsePart' merged' =>
    span = span' && condition.agrees condition' && optionalBlocksAgree thenPart thenPart' &&
      optionalBlocksAgree elsePart elsePart' && merged = merged'
  | .substitution span, .substitution span' => span = span'
  | .eval span e, .eval span' e' => span = span' && e.agrees e'
  | .ret span value, .ret span' value' => span = span' && optionalExprsAgree value value'
  | .guarded span guarded replacement, .guarded span' guarded' replacement' =>
    span = span' && optionalStmtsAgree guarded guarded' && optionalStmtsAgree replacement replacement'
  | _, _ => false

def stmtsAgree : List Stmt → List Stmt → Bool
  | [], [] => true
  | s :: rest, s' :: rest' => s.agrees s' && stmtsAgree rest rest'
  | _, _ => false

def optionalStmtsAgree : Option Stmt → Option Stmt → Bool
  | none, none => true
  | some s, some s' => s.agrees s'
  | _, _ => false

def Block.agrees : Block → Block → Bool
  | ⟨span, statements, initializer, finalizer⟩, ⟨span', statements', initializer', finalizer'⟩ =>
    span = span' && stmtsAgree statements statements' && optionalStmtsAgree initializer initializer' &&
      optionalStmtsAgree finalizer finalizer'

def optionalBlocksAgree : Option Block → Option Block → Bool
  | none, none => true
  | some b, some b' => b.agrees b'
  | _, _ => false

end

namespace Template

def agrees (a b : Template) : Bool :=
  a.span = b.span && a.name = b.name && a.params = b.params && a.takesSubstitution = b.takesSubstitution &&
    optionalStmtsAgree a.body b.body && a.returnTy = b.returnTy

end Template

end TemplateTree
