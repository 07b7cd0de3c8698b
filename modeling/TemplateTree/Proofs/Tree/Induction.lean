import TemplateTree.Tree

namespace TemplateTree.Tree

/-- What has to be shown: `P` of expressions, `Q` of statements, `R` of blocks. -/
structure Cases (P : Expr → Prop) (Q : Stmt → Prop) (R : Block → Prop) : Prop where
  paren {head : Head} {inner : Expr} : P inner → P (.paren head inner)
  array {head : Head} {listSpan : Span} {elements : List Expr} {associative : Bool} :
    (∀ e ∈ elements, P e) → P (.array head listSpan elements associative)
  call {head : Head} {kind : CallKind} {callee : Callee} {listSpan : Span} {arguments : List Expr}
    {initializer : Option Stmt} {substitution : Option Block} :
    (∀ e ∈ arguments, P e) → (∀ s, initializer = some s → Q s) → (∀ b, substitution = some b → R b) →
      P (.call head kind callee listSpan arguments initializer substitution)
  varRef {head : Head} {ref : VarRef} : P (.varRef head ref)
  property {head : Head} {object : Expr} {dot : Token} {name : Name} {reader? : Option Method} :
    P object → P (.property head object dot name reader?)
  index {head : Head} {object position : Expr} {bracket : Token} {reader? : Option Method} :
    P object → P position → P (.index head object bracket position reader?)
  unary {head : Head} {op : UnaryOp} {operand : Expr} : P operand → P (.unary head op operand)
  binary {head : Head} {op : BinaryOp} {token : Token} {left right : Expr} :
    P left → P right → P (.binary head op token left right)
  compare {head : Head} {token : Token} {left right : Expr} : P left → P right → P (.compare head token left right)
  isa {head : Head} {token : Token} {operand : Expr} {tested : TypeName} :
    P operand → P (.isa head token operand tested)
  literal {head : Head} {value : Value} : P (.literal head value)
  empty {span : Span} : Q (.empty span)
  list {span : Span} {statements : List Stmt} : (∀ s ∈ statements, Q s) → Q (.list span statements)
  block {b : Block} : R b → Q (.block b)
  assign {span : Span} {target : VarRef} {value : Expr} : P value → Q (.assign span target value)
  breakLoop {span : Span} : Q (.breakLoop span)
  forEach {span : Span} {loopVar : VarRef} {range : Expr} {rangeEnd : Option Expr} {reverse : Bool}
    {initializer : Option Stmt} {body : Option Block} :
    P range → (∀ e, rangeEnd = some e → P e) → (∀ s, initializer = some s → Q s) → (∀ b, body = some b → R b) →
      Q (.forEach span loopVar range rangeEnd reverse initializer body)
  cond {span : Span} {condition : Expr} {thenPart elsePart : Option Block} {merged : Option (List Variable)} :
    P condition → (∀ b, thenPart = some b → R b) → (∀ b, elsePart = some b → R b) →
      Q (.cond span condition thenPart elsePart merged)
  substitution {span : Span} : Q (.substitution span)
  eval {span : Span} {e : Expr} : P e → Q (.eval span e)
  ret {span : Span} {value : Option Expr} : (∀ e, value = some e → P e) → Q (.ret span value)
  guarded {span : Span} {part replacement : Option Stmt} :
    (∀ s, part = some s → Q s) → (∀ s, replacement = some s → Q s) → Q (.guarded span part replacement)
  parts {span : Span} {statements : List Stmt} {initializer finalizer : Option Stmt} :
    (∀ s ∈ statements, Q s) → (∀ s, initializer = some s → Q s) → (∀ s, finalizer = some s → Q s) →
      R ⟨span, statements, initializer, finalizer⟩

namespace Cases

variable {P : Expr → Prop} {Q : Stmt → Prop} {R : Block → Prop}

mutual

theorem expr (cases : Cases P Q R) : ∀ e : Expr, P e
  | .paren _ inner => cases.paren (expr cases inner)
  | .array _ _ elements _ => cases.array (exprs cases elements)
  | .call _ _ _ _ arguments initializer substitution =>
    cases.call (exprs cases arguments) (optionalStmt cases initializer) (optionalBlock cases substitution)
  | .varRef .. => cases.varRef
  | .property _ object _ _ _ => cases.property (expr cases object)
  | .index _ object _ position _ => cases.index (expr cases object) (expr cases position)
  | .unary _ _ operand => cases.unary (expr cases operand)
  | .binary _ _ _ left right => cases.binary (expr cases left) (expr cases right)
  | .compare _ _ left right => cases.compare (expr cases left) (expr cases right)
  | .isa _ _ operand _ => cases.isa (expr cases operand)
  | .literal .. => cases.literal
termination_by structural e => e

theorem exprs (cases : Cases P Q R) : ∀ es : List Expr, ∀ e ∈ es, P e
  | [] => nofun
  | e :: rest => List.forall_mem_cons.2 ⟨expr cases e, exprs cases rest⟩
termination_by structural es => es

theorem optionalExpr (cases : Cases P Q R) : ∀ (e? : Option Expr) (e : Expr), e? = some e → P e
  | none => nofun
  | some e => fun _ h => Option.some.inj h ▸ expr cases e
termination_by structural e? => e?

theorem stmt (cases : Cases P Q R) : ∀ s : Stmt, Q s
  | .empty _ => cases.empty
  | .list _ statements => cases.list (stmts cases statements)
  | .block b => cases.block (ofBlock cases b)
  | .assign _ _ value => cases.assign (expr cases value)
  | .breakLoop _ => cases.breakLoop
  | .forEach _ _ range rangeEnd _ initializer body =>
    cases.forEach (expr cases range) (optionalExpr cases rangeEnd) (optionalStmt cases initializer)
      (optionalBlock cases body)
  | .cond _ condition thenPart elsePart _ =>
    cases.cond (expr cases condition) (optionalBlock cases thenPart) (optionalBlock cases elsePart)
  | .substitution _ => cases.substitution
  | .eval _ e => cases.eval (expr cases e)
  | .ret _ value => cases.ret (optionalExpr cases value)
  | .guarded _ part replacement => cases.guarded (optionalStmt cases part) (optionalStmt cases replacement)
termination_by structural s => s

theorem stmts (cases : Cases P Q R) : ∀ ss : List Stmt, ∀ s ∈ ss, Q s
  | [] => nofun
  | s :: rest => List.forall_mem_cons.2 ⟨stmt cases s, stmts cases rest⟩
termination_by structural ss => ss

theorem optionalStmt (cases : Cases P Q R) : ∀ (s? : Option Stmt) (s : Stmt), s? = some s → Q s
  | none => nofun
  | some s => fun _ h => Option.some.inj h ▸ stmt cases s
termination_by structural s? => s?

theorem ofBlock (cases : Cases P Q R) : ∀ b : Block, R b
  | ⟨_, statements, initializer, finalizer⟩ =>
    cases.parts (stmts cases statements) (optionalStmt cases initializer) (optionalStmt cases finalizer)
termination_by structural b => b

theorem optionalBlock (cases : Cases P Q R) : ∀ (b? : Option Block) (b : Block), b? = some b → R b
  | none => nofun
  | some b => fun _ h => Option.some.inj h ▸ ofBlock cases b
termination_by structural b? => b?

end

end Cases

end TemplateTree.Tree
