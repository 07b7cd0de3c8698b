import TemplateTree.Nodes

namespace TemplateTree

/-- Every node of the expression has a property. -/
def Expr.Every (P : Node → Prop) (e : Expr) : Prop := ∀ n ∈ e.nodes, P n

/-- Every node of the statement has a property. -/
def Stmt.Every (P : Node → Prop) (s : Stmt) : Prop := ∀ n ∈ s.nodes, P n

/-- Every node of the block has a property. -/
def Block.Every (P : Node → Prop) (b : Block) : Prop := ∀ n ∈ b.nodes, P n

variable {P : Node → Prop}

theorem forall_mem_exprNodes {es : List Expr} : (∀ n ∈ exprNodes es, P n) ↔ ∀ e ∈ es, e.Every P := by
  induction es with
  | nil => simp [exprNodes]
  | cons e rest ih =>
    rw [exprNodes, List.forall_mem_append, List.forall_mem_cons, ih]
    rfl

theorem forall_mem_stmtNodes {ss : List Stmt} : (∀ n ∈ stmtNodes ss, P n) ↔ ∀ s ∈ ss, s.Every P := by
  induction ss with
  | nil => simp [stmtNodes]
  | cons s rest ih =>
    rw [stmtNodes, List.forall_mem_append, List.forall_mem_cons, ih]
    rfl

theorem forall_mem_optionalExprNodes {e? : Option Expr} :
    (∀ n ∈ optionalExprNodes e?, P n) ↔ ∀ e, e? = some e → e.Every P := by
  cases e? <;> simp [optionalExprNodes, Expr.Every]

theorem forall_mem_optionalStmtNodes {s? : Option Stmt} :
    (∀ n ∈ optionalStmtNodes s?, P n) ↔ ∀ s, s? = some s → s.Every P := by
  cases s? <;> simp [optionalStmtNodes, Stmt.Every]

theorem forall_mem_optionalBlockNodes {b? : Option Block} :
    (∀ n ∈ optionalBlockNodes b?, P n) ↔ ∀ b, b? = some b → b.Every P := by
  cases b? <;> simp [optionalBlockNodes, Block.Every]

/-- A property of two parts of a walk, one after the other. -/
private theorem forall_mem_append_iff {as bs : List Node} {p q : Prop} (has : (∀ n ∈ as, P n) ↔ p)
    (hbs : (∀ n ∈ bs, P n) ↔ q) : (∀ n ∈ as ++ bs, P n) ↔ p ∧ q := by
  rw [List.forall_mem_append, has, hbs]

/-- A property of a node and of the walk through its parts. -/
private theorem forall_mem_cons_iff {n : Node} {rest : List Node} {p : Prop} (hrest : (∀ n ∈ rest, P n) ↔ p) :
    (∀ m ∈ n :: rest, P m) ↔ P n ∧ p := by
  rw [List.forall_mem_cons, hrest]

namespace Expr

theorem nodes_eq_cons (e : Expr) : e.nodes = .expr e :: e.nodes.tail := by
  cases e <;> rfl

theorem nodes_withHead (e : Expr) (head : Head) :
    (e.withHead head).nodes = .expr (e.withHead head) :: e.nodes.tail := by
  cases e <;> rfl

variable {head : Head} {token : Token}

theorem every_paren {inner : Expr} :
    (paren head inner).Every P ↔ P (.expr (paren head inner)) ∧ inner.Every P :=
  forall_mem_cons_iff Iff.rfl

theorem every_array {listSpan : Span} {elements : List Expr} {associative : Bool} :
    (array head listSpan elements associative).Every P ↔
      P (.expr (array head listSpan elements associative)) ∧ P (.exprList listSpan elements) ∧
        ∀ e ∈ elements, e.Every P :=
  forall_mem_cons_iff (forall_mem_cons_iff forall_mem_exprNodes)

theorem every_call {kind : CallKind} {callee : Callee} {listSpan : Span} {arguments : List Expr}
    {initializer : Option Stmt} {substitution : Option Block} :
    (call head kind callee listSpan arguments initializer substitution).Every P ↔
      P (.expr (call head kind callee listSpan arguments initializer substitution)) ∧
        P (.exprList listSpan arguments) ∧ (∀ e ∈ arguments, e.Every P) ∧
          (∀ s, initializer = some s → s.Every P) ∧ ∀ b, substitution = some b → b.Every P := by
  rw [← and_assoc (c := ∀ b, substitution = some b → b.Every P)]
  exact forall_mem_cons_iff (forall_mem_cons_iff (forall_mem_append_iff
    (forall_mem_append_iff forall_mem_exprNodes forall_mem_optionalStmtNodes) forall_mem_optionalBlockNodes))

theorem every_varRef {ref : VarRef} :
    (varRef head ref).Every P ↔ P (.expr (varRef head ref)) ∧ ∀ n ∈ ref.nodes, P n :=
  forall_mem_cons_iff Iff.rfl

theorem every_property {object : Expr} {name : Name} {reader? : Option Method} :
    (property head object token name reader?).Every P ↔
      P (.expr (property head object token name reader?)) ∧ object.Every P :=
  forall_mem_cons_iff Iff.rfl

theorem every_index {object position : Expr} {reader? : Option Method} :
    (index head object token position reader?).Every P ↔
      P (.expr (index head object token position reader?)) ∧ object.Every P ∧ position.Every P :=
  forall_mem_cons_iff (forall_mem_append_iff Iff.rfl Iff.rfl)

theorem every_unary {op : UnaryOp} {operand : Expr} :
    (unary head op operand).Every P ↔ P (.expr (unary head op operand)) ∧ operand.Every P :=
  forall_mem_cons_iff Iff.rfl

theorem every_binary {op : BinaryOp} {left right : Expr} :
    (binary head op token left right).Every P ↔
      P (.expr (binary head op token left right)) ∧ left.Every P ∧ right.Every P :=
  forall_mem_cons_iff (forall_mem_append_iff Iff.rfl Iff.rfl)

theorem every_compare {left right : Expr} :
    (compare head token left right).Every P ↔
      P (.expr (compare head token left right)) ∧ left.Every P ∧ right.Every P :=
  forall_mem_cons_iff (forall_mem_append_iff Iff.rfl Iff.rfl)

theorem every_isa {operand : Expr} {tested : TypeName} :
    (isa head token operand tested).Every P ↔
      P (.expr (isa head token operand tested)) ∧ operand.Every P ∧ P (.typeName tested) :=
  forall_mem_cons_iff (forall_mem_append_iff Iff.rfl List.forall_mem_singleton)

theorem every_literal {value : Value} : (literal head value).Every P ↔ P (.expr (literal head value)) :=
  List.forall_mem_singleton

end Expr

namespace Stmt

variable {span : Span}

theorem every_empty : (empty span).Every P ↔ P (.stmt (empty span)) := List.forall_mem_singleton

theorem every_list {statements : List Stmt} :
    (list span statements).Every P ↔ P (.stmt (list span statements)) ∧ ∀ s ∈ statements, s.Every P :=
  forall_mem_cons_iff forall_mem_stmtNodes

theorem every_block {b : Block} : (block b).Every P ↔ P (.stmt (block b)) ∧ b.Every P :=
  forall_mem_cons_iff Iff.rfl

theorem every_assign {target : VarRef} {value : Expr} :
    (assign span target value).Every P ↔
      P (.stmt (assign span target value)) ∧ (∀ n ∈ target.nodes, P n) ∧ value.Every P :=
  forall_mem_cons_iff (forall_mem_append_iff Iff.rfl Iff.rfl)

theorem every_breakLoop : (breakLoop span).Every P ↔ P (.stmt (breakLoop span)) := List.forall_mem_singleton

theorem every_forEach {loopVar : VarRef} {range : Expr} {rangeEnd : Option Expr} {reverse : Bool}
    {initializer : Option Stmt} {body : Option Block} :
    (forEach span loopVar range rangeEnd reverse initializer body).Every P ↔
      P (.stmt (forEach span loopVar range rangeEnd reverse initializer body)) ∧
        (∀ n ∈ loopVar.nodes, P n) ∧ range.Every P ∧ (∀ e, rangeEnd = some e → e.Every P) ∧
          (∀ s, initializer = some s → s.Every P) ∧ ∀ b, body = some b → b.Every P := by
  refine Iff.trans (forall_mem_cons_iff (forall_mem_append_iff (forall_mem_append_iff (forall_mem_append_iff
    (forall_mem_append_iff Iff.rfl Iff.rfl) forall_mem_optionalExprNodes) forall_mem_optionalStmtNodes)
    forall_mem_optionalBlockNodes)) ?_
  simp only [and_assoc]
  rfl

theorem every_cond {condition : Expr} {thenPart elsePart : Option Block} {merged : Option (List Variable)} :
    (cond span condition thenPart elsePart merged).Every P ↔
      P (.stmt (cond span condition thenPart elsePart merged)) ∧
        condition.Every P ∧ (∀ b, thenPart = some b → b.Every P) ∧ ∀ b, elsePart = some b → b.Every P := by
  rw [← and_assoc (a := condition.Every P)]
  exact forall_mem_cons_iff (forall_mem_append_iff (forall_mem_append_iff Iff.rfl forall_mem_optionalBlockNodes)
    forall_mem_optionalBlockNodes)

theorem every_substitution : (substitution span).Every P ↔ P (.stmt (substitution span)) := List.forall_mem_singleton

theorem every_eval {e : Expr} : (eval span e).Every P ↔ P (.stmt (eval span e)) ∧ e.Every P :=
  forall_mem_cons_iff Iff.rfl

theorem every_ret {value : Option Expr} :
    (ret span value).Every P ↔ P (.stmt (ret span value)) ∧ ∀ e, value = some e → e.Every P :=
  forall_mem_cons_iff forall_mem_optionalExprNodes

theorem every_guarded {part replacement : Option Stmt} :
    (guarded span part replacement).Every P ↔
      P (.stmt (guarded span part replacement)) ∧ (∀ s, part = some s → s.Every P) ∧
        ∀ s, replacement = some s → s.Every P :=
  forall_mem_cons_iff (forall_mem_append_iff forall_mem_optionalStmtNodes forall_mem_optionalStmtNodes)

end Stmt

theorem Block.every_mk {span : Span} {statements : List Stmt} {initializer finalizer : Option Stmt} :
    (Block.mk span statements initializer finalizer).Every P ↔
      P (.block ⟨span, statements, initializer, finalizer⟩) ∧
        (∀ s, initializer = some s → s.Every P) ∧ (∀ s ∈ statements, s.Every P) ∧
          ∀ s, finalizer = some s → s.Every P := by
  rw [← and_assoc (c := ∀ s, finalizer = some s → s.Every P)]
  exact forall_mem_cons_iff (forall_mem_append_iff
    (forall_mem_append_iff forall_mem_optionalStmtNodes forall_mem_stmtNodes) forall_mem_optionalStmtNodes)

/-- A property that asks nothing of names, variables and the template itself is one of the body. -/
theorem Template.forall_mem_nodes {t : Template} (htemplate : P (.template t)) (hname : ∀ n, P (.name n))
    (hvar : ∀ v, P (.var v)) (htypeName : ∀ n, P (.typeName n)) :
    (∀ n ∈ t.nodes, P n) ↔ ∀ s, t.body = some s → s.Every P := by
  have hparams : ∀ n ∈ t.params.flatMap Variable.nodes, P n := by
    intro n hn
    obtain ⟨v, -, hn⟩ := List.mem_flatMap.1 hn
    obtain rfl | hn := List.mem_cons.1 hn
    · exact hvar v
    · obtain rfl := List.mem_singleton.1 hn
      exact htypeName v.typeName
  rw [nodes, List.forall_mem_cons, List.forall_mem_cons, List.forall_mem_append, forall_mem_optionalStmtNodes]
  exact ⟨fun h => h.2.2.2, fun h => ⟨htemplate, hname t.name, hparams, h⟩⟩

end TemplateTree
