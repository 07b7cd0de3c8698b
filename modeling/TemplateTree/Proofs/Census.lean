import Mathlib.Data.List.Basic
import TemplateTree.Census
import TemplateTree.Proofs.Visit

namespace TemplateTree

namespace Node

def countsAsStatement : Node → Bool
  | block _ => true
  | stmt (.block _) => false
  | stmt _ => true
  | _ => false

def countsAsExpression : Node → Bool
  | expr _ => true
  | _ => false

def countsAsLiteral : Node → Bool
  | expr e => e.isLiteral
  | _ => false

end Node

namespace Census

/-- The counts of a list of nodes. -/
def ofNodes (nodes : List Node) : Census :=
  ⟨nodes.countP Node.countsAsStatement, nodes.countP Node.countsAsExpression, nodes.countP Node.countsAsLiteral⟩

/-- Counts one more node. -/
def count (census : Census) (n : Node) : Census :=
  ⟨census.statements + n.countsAsStatement.toNat, census.expressions + n.countsAsExpression.toNat,
    census.literals + n.countsAsLiteral.toNat⟩

theorem foldl_count (census : Census) (nodes : List Node) :
    nodes.foldl count census =
      ⟨census.statements + (ofNodes nodes).statements, census.expressions + (ofNodes nodes).expressions,
        census.literals + (ofNodes nodes).literals⟩ := by
  induction nodes generalizing census with
  | nil => rfl
  | cons n rest ih =>
    have htoNat (b : Bool) : b.toNat = if b then 1 else 0 := by cases b <;> rfl
    rw [List.foldl_cons, ih]
    simp only [count, ofNodes, List.countP_cons, htoNat, mk.injEq]
    omega

theorem meets_counter : counter.Meets count where
  template _ _ _ := rfl
  name _ _ := rfl
  typeName _ _ := rfl
  var _ _ _ := rfl
  varRef _ _ _ _ := rfl
  exprList _ _ _ _ := rfl
  stmt s _ _ := by cases s <;> rfl
  block _ _ _ := rfl
  expr e walk census := by
    have hliteral : (if e.isLiteral then census.literals + 1 else census.literals) =
        census.literals + e.isLiteral.toNat := by
      cases e.isLiteral <;> rfl
    have hstep : census.count (.expr e) = ⟨census.statements, census.expressions + 1,
        if e.isLiteral then census.literals + 1 else census.literals⟩ := by
      rw [hliteral]
      rfl
    rw [hstep]
    cases e <;> rfl

end Census

namespace Node

/-- The node is one of those that make up the total of a census. -/
def isCounted (n : Node) : Bool := n.countsAsStatement || n.countsAsExpression

/-- The node is a conditional with a second part but no first one. -/
def isElseOnly : Node → Bool
  | stmt (.cond _ _ none (some _) _) => true
  | _ => false

/-- The number of statements and expressions among the nodes. -/
def size (nodes : List Node) : Nat := nodes.countP isCounted

/-- The number of conditionals among the nodes that have a second part but no first one. -/
def elseOnly (nodes : List Node) : Nat := nodes.countP isElseOnly

theorem size_append (ns ms : List Node) : size (ns ++ ms) = size ns + size ms := List.countP_append

theorem elseOnly_append (ns ms : List Node) : elseOnly (ns ++ ms) = elseOnly ns + elseOnly ms := List.countP_append

/-- No node counts both as a statement and as an expression. -/
theorem total_ofNodes (nodes : List Node) : (Census.ofNodes nodes).total = size nodes := by
  rw [Census.total, Census.ofNodes, size]
  induction nodes with
  | nil => rfl
  | cons n rest ih =>
    have hone : (if n.countsAsStatement then 1 else 0) + (if n.countsAsExpression then 1 else 0) =
        if n.isCounted then 1 else 0 := by
      cases n with
      | stmt s => cases s <;> rfl
      | _ => rfl
    simp only [List.countP_cons] at ih ⊢
    omega

theorem size_expr_cons (e : Expr) (ns : List Node) : size (.expr e :: ns) = size ns + 1 :=
  List.countP_cons_of_pos rfl

theorem size_exprList_cons (span : Span) (es : List Expr) (ns : List Node) :
    size (.exprList span es :: ns) = size ns :=
  List.countP_cons_of_neg Bool.false_ne_true

theorem size_block_cons (b : Block) (ns : List Node) : size (.block b :: ns) = size ns + 1 :=
  List.countP_cons_of_pos rfl

theorem size_stmt_cons {s : Stmt} (h : (Node.stmt s).isCounted = true) (ns : List Node) :
    size (.stmt s :: ns) = size ns + 1 :=
  List.countP_cons_of_pos h

end Node

theorem Block.nodes_eq_cons (b : Block) : b.nodes = .block b :: b.nodes.tail := by
  cases b
  rfl

namespace Template

/-- The number of conditionals in the template that have a second part but no first one. -/
def elseOnly (t : Template) : Nat := Node.elseOnly t.nodes

/-- Of a template only the body counts where names and variables do not. -/
private theorem countP_nodes {p : Node → Bool} (t : Template) (htemplate : p (.template t) = false)
    (hname : ∀ n, p (.name n) = false) (hvar : ∀ v, p (.var v) = false) (htypeName : ∀ n, p (.typeName n) = false) :
    t.nodes.countP p = (optionalStmtNodes t.body).countP p := by
  have hparams : (t.params.flatMap Variable.nodes).countP p = 0 := by
    rw [List.countP_eq_zero]
    intro n hn
    obtain ⟨v, -, hn⟩ := List.mem_flatMap.1 hn
    obtain rfl | hn := List.mem_cons.1 hn
    · simp [hvar]
    · obtain rfl := List.mem_singleton.1 hn
      simp [htypeName]
  rw [nodes, List.countP_cons_of_neg (by simp [htemplate]), List.countP_cons_of_neg (by simp [hname]),
    List.countP_append, hparams, Nat.zero_add]

/-- The walk counts every node once. -/
theorem census_eq_ofNodes (t : Template) : t.census = .ofNodes t.nodes := by
  rw [census, Census.meets_counter.visit_eq_foldl, Census.foldl_count]
  simp [Census.zero]

theorem total_census (t : Template) : t.census.total = Node.size (optionalStmtNodes t.body) := by
  rw [census_eq_ofNodes, Node.total_ofNodes]
  exact t.countP_nodes rfl (fun _ => rfl) (fun _ => rfl) (fun _ => rfl)

theorem elseOnly_eq (t : Template) : t.elseOnly = Node.elseOnly (optionalStmtNodes t.body) := by
  rw [elseOnly, Node.elseOnly]
  exact t.countP_nodes rfl (fun _ => rfl) (fun _ => rfl) (fun _ => rfl)

end Template

end TemplateTree
