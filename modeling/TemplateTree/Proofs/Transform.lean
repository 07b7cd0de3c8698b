import Mathlib.Tactic.Simps.Basic
import TemplateTree.Nodes
import TemplateTree.Proofs.Tree.Induction
import TemplateTree.Transform

namespace TemplateTree

/-- Records some events. -/
def Logged.recordAll {ι : Type} (events : List ι) : Logged ι Unit := ⟨events, .ok ()⟩

namespace Transformer

variable {ι : Type}

/-- The transformer that rebuilds every node. -/
@[simps]
def rebuilding : Transformer ι := {}

/-- The transformer that writes something down at each node and then does what `r` does. -/
@[simps]
def noting (note : Node → List ι) (r : Transformer ι) : Transformer ι where
  template t rebuilt := do
    .recordAll (note (.template t))
    r.template t rebuilt
  name n := do
    .recordAll (note (.name n))
    r.name n
  typeName n := do
    .recordAll (note (.typeName n))
    r.typeName n
  var v rebuilt := do
    .recordAll (note (.var v))
    r.var v rebuilt
  varRef ref rebuilt := do
    .recordAll (note (.varRef ref))
    r.varRef ref rebuilt
  exprList span expressions rebuilt := do
    .recordAll (note (.exprList span expressions))
    r.exprList span expressions rebuilt
  stmt s rebuilt := do
    .recordAll (note (.stmt s))
    r.stmt s rebuilt
  block b rebuilt := do
    .recordAll (note (.block b))
    r.block b rebuilt
  expr e rebuilt := do
    .recordAll (note (.expr e))
    r.expr e rebuilt

/-- Writing nothing down makes no difference. -/
theorem noting_nothing (r : Transformer ι) : r.noting (fun _ => []) = r := rfl

end Transformer

namespace Logged

variable {ι α β : Type}

/-- The computation that writes something down at each node of a walk and gives back a value. -/
def noted (note : Node → List ι) (nodes : List Node) (a : α) : Logged ι α := ⟨nodes.flatMap note, .ok a⟩

variable {note : Node → List ι}

theorem noted_bind (ns : List Node) (a : α) (f : α → Logged ι β) :
    noted note ns a >>= f = ⟨ns.flatMap note ++ (f a).events, (f a).result⟩ := rfl

/-- What is written down on the way adds up. -/
theorem noted_bind_noted (ns : List Node) (a : α) (ms : α → List Node) (f : α → β) :
    (noted note ns a >>= fun a => noted note (ms a) (f a)) = noted note (ns ++ ms a) (f a) := by
  rw [noted_bind, noted, noted, List.flatMap_append]

theorem map_noted (ns : List Node) (a : α) (f : α → β) : f <$> noted note ns a = noted note ns (f a) := by
  rw [← bind_pure_comp, noted_bind, pure_events, List.append_nil]
  rfl

theorem noted_nothing (ns : List Node) (a : α) : noted (fun _ => []) ns a = (pure a : Logged ι α) := by
  rw [noted, List.flatMap_eq_nil_iff.2 fun _ _ => rfl]
  rfl

theorem recordAll_eq_noted (n : Node) : recordAll (note n) = noted note [n] () := by
  simp [recordAll, noted]

end Logged

namespace Expr

variable {ι : Type} {note : Node → List ι}

/-- An expression that is given back keeps its type, so no conversion is repeated. -/
theorem keepingTy_noted (ns : List Node) (e : Expr) : e.keepingTy (.noted note ns e) = .noted note ns e := by
  unfold keepingTy
  rw [Logged.noted_bind, if_pos rfl, Logged.pure_events, List.append_nil]
  rfl

end Expr

namespace Transformer

variable {ι : Type} {note : Node → List ι}

attribute [local simp] transformExpr transformExprs transformOptionalExpr transformStmt transformStmts
  transformOptionalStmt transformBlock transformOptionalBody Expr.nodes exprNodes optionalExprNodes Stmt.nodes
  stmtNodes optionalStmtNodes Block.nodes optionalBlockNodes Logged.noted_bind_noted Logged.map_noted
  Logged.recordAll_eq_noted Expr.keepingTy_noted

theorem noting_transformVar (v : Variable) : (rebuilding.noting note).transformVar v = .noted note v.nodes v := by
  simp [transformVar, Variable.nodes]

theorem noting_transformVars (vs : List Variable) :
    (rebuilding.noting note).transformVars vs = .noted note (vs.flatMap Variable.nodes) vs := by
  induction vs with
  | nil => rfl
  | cons v rest ih => simp [transformVars, noting_transformVar, ih]

theorem noting_transformVarRef (ref : VarRef) :
    (rebuilding.noting note).transformVarRef ref = .noted note ref.nodes ref := by
  obtain ⟨name, _ | v⟩ := ref
  · simp [transformVarRef, VarRef.nodes]
  · simp [transformVarRef, noting_transformVar, VarRef.nodes]

section

variable (note)

/-- The expression is given back, and what is written down on the way is the walk through it. -/
abbrev GivesBackExpr (e : Expr) : Prop := (rebuilding.noting note).transformExpr e = .noted note e.nodes e

abbrev GivesBackStmt (s : Stmt) : Prop := (rebuilding.noting note).transformStmt s = .noted note s.nodes (some s)

/-- The block is given back as a block, so it is not wrapped again where it must stay one. -/
abbrev GivesBackBlock (b : Block) : Prop :=
  (rebuilding.noting note).transformBlock b = .noted note b.nodes (some (.block b))

end

attribute [local simp] GivesBackExpr GivesBackStmt GivesBackBlock

theorem noting_transformExprs {es : List Expr} (h : ∀ e ∈ es, GivesBackExpr note e) :
    (rebuilding.noting note).transformExprs es = .noted note (exprNodes es) es := by
  induction es with
  | nil => rfl
  | cons e rest ih =>
    obtain ⟨hfirst, hrest⟩ := List.forall_mem_cons.1 h
    simp [hfirst, ih hrest]

theorem noting_transformStmts {ss : List Stmt} (h : ∀ s ∈ ss, GivesBackStmt note s) :
    (rebuilding.noting note).transformStmts ss = .noted note (stmtNodes ss) ss := by
  induction ss with
  | nil => rfl
  | cons s rest ih =>
    obtain ⟨hfirst, hrest⟩ := List.forall_mem_cons.1 h
    simp [hfirst, ih hrest]

theorem noting_transformOptionalExpr {e? : Option Expr} (h : ∀ e, e? = some e → GivesBackExpr note e) :
    (rebuilding.noting note).transformOptionalExpr e? = .noted note (optionalExprNodes e?) e? := by
  cases e? with
  | none => rfl
  | some e => simp [h e rfl]

theorem noting_transformOptionalStmt {s? : Option Stmt} (h : ∀ s, s? = some s → GivesBackStmt note s) :
    (rebuilding.noting note).transformOptionalStmt s? = .noted note (optionalStmtNodes s?) s? := by
  cases s? with
  | none => rfl
  | some s => simp [h s rfl]

theorem noting_transformOptionalBody {b? : Option Block} (h : ∀ b, b? = some b → GivesBackBlock note b) :
    (rebuilding.noting note).transformOptionalBody b? = .noted note (optionalBlockNodes b?) b? := by
  cases b? with
  | none => rfl
  | some b => simp [h b rfl, Block.replacedBy]

/-- One case for each kind of node: its parts are given back, so it is rebuilt as it was. -/
theorem givesBack_cases (note : Node → List ι) :
    Tree.Cases (GivesBackExpr note) (GivesBackStmt note) (GivesBackBlock note) where
  paren hinner := by simp [hinner]
  array helements := by simp [noting_transformExprs helements]
  call harguments hinitializer hsubstitution := by
    simp [noting_transformExprs harguments, noting_transformOptionalStmt hinitializer,
      noting_transformOptionalBody hsubstitution]
  varRef := by simp [noting_transformVarRef]
  property hobject := by simp [hobject]
  index hobject hposition := by simp [hobject, hposition]
  unary hoperand := by simp [hoperand]
  binary hleft hright := by simp [hleft, hright]
  compare hleft hright := by simp [hleft, hright]
  isa hoperand := by simp [hoperand]
  literal := by simp
  empty := by simp
  list hstatements := by simp [noting_transformStmts hstatements]
  block hblock := by simp [hblock]
  assign hvalue := by simp [noting_transformVarRef, hvalue]
  breakLoop := by simp
  forEach hrange hrangeEnd hinitializer hbody := by
    simp [noting_transformVarRef, hrange, noting_transformOptionalExpr hrangeEnd,
      noting_transformOptionalStmt hinitializer, noting_transformOptionalBody hbody]
  cond hcondition hthen helse := by
    simp [hcondition, noting_transformOptionalBody hthen, noting_transformOptionalBody helse]
  substitution := by simp
  eval he := by simp [he]
  ret hvalue := by simp [noting_transformOptionalExpr hvalue]
  guarded hpart hreplacement := by
    simp [noting_transformOptionalStmt hpart, noting_transformOptionalStmt hreplacement]
  parts hstatements hinitializer hfinalizer := by
    simp [noting_transformStmts hstatements, noting_transformOptionalStmt hinitializer,
      noting_transformOptionalStmt hfinalizer]

/-- A template in which every node is rebuilt is given back, and what is written down is the walk. -/
theorem noting_transform (note : Node → List ι) (t : Template) :
    (rebuilding.noting note).transform t = .noted note t.nodes t := by
  have hbody := noting_transformOptionalStmt ((givesBack_cases note).optionalStmt t.body)
  simp [transform, noting_transformVars, hbody, Template.nodes]

/-- By default a template is given back as it is, without an error and without an event. Nor does anything
    happen on the way: an expression is replaced by itself, so that it has its type and no conversion is
    repeated, and a block by itself, so that it is not wrapped. -/
theorem transform_default (t : Template) :
    ({} : Transformer ι).transform t = pure t ∧ (∀ e : Expr, ({} : Transformer ι).transformExpr e = pure e) ∧
      ∀ b : Block, ({} : Transformer ι).transformBlock b = pure (some (.block b)) := by
  have hnothing : ({} : Transformer ι) = rebuilding.noting fun _ => [] := (noting_nothing rebuilding).symm
  rw [hnothing]
  refine ⟨?_, fun e => ?_, fun b => ?_⟩
  · rw [noting_transform, Logged.noted_nothing]
  · rw [(givesBack_cases _).expr e, Logged.noted_nothing]
  · rw [(givesBack_cases _).ofBlock b, Logged.noted_nothing]

/-- A transformer that writes something down at each node and then does what is done by default gets through
    the whole template, and its log is that of a reader who writes down the same on the walk. -/
theorem events_transform_noting (note : Node → List ι) (t : Template) :
    ((({} : Transformer ι).noting note).transform t).events = t.nodes.flatMap note ∧
      ((({} : Transformer ι).noting note).transform t).result = .ok t := by
  have htransform : (({} : Transformer ι).noting note).transform t = .noted note t.nodes t := noting_transform note t
  rw [htransform]
  exact ⟨rfl, rfl⟩

end Transformer

end TemplateTree
