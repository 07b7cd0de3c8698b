import TemplateTree.Proofs.Folding.Rewrite
import TemplateTree.Proofs.Tree.Edit
import TemplateTree.Proofs.Tree.Induction

namespace TemplateTree

namespace Logged

variable {ι α β : Type}

/-- The computation with only the wanted events in its log. -/
def filter (wanted : ι → Bool) (x : Logged ι α) : Logged ι α := ⟨x.events.filter wanted, x.result⟩

variable {wanted : ι → Bool}

@[simp]
theorem filter_pure (a : α) : (pure a : Logged ι α).filter wanted = pure a := rfl

@[simp]
theorem filter_ofExcept (result : Except TreeError α) :
    (ofExcept result : Logged ι α).filter wanted = ofExcept result := rfl

@[simp]
theorem filter_bind (x : Logged ι α) (f : α → Logged ι β) :
    (x >>= f).filter wanted = x.filter wanted >>= fun a => (f a).filter wanted := by
  cases hx : x.result with
  | error error => rw [bind_of_error hx, bind_of_error (x := x.filter wanted) hx, filter, filter]
  | ok a => rw [bind_of_ok hx, bind_of_ok (x := x.filter wanted) hx, filter, filter, List.filter_append, filter]

/-- Only what a computation can go on with matters. -/
theorem bind_congr_of_ok {x : Logged ι α} {f g : α → Logged ι β} (h : ∀ a, x.result = .ok a → f a = g a) :
    x >>= f = x >>= g := by
  cases hx : x.result with
  | error error => rw [bind_of_error hx, bind_of_error hx]
  | ok a => rw [bind_of_ok hx, bind_of_ok hx, h a hx]

theorem filter_keepingTy (e : Expr) (x : Logged ι Expr) :
    (e.keepingTy x).filter wanted = e.keepingTy (x.filter wanted) := by
  rw [Expr.keepingTy, Expr.keepingTy, filter_bind]
  refine bind_congr fun replacement => ?_
  split <;> rfl

end Logged

/-- The rule was not used on parentheses. -/
def Fold.notParen (fold : Fold) : Bool := fold.rule ≠ .paren

/-- Parentheses give way to the expression inside. -/
def Tree.Edit.dropParens : Tree.Edit := { paren := fun _ inner => inner }

/-- The template without any parentheses, at any depth. -/
def Template.withoutParens (t : Template) : Template := t.edit .dropParens

namespace Folding

theorem filter_applied_paren {α : Type} (span : Span) (f : Unit → Folding α) :
    (applied .paren span >>= f).filter Fold.notParen = (f ()).filter Fold.notParen := by
  rw [Logged.filter_bind]
  rfl

theorem filter_applied (rule : Rule) (span : Span) (h : rule ≠ .paren) :
    (applied rule span).filter Fold.notParen = applied rule span := by
  simp [applied, Logged.record, Logged.filter, Fold.notParen, h]

theorem Rewrites.rule_ne_paren {rule : Rule} {node : Expr} {result : Except TreeError Expr}
    (h : Rewrites rule node result) : rule ≠ .paren := by
  cases h <;> decide

/-- What is done to an operator drops no parentheses. -/
theorem filter_orKeep {span : Span} {outcome : Option Outcome} {node : Expr}
    (h : ∀ rule result, outcome = some (rule, result) → Rewrites rule node result) :
    (orKeep span outcome node).filter Fold.notParen = orKeep span outcome node := by
  cases outcome with
  | none => rfl
  | some outcome =>
    obtain ⟨rule, result⟩ := outcome
    have hrule : rule ≠ .paren := (h rule result rfl).rule_ne_paren
    simp only [orKeep, Logged.filter_bind, filter_applied rule span hrule, Logged.filter_ofExcept]

theorem filter_foldList (span : Span) (statements : List Stmt) :
    (Stmt.foldList span statements).filter Fold.notParen = Stmt.foldList span statements := by
  rcases statements with _ | ⟨s, _ | ⟨s', rest⟩⟩ <;> rfl

theorem filter_foldEmpty (b : Block) : b.foldEmpty.filter Fold.notParen = b.foldEmpty := by
  unfold Block.foldEmpty
  split <;> rfl

theorem filter_foldCond (span : Span) (condition : Expr) (thenPart elsePart : Option Block)
    (merged : Option (List Variable)) :
    (Stmt.foldCond span condition thenPart elsePart merged).filter Fold.notParen =
      Stmt.foldCond span condition thenPart elsePart merged := by
  unfold Stmt.foldCond
  split
  · have hinverted := filter_applied .invertedIf span (by decide)
    simp only [Logged.filter_bind, hinverted, Logged.filter_ofExcept, Logged.filter_pure]
  · rfl

end Folding

open TemplateTree.Folding

namespace Expr

/-- The pass does the same to an expression without parentheses, apart from dropping them. -/
def IgnoresParens (e : Expr) : Prop := (e.edit .dropParens).fold = e.fold.filter Fold.notParen

/-- An expression without parentheses is coerced the way it was. -/
theorem IgnoresParens.keepingTy {e : Expr} (h : e.IgnoresParens) :
    (e.edit .dropParens).keepingTy (e.edit .dropParens).fold = (e.keepingTy e.fold).filter Fold.notParen := by
  rw [Logged.filter_keepingTy, h, Expr.keepingTy, Expr.keepingTy, ty?_edit, chain_edit]

end Expr

/-- The pass does the same to a statement without parentheses, apart from dropping them. -/
def Stmt.IgnoresParens (s : Stmt) : Prop := (s.edit .dropParens).fold = s.fold.filter Fold.notParen

/-- The pass does the same to a block without parentheses, apart from dropping them. -/
def Block.IgnoresParens (b : Block) : Prop := (b.edit .dropParens).fold = b.fold.filter Fold.notParen

namespace Folding

theorem foldExprs_dropParens {es : List Expr} (h : ∀ e ∈ es, e.IgnoresParens) :
    foldExprs (editExprs .dropParens es) = (foldExprs es).filter Fold.notParen := by
  induction es with
  | nil => rfl
  | cons e rest ih =>
    rw [List.forall_mem_cons] at h
    simp only [editExprs, foldExprs, Logged.filter_bind, Logged.filter_pure, h.1.keepingTy, ih h.2]

theorem foldOptionalExpr_dropParens {e? : Option Expr} (h : ∀ e, e? = some e → e.IgnoresParens) :
    foldOptionalExpr (editOptionalExpr .dropParens e?) = (foldOptionalExpr e?).filter Fold.notParen := by
  cases e? with
  | none => rfl
  | some e =>
    simp only [editOptionalExpr, foldOptionalExpr, Logged.filter_bind, Logged.filter_pure, (h e rfl).keepingTy]

theorem foldStmts_dropParens {ss : List Stmt} (h : ∀ s ∈ ss, s.IgnoresParens) :
    foldStmts (editStmts .dropParens ss) = (foldStmts ss).filter Fold.notParen := by
  induction ss with
  | nil => rfl
  | cons s rest ih =>
    rw [List.forall_mem_cons] at h
    have hs : (s.edit .dropParens).fold = s.fold.filter Fold.notParen := h.1
    simp only [editStmts, foldStmts, Logged.filter_bind, Logged.filter_pure, hs, ih h.2]

theorem foldOptionalStmt_dropParens {s? : Option Stmt} (h : ∀ s, s? = some s → s.IgnoresParens) :
    foldOptionalStmt (editOptionalStmt .dropParens s?) = (foldOptionalStmt s?).filter Fold.notParen := by
  cases s? with
  | none => rfl
  | some s => exact h s rfl

theorem foldPart_dropParens {b? : Option Block} (h : ∀ b, b? = some b → b.IgnoresParens) :
    foldPart (editOptionalBlock .dropParens b?) = (foldPart b?).filter Fold.notParen := by
  cases b? with
  | none => rfl
  | some b => exact h b rfl

theorem foldOptionalBody_dropParens {b? : Option Block} (h : ∀ b, b? = some b → b.IgnoresParens) :
    foldOptionalBody (editOptionalBlock .dropParens b?) = (foldOptionalBody b?).filter Fold.notParen := by
  cases b? with
  | none => rfl
  | some b =>
    have hb : (b.edit .dropParens).fold = b.fold.filter Fold.notParen := h b rfl
    simp only [editOptionalBlock, foldOptionalBody, Logged.filter_bind, Logged.filter_pure, hb, Block.edit_span]

/-- Parentheses make no difference to the pass, wherever they stand. -/
theorem ignoresParens_cases : Tree.Cases Expr.IgnoresParens Stmt.IgnoresParens Block.IgnoresParens where
  paren {head inner} hinner := by
    rw [Expr.IgnoresParens, Expr.fold, filter_applied_paren]
    exact hinner
  array helements := by
    simp only [Expr.IgnoresParens, Expr.edit, Expr.fold, Logged.filter_bind, Logged.filter_pure,
      foldExprs_dropParens helements]
  call harguments hinitializer hsubstitution := by
    simp only [Expr.IgnoresParens, Expr.edit, Expr.fold, Logged.filter_bind, Logged.filter_pure,
      foldExprs_dropParens harguments, foldOptionalStmt_dropParens hinitializer,
      foldOptionalBody_dropParens hsubstitution]
  varRef := rfl
  property hobject := by
    simp only [Expr.IgnoresParens, Expr.edit, Expr.fold, Logged.filter_bind, Logged.filter_pure, hobject.keepingTy]
  index hobject hposition := by
    simp only [Expr.IgnoresParens, Expr.edit, Expr.fold, Logged.filter_bind, Logged.filter_pure, hobject.keepingTy,
      hposition.keepingTy]
  unary hoperand := by
    simp only [Expr.IgnoresParens, Expr.edit, Expr.fold, Logged.filter_bind, hoperand.keepingTy]
    refine bind_congr fun operand => ?_
    exact (filter_orKeep fun _ _ => unary?_rewrites).symm
  binary hleft hright := by
    simp only [Expr.IgnoresParens, Expr.edit, Expr.fold, Logged.filter_bind, hleft.keepingTy, hright.keepingTy]
    refine bind_congr fun left => bind_congr fun right => ?_
    exact (filter_orKeep fun _ _ => binary?_rewrites).symm
  compare hleft hright := by
    simp only [Expr.IgnoresParens, Expr.edit, Expr.fold, Logged.filter_bind, hleft.keepingTy, hright.keepingTy]
    refine bind_congr fun left => bind_congr fun right => ?_
    exact (filter_orKeep fun _ _ => compare?_rewrites).symm
  isa hoperand := by
    simp only [Expr.IgnoresParens, Expr.edit, Expr.fold, Logged.filter_bind, hoperand.keepingTy]
    refine bind_congr fun operand => Logged.bind_congr_of_ok fun outcome houtcome => ?_
    refine (filter_orKeep fun rule result hrule => ?_).symm
    subst hrule
    exact isa?_rewrites houtcome
  literal := rfl
  empty := rfl
  list {span statements} hstatements := by
    change (Stmt.list span (editStmts .dropParens statements)).fold = _
    simp only [Stmt.fold, Logged.filter_bind, foldStmts_dropParens hstatements, filter_foldList]
  block {b} hblock := by
    have hb : (b.edit .dropParens).fold = b.fold.filter Fold.notParen := hblock
    simp only [Stmt.IgnoresParens, Stmt.edit, Stmt.fold, Logged.filter_bind, Logged.filter_pure, hb]
  assign hvalue := by
    simp only [Stmt.IgnoresParens, Stmt.edit, Stmt.fold, Logged.filter_bind, Logged.filter_pure, hvalue.keepingTy]
  breakLoop := rfl
  forEach hrange hrangeEnd hinitializer hbody := by
    simp only [Stmt.IgnoresParens, Stmt.edit, Stmt.fold, Logged.filter_bind, hrange.keepingTy,
      foldOptionalExpr_dropParens hrangeEnd, foldOptionalStmt_dropParens hinitializer,
      foldOptionalBody_dropParens hbody]
    refine bind_congr fun range => bind_congr fun rangeEnd => bind_congr fun initializer => bind_congr fun body => ?_
    split <;> rfl
  cond {span condition thenPart elsePart merged} hcondition hthen helse := by
    have hconstant := filter_applied .constantIf span (by decide)
    simp only [Stmt.IgnoresParens, Stmt.edit, Stmt.fold, Logged.filter_bind, hcondition.keepingTy]
    refine bind_congr fun condition => ?_
    split
    · simp only [Logged.filter_bind, hconstant, foldPart_dropParens hthen, Logged.filter_pure]
    · simp only [Logged.filter_bind, hconstant, foldPart_dropParens helse, Logged.filter_pure]
    · simp only [Logged.filter_bind, foldPart_dropParens hthen, foldPart_dropParens helse, filter_foldCond,
        Logged.filter_pure]
  substitution := rfl
  eval he := by
    simp only [Stmt.IgnoresParens, Stmt.edit, Stmt.fold, Logged.filter_bind, Logged.filter_pure, he.keepingTy]
  ret hvalue := by
    simp only [Stmt.IgnoresParens, Stmt.edit, Stmt.fold, Logged.filter_bind, Logged.filter_pure,
      foldOptionalExpr_dropParens hvalue]
  guarded hpart hreplacement := by
    simp only [Stmt.IgnoresParens, Stmt.edit, Stmt.fold, Logged.filter_bind, Logged.filter_pure,
      foldOptionalStmt_dropParens hpart, foldOptionalStmt_dropParens hreplacement]
  parts hstatements hinitializer hfinalizer := by
    simp only [Block.IgnoresParens, Block.edit, Block.fold, Logged.filter_bind, foldStmts_dropParens hstatements,
      foldOptionalStmt_dropParens hinitializer, foldOptionalStmt_dropParens hfinalizer, filter_foldEmpty]

end Folding

namespace Template

/-- The pass makes the same of a template and of the template without parentheses: it succeeds on both with
    the same result, or fails on both with the same error. It uses the same rules at the same places in the
    same order, apart from the one that drops parentheses. -/
theorem fold_withoutParens (t : Template) :
    t.withoutParens.fold.result = t.fold.result ∧
      t.withoutParens.fold.events = t.fold.events.filter (·.rule ≠ .paren) := by
  have hbody := foldOptionalStmt_dropParens (ignoresParens_cases.optionalStmt t.body)
  have hfold : t.withoutParens.fold = t.fold.filter Fold.notParen := by
    simp only [fold, withoutParens, edit, Logged.filter_bind, Logged.filter_pure, hbody]
  rw [hfold]
  exact ⟨rfl, rfl⟩

end Template

end TemplateTree
