import TemplateTree.Proofs.Folding.Induction
import TemplateTree.Proofs.Tree.Edit
import TemplateTree.Proofs.Tree.Induction

namespace TemplateTree

namespace Logged

variable {ι α β : Type}

/-- A computation without events goes through steps without events. -/
theorem bind_eq_pure_iff {x : Logged ι α} {f : α → Logged ι β} {b : β} :
    x >>= f = pure b ↔ ∃ a, x = pure a ∧ f a = pure b := by
  constructor
  · intro h
    cases hx : x.result with
    | error error =>
      rw [bind_of_error hx] at h
      cases congrArg result h
    | ok a =>
      rw [bind_of_ok hx] at h
      obtain ⟨hfirst, hsecond⟩ := List.append_eq_nil_iff.1 (congrArg events h)
      refine ⟨a, ?_, ?_⟩
      · calc x = ⟨x.events, x.result⟩ := rfl
          _ = pure a := by rw [hfirst, hx]; rfl
      · calc f a = ⟨(f a).events, (f a).result⟩ := rfl
          _ = pure b := by rw [hsecond, show (f a).result = .ok b from congrArg result h]; rfl
  · rintro ⟨a, rfl, hb⟩
    rw [pure_bind, hb]

theorem pure_inj {a b : α} (h : (pure a : Logged ι α) = pure b) : a = b := Except.ok.inj (congrArg result h)

end Logged

/-- Every list of statements takes the span of its statements, if that is known. -/
def Tree.Edit.joinSpans : Tree.Edit :=
  { list := fun span statements => .list (Stmt.keptSpan span statements) statements }

/-- The template with the span of every list of statements, at any depth, replaced by the union of the spans
    of its statements. A list keeps its span if that union is unknown. -/
def Template.respanned (t : Template) : Template := t.edit .joinSpans

namespace Folding

theorem applied_bind_ne_pure {α : Type} {rule : Rule} {span : Span} {f : Unit → Folding α} {a : α} :
    applied rule span >>= f ≠ pure a := by
  intro h
  obtain ⟨_, hrecord, -⟩ := Logged.bind_eq_pure_iff.1 h
  cases congrArg Logged.events hrecord

theorem orKeep_eq_pure {span : Span} {outcome : Option Outcome} {node e : Expr}
    (h : orKeep span outcome node = pure e) : e = node := by
  cases outcome with
  | none => exact (Logged.pure_inj h).symm
  | some outcome => exact absurd h applied_bind_ne_pure

theorem foldList_eq_pure {span : Span} {statements : List Stmt} {s? : Option Stmt}
    (h : Stmt.foldList span statements = pure s?) : s? = some (.list (Stmt.keptSpan span statements) statements) := by
  rcases statements with _ | ⟨s, _ | ⟨s', rest⟩⟩
  · exact absurd h applied_bind_ne_pure
  · exact absurd h applied_bind_ne_pure
  · exact (Logged.pure_inj h).symm

theorem foldEmpty_eq_pure {b : Block} {b? : Option Block} (h : b.foldEmpty = pure b?) : b? = some b := by
  unfold Block.foldEmpty at h
  split at h
  · exact absurd h applied_bind_ne_pure
  · exact (Logged.pure_inj h).symm

theorem foldCond_eq_pure {span : Span} {condition : Expr} {thenPart elsePart : Option Block}
    {merged : Option (List Variable)} {s : Stmt}
    (h : Stmt.foldCond span condition thenPart elsePart merged = pure s) :
    s = .cond span condition thenPart elsePart merged := by
  unfold Stmt.foldCond at h
  split at h
  · exact absurd h applied_bind_ne_pure
  · exact (Logged.pure_inj h).symm

end Folding

open TemplateTree.Folding

namespace Expr

/-- Without a rule the pass changes only spans of lists in the expression. -/
def StaysSilently (e : Expr) : Prop := ∀ e', e.fold = pure e' → e' = e.edit .joinSpans

/-- What an expression folds to without a rule has the type it had, so nothing is coerced. -/
theorem StaysSilently.keepingTy {e e' : Expr} (he : e.StaysSilently) (h : e.keepingTy e.fold = pure e') :
    e' = e.edit .joinSpans := by
  obtain ⟨d, hd, hkept⟩ := Logged.bind_eq_pure_iff.1 h
  obtain rfl := he d hd
  rw [if_pos (e.ty?_edit .joinSpans)] at hkept
  exact (Logged.pure_inj hkept).symm

end Expr

/-- Without a rule the pass changes only spans of lists in the statement, which does not go away. -/
def Stmt.StaysSilently (s : Stmt) : Prop := ∀ s'?, s.fold = pure s'? → s'? = some (s.edit .joinSpans)

/-- Without a rule the pass changes only spans of lists in the block, which does not go away. -/
def Block.StaysSilently (b : Block) : Prop := ∀ b'?, b.fold = pure b'? → b'? = some (b.edit .joinSpans)

namespace Folding

theorem foldExprs_eq_pure {es es' : List Expr} (hes : ∀ e ∈ es, e.StaysSilently) (h : foldExprs es = pure es') :
    es' = editExprs .joinSpans es := by
  induction es generalizing es' with
  | nil => exact (Logged.pure_inj h).symm
  | cons e rest ih =>
    rw [List.forall_mem_cons] at hes
    rw [foldExprs] at h
    obtain ⟨e', he, h⟩ := Logged.bind_eq_pure_iff.1 h
    obtain ⟨rest', hrest, h⟩ := Logged.bind_eq_pure_iff.1 h
    rw [← Logged.pure_inj h, hes.1.keepingTy he, ih hes.2 hrest, editExprs]

theorem foldOptionalExpr_eq_pure {e? e'? : Option Expr} (he? : ∀ e, e? = some e → e.StaysSilently)
    (h : foldOptionalExpr e? = pure e'?) : e'? = editOptionalExpr .joinSpans e? := by
  cases e? with
  | none => exact (Logged.pure_inj h).symm
  | some e =>
    rw [foldOptionalExpr] at h
    obtain ⟨e', he, h⟩ := Logged.bind_eq_pure_iff.1 h
    rw [← Logged.pure_inj h, (he? e rfl).keepingTy he, editOptionalExpr]

theorem foldStmts_eq_pure {ss ss' : List Stmt} (hss : ∀ s ∈ ss, s.StaysSilently) (h : foldStmts ss = pure ss') :
    ss' = editStmts .joinSpans ss := by
  induction ss generalizing ss' with
  | nil => exact (Logged.pure_inj h).symm
  | cons s rest ih =>
    rw [List.forall_mem_cons] at hss
    rw [foldStmts] at h
    obtain ⟨s'?, hs, h⟩ := Logged.bind_eq_pure_iff.1 h
    obtain ⟨rest', hrest, h⟩ := Logged.bind_eq_pure_iff.1 h
    rw [← Logged.pure_inj h, hss.1 s'? hs, ih hss.2 hrest, editStmts]

theorem foldOptionalStmt_eq_pure {s? s'? : Option Stmt} (hs? : ∀ s, s? = some s → s.StaysSilently)
    (h : foldOptionalStmt s? = pure s'?) : s'? = editOptionalStmt .joinSpans s? := by
  cases s? with
  | none => exact (Logged.pure_inj h).symm
  | some s => exact hs? s rfl s'? h

theorem foldPart_eq_pure {b? b'? : Option Block} (hb? : ∀ b, b? = some b → b.StaysSilently)
    (h : foldPart b? = pure b'?) : b'? = editOptionalBlock .joinSpans b? := by
  cases b? with
  | none => exact (Logged.pure_inj h).symm
  | some b => exact hb? b rfl b'? h

theorem foldOptionalBody_eq_pure {b? b'? : Option Block} (hb? : ∀ b, b? = some b → b.StaysSilently)
    (h : foldOptionalBody b? = pure b'?) : b'? = editOptionalBlock .joinSpans b? := by
  cases b? with
  | none => exact (Logged.pure_inj h).symm
  | some b =>
    rw [foldOptionalBody] at h
    obtain ⟨left?, hb, h⟩ := Logged.bind_eq_pure_iff.1 h
    rw [← Logged.pure_inj h, hb? b rfl left? hb, Option.getD_some, editOptionalBlock]

/-- Without a rule the pass changes only spans of lists, at any node. -/
theorem staysSilently_cases : Tree.Cases Expr.StaysSilently Stmt.StaysSilently Block.StaysSilently where
  paren _ e' h := by
    rw [Expr.fold] at h
    exact absurd h applied_bind_ne_pure
  array helements e' h := by
    rw [Expr.fold] at h
    obtain ⟨elements', hfold, h⟩ := Logged.bind_eq_pure_iff.1 h
    rw [← Logged.pure_inj h, foldExprs_eq_pure helements hfold, Expr.edit]
  call harguments hinitializer hsubstitution e' h := by
    rw [Expr.fold] at h
    obtain ⟨arguments', hpassed, h⟩ := Logged.bind_eq_pure_iff.1 h
    obtain ⟨initializer', hbefore, h⟩ := Logged.bind_eq_pure_iff.1 h
    obtain ⟨substitution', hblock, h⟩ := Logged.bind_eq_pure_iff.1 h
    rw [← Logged.pure_inj h, foldExprs_eq_pure harguments hpassed, foldOptionalStmt_eq_pure hinitializer hbefore,
      foldOptionalBody_eq_pure hsubstitution hblock, Expr.edit]
  varRef e' h := by
    rw [Expr.fold] at h
    exact (Logged.pure_inj h).symm
  property hobject e' h := by
    rw [Expr.fold] at h
    obtain ⟨object', hfold, h⟩ := Logged.bind_eq_pure_iff.1 h
    rw [← Logged.pure_inj h, hobject.keepingTy hfold, Expr.edit]
  index hobject hposition e' h := by
    rw [Expr.fold] at h
    obtain ⟨object', hfirst, h⟩ := Logged.bind_eq_pure_iff.1 h
    obtain ⟨position', hsecond, h⟩ := Logged.bind_eq_pure_iff.1 h
    rw [← Logged.pure_inj h, hobject.keepingTy hfirst, hposition.keepingTy hsecond, Expr.edit]
  unary hoperand e' h := by
    rw [Expr.fold] at h
    obtain ⟨operand', hfold, h⟩ := Logged.bind_eq_pure_iff.1 h
    rw [orKeep_eq_pure h, hoperand.keepingTy hfold, Expr.edit]
  binary hleft hright e' h := by
    rw [Expr.fold] at h
    obtain ⟨left', hfirst, h⟩ := Logged.bind_eq_pure_iff.1 h
    obtain ⟨right', hsecond, h⟩ := Logged.bind_eq_pure_iff.1 h
    rw [orKeep_eq_pure h, hleft.keepingTy hfirst, hright.keepingTy hsecond, Expr.edit]
  compare hleft hright e' h := by
    rw [Expr.fold] at h
    obtain ⟨left', hfirst, h⟩ := Logged.bind_eq_pure_iff.1 h
    obtain ⟨right', hsecond, h⟩ := Logged.bind_eq_pure_iff.1 h
    rw [orKeep_eq_pure h, hleft.keepingTy hfirst, hright.keepingTy hsecond, Expr.edit]
  isa hoperand e' h := by
    rw [Expr.fold] at h
    obtain ⟨operand', hfold, h⟩ := Logged.bind_eq_pure_iff.1 h
    obtain ⟨outcome, -, h⟩ := Logged.bind_eq_pure_iff.1 h
    rw [orKeep_eq_pure h, hoperand.keepingTy hfold, Expr.edit]
  literal e' h := by
    rw [Expr.fold] at h
    exact (Logged.pure_inj h).symm
  empty s'? h := by
    rw [Stmt.fold] at h
    exact absurd h applied_bind_ne_pure
  list hstatements s'? h := by
    rw [Stmt.fold] at h
    obtain ⟨statements', hfold, h⟩ := Logged.bind_eq_pure_iff.1 h
    rw [foldList_eq_pure h, foldStmts_eq_pure hstatements hfold, Stmt.edit, Tree.Edit.joinSpans]
  block hblock s'? h := by
    rw [Stmt.fold] at h
    obtain ⟨b'?, hfold, h⟩ := Logged.bind_eq_pure_iff.1 h
    rw [← Logged.pure_inj h, hblock b'? hfold, Option.map_some, Stmt.edit]
  assign hvalue s'? h := by
    rw [Stmt.fold] at h
    obtain ⟨value', hfold, h⟩ := Logged.bind_eq_pure_iff.1 h
    rw [← Logged.pure_inj h, hvalue.keepingTy hfold, Stmt.edit]
  breakLoop s'? h := by
    rw [Stmt.fold] at h
    exact (Logged.pure_inj h).symm
  forEach hrange hrangeEnd hinitializer hbody s'? h := by
    rw [Stmt.fold] at h
    obtain ⟨range', hfirst, h⟩ := Logged.bind_eq_pure_iff.1 h
    obtain ⟨rangeEnd', hlast, h⟩ := Logged.bind_eq_pure_iff.1 h
    obtain ⟨initializer', hbefore, h⟩ := Logged.bind_eq_pure_iff.1 h
    obtain ⟨body', hblock, h⟩ := Logged.bind_eq_pure_iff.1 h
    split at h
    · exact absurd h applied_bind_ne_pure
    · rw [← Logged.pure_inj h, hrange.keepingTy hfirst, foldOptionalExpr_eq_pure hrangeEnd hlast,
        foldOptionalStmt_eq_pure hinitializer hbefore, foldOptionalBody_eq_pure hbody hblock, Stmt.edit]
  cond hcondition hthen helse s'? h := by
    rw [Stmt.fold] at h
    obtain ⟨condition', hfold, h⟩ := Logged.bind_eq_pure_iff.1 h
    split at h
    · exact absurd h applied_bind_ne_pure
    · exact absurd h applied_bind_ne_pure
    · obtain ⟨thenPart', hfirst, h⟩ := Logged.bind_eq_pure_iff.1 h
      obtain ⟨elsePart', hsecond, h⟩ := Logged.bind_eq_pure_iff.1 h
      obtain ⟨s', hcond, h⟩ := Logged.bind_eq_pure_iff.1 h
      rw [← Logged.pure_inj h, foldCond_eq_pure hcond, hcondition.keepingTy hfold, foldPart_eq_pure hthen hfirst,
        foldPart_eq_pure helse hsecond, Stmt.edit]
  substitution s'? h := by
    rw [Stmt.fold] at h
    exact (Logged.pure_inj h).symm
  eval he s'? h := by
    rw [Stmt.fold] at h
    obtain ⟨e', hfold, h⟩ := Logged.bind_eq_pure_iff.1 h
    rw [← Logged.pure_inj h, he.keepingTy hfold, Stmt.edit]
  ret hvalue s'? h := by
    rw [Stmt.fold] at h
    obtain ⟨value', hfold, h⟩ := Logged.bind_eq_pure_iff.1 h
    rw [← Logged.pure_inj h, foldOptionalExpr_eq_pure hvalue hfold, Stmt.edit]
  guarded hpart hreplacement s'? h := by
    rw [Stmt.fold] at h
    obtain ⟨part', hfirst, h⟩ := Logged.bind_eq_pure_iff.1 h
    obtain ⟨replacement', hsecond, h⟩ := Logged.bind_eq_pure_iff.1 h
    rw [← Logged.pure_inj h, foldOptionalStmt_eq_pure hpart hfirst, foldOptionalStmt_eq_pure hreplacement hsecond,
      Stmt.edit]
  parts hstatements hinitializer hfinalizer b'? h := by
    rw [Block.fold] at h
    obtain ⟨initializer', hfirst, h⟩ := Logged.bind_eq_pure_iff.1 h
    obtain ⟨statements', hsecond, h⟩ := Logged.bind_eq_pure_iff.1 h
    obtain ⟨finalizer', hthird, h⟩ := Logged.bind_eq_pure_iff.1 h
    rw [foldEmpty_eq_pure h, foldOptionalStmt_eq_pure hinitializer hfirst, foldStmts_eq_pure hstatements hsecond,
      foldOptionalStmt_eq_pure hfinalizer hthird, Block.edit]

end Folding

namespace Template

/-- A pass that succeeds without using a rule returns the template as it was, except that the span of a list
    of statements has become the union of the spans of its statements. -/
theorem fold_eq_respanned_of_events_eq_nil {t t' : Template} (h : t.fold.result = .ok t')
    (hevents : t.fold.events = []) :
    t' = t.respanned := by
  have hpure : t.fold = pure t' := by
    calc t.fold = ⟨t.fold.events, t.fold.result⟩ := rfl
      _ = pure t' := by rw [hevents, h]; rfl
  rw [fold] at hpure
  obtain ⟨body', hbody, hpure⟩ := Logged.bind_eq_pure_iff.1 hpure
  rw [← Logged.pure_inj hpure, foldOptionalStmt_eq_pure (staysSilently_cases.optionalStmt t.body) hbody, respanned,
    edit]

/-- A template in which no rule applies: a list of two statements, the second of which calls a template without
    a type and passes a list of two statements to it. -/
def paragraphs : Template :=
  let inner : Stmt := .list ⟨2, 0, 4⟩ [.substitution ⟨2, 6, 9⟩, .substitution ⟨3, 12, 15⟩]
  let call : Expr := .call (.untyped ⟨1, 4, 8⟩) .template ⟨⟨⟨1, 4, 8⟩, "show"⟩, true, none⟩ ⟨1, 4, 8⟩ [] none
    (some (.wrap inner))
  { span := ⟨1, 0, 20⟩, name := ⟨⟨1, 0, 4⟩, "paragraphs"⟩, params := [], takesSubstitution := true, returnTy := none,
    body := some (.list ⟨1, 0, 4⟩ [.substitution ⟨1, 0, 3⟩, .eval ⟨1, 4, 16⟩ call]) }

theorem paragraphs_fold_eq_respanned :
    paragraphs.body.map Stmt.span = some ⟨1, 0, 4⟩ ∧
      ∃ t', paragraphs.fold.result = .ok t' ∧ paragraphs.fold.events = [] ∧ t' = paragraphs.respanned ∧
        t'.body.map Stmt.span = some ⟨1, 0, 16⟩ :=
  ⟨rfl, _, rfl, rfl, fold_eq_respanned_of_events_eq_nil rfl rfl, rfl⟩

end Template

end TemplateTree
