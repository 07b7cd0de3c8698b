import TemplateTree.Proofs.Folding.Every
import TemplateTree.Proofs.Span

namespace TemplateTree

open TemplateTree.Folding

namespace Stmt

/-- A list that is kept and holds a statement whose span is known takes the union of its spans. -/
theorem keptSpan_eq_join (span : Span) {statements : List Stmt} {s : Stmt} (hs : s ∈ statements)
    (hknown : s.span ≠ .unknown) : keptSpan span statements = Span.join (statements.map Stmt.span) := by
  have hjoin : Span.join (statements.map Stmt.span) ≠ .unknown :=
    fun h => hknown (Span.join_eq_unknown_iff.1 h s.span (List.mem_map_of_mem hs))
  rw [keptSpan, if_neg (by simpa using hjoin)]

theorem join_covers {statements : List Stmt} {s : Stmt} (hs : s ∈ statements) (hknown : s.span ≠ .unknown) :
    (Span.join (statements.map Stmt.span)).Covers s.span := by
  have hmem : s.span ∈ statements.map Stmt.span := List.mem_map_of_mem hs
  exact (Span.hull_join ⟨s.span, hmem, hknown⟩).covers s.span hmem hknown

end Stmt

/-- The node has a property if it is a list of statements. -/
def Node.IfList (p : Span → List Stmt → Prop) : Node → Prop
  | .stmt (.list span statements) => p span statements
  | _ => True

variable {p : Span → List Stmt → Prop}

theorem VarRef.ifList_nodes (ref : VarRef) : ∀ n ∈ ref.nodes, n.IfList p := by
  obtain ⟨name, _ | v⟩ := ref <;> simp [VarRef.nodes, Variable.nodes, Node.IfList]

/-- Every list of statements in the expression has a property. -/
def Expr.EveryList (p : Span → List Stmt → Prop) (e : Expr) : Prop := e.Every (Node.IfList p)

/-- Every list of statements in the statement has a property, the statement itself included. -/
def Stmt.EveryList (p : Span → List Stmt → Prop) (s : Stmt) : Prop := s.Every (Node.IfList p)

/-- Every list of statements in the block has a property. -/
def Block.EveryList (p : Span → List Stmt → Prop) (b : Block) : Prop := b.Every (Node.IfList p)

namespace Folding

/-- No node but a list has to be looked at, and a coercion reaches no statement. -/
theorem ifList_nodeCases (hlist : ∀ span statements, p (Stmt.keptSpan span statements) statements) :
    NodeCases (fun _ => True) (Node.IfList p) where
  rebuilt hrebuilt _ := by
    cases hrebuilt with
    | ofRef hn => exact VarRef.ifList_nodes _ _ hn
    | _ => trivial
  made hmade := by
    cases hmade with
    | list => exact hlist _ _
    | _ => trivial
  coerced hcoerced :=
    hcoerced.every (fun _ _ => trivial) (fun _ _ => trivial) (fun _ => trivial) (fun _ => trivial)

/-- A property of the lists that the pass makes is one of all lists in what it leaves. -/
theorem everyList_cases (hlist : ∀ span statements, p (Stmt.keptSpan span statements) statements) :
    Cases (fun e d => e.Every (fun _ => True) → d.EveryList p)
      (Gives (Stmt.Every fun _ => True) (Stmt.EveryList p))
      (Gives (Block.Every fun _ => True) fun b => b.EveryList p ∧ b.isEmpty = false) :=
  (ifList_nodeCases hlist).toCases

end Folding

/-- A property of the lists that the pass makes is one of all lists in a folded template. -/
theorem Template.fold_lists (hlist : ∀ span statements, p (Stmt.keptSpan span statements) statements)
    {t t' : Template} (h : t.fold.result = .ok t') {span : Span} {statements : List Stmt}
    (hmem : .stmt (.list span statements) ∈ t'.nodes) : p span statements := by
  obtain ⟨hbody, -⟩ := (everyList_cases hlist).template h
  have hevery : ∀ s, t'.body = some s → s.EveryList p := forall_of_part hbody fun _ _ _ _ => trivial
  have hlists : ∀ n ∈ t'.nodes, n.IfList p :=
    (forall_mem_nodes trivial (fun _ => trivial) (fun _ => trivial) (fun _ => trivial)).2 hevery
  exact hlists _ hmem

/-- A list in a folded template that holds a statement whose span is known has the union of its spans. -/
theorem Template.fold_joins_spans {t t' : Template} (h : t.fold.result = .ok t') {span : Span}
    {statements : List Stmt} (hmem : .stmt (.list span statements) ∈ t'.nodes) {s : Stmt} (hs : s ∈ statements)
    (hknown : s.span ≠ .unknown) : span = Span.join (statements.map Stmt.span) :=
  fold_lists (p := fun span statements =>
      ∀ s ∈ statements, s.span ≠ .unknown → span = Span.join (statements.map Stmt.span))
    (fun span _ _ hs hknown => Stmt.keptSpan_eq_join span hs hknown) h hmem s hs hknown

namespace Span

/-- Spans form a monoid under union. The union of a list is the hull of its known spans, it does not depend on
    their order if equal starts mean equal lines, and every list of statements in a folded template has the
    union of its statements for a span and covers each of them whose span is known. -/
theorem union_monoid_and_join_hull :
    (∀ a b c : Span, (a.union b).union c = a.union (b.union c)) ∧
      (∀ a : Span, unknown.union a = a ∧ a.union unknown = a) ∧
      (∀ a b : Span, a.union b = unknown ↔ a = unknown ∧ b = unknown) ∧
      (∀ spans : List Span, join spans = unknown ↔ ∀ s ∈ spans, s = unknown) ∧
      (∀ spans : List Span, (∃ s ∈ spans, s ≠ unknown) → (join spans).Hull spans) ∧
      (∀ as bs : List Span, as.Perm bs →
        (∀ a ∈ as, ∀ b ∈ as, a ≠ unknown → b ≠ unknown → a.start = b.start → a.line = b.line) → join as = join bs) ∧
      ∀ t t' : Template, t.fold.result = .ok t' → ∀ span statements, .stmt (.list span statements) ∈ t'.nodes →
        ∀ s ∈ statements, s.span ≠ unknown → span = join (statements.map Stmt.span) ∧ span.Covers s.span := by
  refine ⟨union_assoc, fun a => ⟨unknown_union a, union_unknown a⟩, fun _ _ => union_eq_unknown_iff,
    fun _ => join_eq_unknown_iff, fun _ => hull_join, fun _ _ => join_eq_of_perm, ?_⟩
  intro t t' h span statements hmem s hs hknown
  have hjoin := Template.fold_joins_spans h hmem hs hknown
  exact ⟨hjoin, hjoin ▸ Stmt.join_covers hs hknown⟩

end Span

namespace Template

/-- A list that is wider than its statements, one of which goes away and one of which has no known span, and
    that stands in the block passed to another template. -/
def scattered : Template :=
  let wide : Span := ⟨1, 0, 100⟩
  let passed : Stmt := .list wide [
    .substitution ⟨3, 20, 31⟩, .empty wide, .substitution .unknown, .substitution ⟨2, 10, 14⟩]
  { span := wide, name := ⟨wide, "scattered"⟩, params := [], takesSubstitution := true, returnTy := none,
    body := some (.eval wide
      (.call (.untyped wide) .template ⟨⟨wide, "outer"⟩, true, none⟩ wide [] none (some (.wrap passed)))) }

theorem scattered_join_hull :
    let kept : List Stmt := [.substitution ⟨3, 20, 31⟩, .substitution .unknown, .substitution ⟨2, 10, 14⟩]
    (∃ t', scattered.fold.result = .ok t' ∧ .stmt (.list ⟨2, 10, 31⟩ kept) ∈ t'.nodes ∧
      Span.Covers ⟨2, 10, 31⟩ ⟨3, 20, 31⟩ ∧ Span.Covers ⟨2, 10, 31⟩ ⟨2, 10, 14⟩) ∧
      (Span.join (kept.map Stmt.span)).Hull (kept.map Stmt.span) ∧
        Span.join (kept.map Stmt.span) = Span.join (kept.map Stmt.span).reverse := by
  intro kept
  obtain ⟨-, -, -, -, hhull, hperm, hcovers⟩ := Span.union_monoid_and_join_hull
  refine ⟨?_, ?_, ?_⟩
  · obtain ⟨t', h⟩ : ∃ t', scattered.fold.result = .ok t' := ⟨_, rfl⟩
    have hmem : .stmt (.list ⟨2, 10, 31⟩ kept) ∈ t'.nodes := by
      cases h
      exact List.mem_of_getElem? (i := 6) rfl
    have hcover := hcovers scattered t' h _ kept hmem
    refine ⟨t', h, hmem, ?_, ?_⟩
    · exact (hcover (.substitution ⟨3, 20, 31⟩) (by simp [kept]) (by decide)).2
    · exact (hcover (.substitution ⟨2, 10, 14⟩) (by simp [kept]) (by decide)).2
  · exact hhull _ ⟨⟨2, 10, 14⟩, by decide, by decide⟩
  · exact hperm _ _ (List.reverse_perm _).symm (by decide)

end Template

end TemplateTree
