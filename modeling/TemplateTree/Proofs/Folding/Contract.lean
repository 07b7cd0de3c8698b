import Mathlib.Data.List.Forall2
import TemplateTree.Proofs.Contract
import TemplateTree.Proofs.Folding.Every

namespace TemplateTree

open TemplateTree.Folding

/-- The node meets its obligations. -/
def Node.Conforms (n : Node) : Prop := n.violations = []

/-- Every node of the expression meets its obligations. -/
def Expr.Conforms (e : Expr) : Prop := e.Every Node.Conforms

/-- Every node of the statement meets its obligations. -/
def Stmt.Conforms (s : Stmt) : Prop := s.Every Node.Conforms

/-- Every node of the block meets its obligations. -/
def Block.Conforms (b : Block) : Prop := b.Every Node.Conforms

/-- The contract holds of a template exactly if its body conforms. -/
theorem Template.check_eq_ok_iff {t : Template} : t.check = .ok () ↔ ∀ s, t.body = some s → s.Conforms := by
  have hcheck : t.check = .ok () ↔ t.violations = [] := by
    unfold check
    cases t.violations <;> simp
  have hnodes : t.violations = [] ↔ ∀ n ∈ t.nodes, n.Conforms := by
    rw [t.violations_eq_flatMap]
    exact List.flatMap_eq_nil_iff
  rw [hcheck, hnodes]
  exact forall_mem_nodes rfl (fun _ => rfl) (fun _ => rfl) (fun _ => rfl)

/-- Only a call that may be void has no type. -/
theorem Node.Conforms.isVoidPermitted {e : Expr} (h : Conforms (.expr e)) (hty : e.ty? = none) :
    e.isVoidPermitted := by
  obtain ⟨htyped, -⟩ := List.append_eq_nil_iff.1 h
  by_contra hvoid
  simp [hty, hvoid] at htyped

/-- An expression that has a type under its new head meets its obligations if it did before: what a call
    or a class test is resolved to does not depend on the head. -/
theorem Node.Conforms.withHead {e : Expr} {head : Head} (h : Conforms (.expr e))
    (hty : (e.withHead head).ty?.isSome) : Conforms (.expr (e.withHead head)) := by
  obtain ⟨-, hresolved⟩ := List.append_eq_nil_iff.1 h
  refine List.append_eq_nil_iff.2 ⟨?_, ?_⟩
  · simp [Option.isNone_eq_false_iff.2 hty]
  · cases e with
    | call _ kind => cases kind <;> exact hresolved
    | _ => exact hresolved

/-- The obligations of a call do not depend on what is passed to it. -/
theorem Node.Conforms.withArguments {head : Head} {kind : CallKind} {callee : Callee} {listSpan : Span}
    {arguments : List Expr} {initializer : Option Stmt} {substitution : Option Block}
    (h : Conforms (.expr (.call head kind callee listSpan arguments initializer substitution)))
    (arguments' : List Expr) (initializer' : Option Stmt) (substitution' : Option Block) :
    Conforms (.expr (.call head kind callee listSpan arguments' initializer' substitution')) := by
  cases kind <;> exact h

namespace Expr

/-- A coercion gives a type and takes nothing away. -/
theorem Coerced.conforms {target : Ty} {e e' : Expr} (hcoerced : Coerced target e e') : e.Conforms → e'.Conforms :=
  hcoerced.every (fun hty h => h.withHead hty)
    (fun {head inner inner'} hty _ => by
      have htyped : (Expr.paren head inner').ty?.isSome := hty
      simp [Node.Conforms, Node.violations, Option.isNone_eq_false_iff.2 htyped])
    id id

end Expr

namespace Folding

/-- Nodes of statements and blocks have no obligations of their own, those of a rebuilt expression are what they
    were, and every expression that is made has a type. -/
theorem conforms_nodeCases : NodeCases Node.Conforms Node.Conforms where
  rebuilt hrebuilt h := by
    cases hrebuilt with
    | call => exact h.withArguments _ _ _
    | _ => exact h
  made hmade := by cases hmade <;> rfl
  coerced := Expr.Coerced.conforms

/-- The pass keeps every part of a tree conforming. -/
theorem conforms_cases : Cases (fun e d => e.Conforms → d.Conforms) (Gives Stmt.Conforms Stmt.Conforms)
    (Gives Block.Conforms fun b => b.Conforms ∧ b.isEmpty = false) :=
  conforms_nodeCases.toCases

end Folding

namespace Template

/-- A template that meets the contract still does when it is folded, and its signature stays as it is. -/
theorem check_fold_eq_ok {t t' : Template} (hcheck : t.check = .ok ()) (h : t.fold.result = .ok t') :
    t'.check = .ok () ∧ t'.span = t.span ∧ t'.name = t.name ∧ t'.params = t.params ∧
      t'.takesSubstitution = t.takesSubstitution ∧ t'.returnTy = t.returnTy := by
  obtain ⟨hbody, hsame⟩ := Folding.conforms_cases.template h
  refine ⟨?_, by rw [hsame], by rw [hsame], by rw [hsame], by rw [hsame], by rw [hsame]⟩
  exact check_eq_ok_iff.2 (forall_of_part hbody (check_eq_ok_iff.1 hcheck))

/-- A call without a type, with an argument that folds, and a condition that becomes a complement. -/
def greeting : Template :=
  let span : Span := ⟨1, 0, 8⟩
  let user : Variable := .ofTy span "user" .nonNullString
  let known : Variable := .ofTy span "known" .boolean
  let userRef : Expr := .varRef ⟨span, .ofTy .nonNullString, false⟩ ⟨⟨span, "user"⟩, some user⟩
  let knownRef : Expr := .varRef ⟨span, .ofTy .boolean, false⟩ ⟨⟨span, "known"⟩, some known⟩
  let salute : Expr :=
    .binary ⟨span, .ofTy .nonNullString, false⟩ .concatenate ⟨.concat, span⟩ (.ofString span "") userRef
  let unknown : Expr := .compare ⟨span, .ofTy .boolean, false⟩ ⟨.eq, span⟩ knownRef (.ofBool span false)
  { span, name := ⟨span, "greeting"⟩, params := [user, known], takesSubstitution := true, returnTy := none,
    body := some (.list span [
      .eval span (.call (.untyped span) .template ⟨⟨span, "greet"⟩, true, none⟩ span [salute] none none),
      .cond span unknown (some (.wrap (.substitution span))) none none]) }

theorem greeting_check_fold_eq_ok :
    greeting.check = .ok () ∧ ∃ t', greeting.fold.result = .ok t' ∧ greeting.fold.events ≠ [] ∧ t'.check = .ok () ∧
      t'.span = greeting.span ∧ t'.name = greeting.name ∧ t'.params = greeting.params ∧
        t'.takesSubstitution = greeting.takesSubstitution ∧ t'.returnTy = greeting.returnTy := by
  have hcheck : greeting.check = .ok () := rfl
  exact ⟨hcheck, _, rfl, nofun, check_fold_eq_ok hcheck rfl⟩

end Template

end TemplateTree
