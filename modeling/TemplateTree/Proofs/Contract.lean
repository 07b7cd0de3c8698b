import TemplateTree.Contract
import TemplateTree.Proofs.Nodes.Position
import TemplateTree.Proofs.Visit

namespace TemplateTree

/-- The obligations of a single node that it does not meet. -/
def Node.violations : Node → List TreeError
  | expr e =>
    (if e.ty?.isNone && !e.isVoidPermitted then [.malformed .untyped e.span] else []) ++
      match e with
      | .call _ .function callee .. =>
        if callee.method?.isNone then [.malformed (.unresolvedCall callee.target.name) callee.target.span] else []
      | .isa _ _ _ tested =>
        if tested.ty?.isNone then [.malformed (.unresolvedTest tested.name) tested.span] else []
      | _ => []
  | varRef ref =>
    if ref.bound?.isNone then [.malformed (.unboundVariable ref.name.name) ref.name.span] else []
  | _ => []

theorem ite_append_eq {found : List TreeError} {error : TreeError} {c : Prop} [Decidable c] :
    (if c then found ++ [error] else found) = found ++ if c then [error] else [] := by
  split <;> simp

theorem meets_contractChecker : contractChecker.Meets fun found n => found ++ n.violations where
  template _ _ _ := by simp [contractChecker, Node.violations]
  name _ _ := by simp [contractChecker, Node.violations]
  typeName _ _ := by simp [contractChecker, Node.violations]
  var _ _ _ := by simp [contractChecker, Node.violations]
  varRef ref walk found hunbound := by
    cases hbound : ref.bound? with
    | none => simp [contractChecker, Node.violations, hbound, hunbound hbound]
    | some v => simp [contractChecker, Node.violations, hbound]
  exprList _ _ _ _ := by simp [contractChecker, Node.violations]
  stmt s _ _ := by cases s <;> simp [contractChecker, Visitor.meetStmt, Node.violations]
  block _ _ _ := by simp [contractChecker, Node.violations]
  expr e _ _ := by
    cases e with
    | call head kind =>
      cases kind <;>
        simp only [contractChecker, Visitor.meetExpr, Node.violations, ite_append_eq, List.append_assoc,
          List.append_nil]
    | _ =>
      simp only [contractChecker, Visitor.meetExpr, Node.violations, ite_append_eq, List.append_assoc,
        List.append_nil]

/-- The walk finds what the nodes do not meet, node by node. -/
theorem Template.violations_eq_flatMap (t : Template) : t.violations = t.nodes.flatMap Node.violations := by
  rw [violations, meets_contractChecker.visit_eq_foldl, List.foldl_append_eq_append]
  rfl

/-- Something that the contract asks for. -/
inductive Duty where
  | typed (e : Expr)
  | resolved (callee : Callee)
  | known (tested : TypeName)
  | bound (ref : VarRef)

namespace Duty

/-- An expression has a type or is itself a call that may be void; a called function has its method, a tested
    class its type, and a reference its variable. -/
def Met : Duty → Prop
  | typed e => e.ty?.isSome ∨ e.isVoidPermitted
  | resolved callee => callee.method?.isSome
  | known tested => tested.ty?.isSome
  | bound ref => ref.bound?.isSome

instance : DecidablePred Met
  | typed e => inferInstanceAs (Decidable (e.ty?.isSome ∨ e.isVoidPermitted))
  | resolved callee => inferInstanceAs (Decidable callee.method?.isSome)
  | known tested => inferInstanceAs (Decidable tested.ty?.isSome)
  | bound ref => inferInstanceAs (Decidable ref.bound?.isSome)

/-- How a duty that is not met is reported. -/
def error : Duty → TreeError
  | typed e => .malformed .untyped e.span
  | resolved callee => .malformed (.unresolvedCall callee.target.name) callee.target.span
  | known tested => .malformed (.unresolvedTest tested.name) tested.span
  | bound ref => .malformed (.unboundVariable ref.name.name) ref.name.span

/-- The report on a duty, if it is not met. -/
def error? (duty : Duty) : Option TreeError := if duty.Met then none else some duty.error

theorem error?_eq_none_iff {duty : Duty} : duty.error? = none ↔ duty.Met := by
  simp [error?]

theorem error?_eq_some_iff {duty : Duty} {e : TreeError} : duty.error? = some e ↔ ¬ duty.Met ∧ duty.error = e := by
  simp [error?]

end Duty

/-- What the contract asks of an expression itself. A call of a function and a class test have a second
    duty, which comes before all that lies in their parts. -/
def Expr.duties : Expr → List Duty
  | .call head .function callee listSpan arguments initializer substitution =>
    [.typed (.call head .function callee listSpan arguments initializer substitution), .resolved callee]
  | .isa head token operand tested => [.typed (.isa head token operand tested), .known tested]
  | e => [.typed e]

/-- What the contract asks of a node itself. -/
def Node.duties : Node → List Duty
  | .expr e => e.duties
  | .varRef ref => [.bound ref]
  | _ => []

/-- Where a duty lies: at the position of its node, and there after those with a smaller index. -/
structure Duty.Place where
  position : List Nat
  index : Nat

/-- One place comes before another. -/
def Duty.Place.Before (first second : Place) : Prop :=
  first.position < second.position ∨ first.position = second.position ∧ first.index < second.index

/-- The template has a duty at a place. -/
def Template.Owes (t : Template) (place : Duty.Place) (duty : Duty) : Prop :=
  ∃ n, (Node.template t).at? place.position = some n ∧ n.duties[place.index]? = some duty

/-- A search of a list finds what there is to find at the first index. -/
theorem findSome?_eq_some_iff_getElem? {α β : Type} {f : α → Option β} {as : List α} {b : β} :
    as.findSome? f = some b ↔ ∃ (index : Nat) (a : α), as[index]? = some a ∧ f a = some b ∧
      ∀ (index' : Nat) (a' : α), index' < index → as[index']? = some a' → f a' = none := by
  rw [List.findSome?_eq_some_iff]
  constructor
  · rintro ⟨before, a, after, rfl, hfound, hbefore⟩
    refine ⟨before.length, a, by simp, hfound, fun index' a' hlt ha' => ?_⟩
    rw [List.getElem?_append_left hlt] at ha'
    exact hbefore a' (List.mem_of_getElem? ha')
  · rintro ⟨index, a, ha, hfound, hfirst⟩
    obtain ⟨hlt, rfl⟩ := List.getElem?_eq_some_iff.1 ha
    refine ⟨as.take index, _, as.drop (index + 1), ?_, hfound, fun a' ha' => ?_⟩
    · rw [List.getElem_cons_drop, List.take_append_drop]
    · obtain ⟨index', ha'⟩ := List.mem_iff_getElem?.1 ha'
      rw [List.getElem?_take] at ha'
      split at ha'
      next hbefore => exact hfirst index' a' hbefore ha'
      next => cases ha'

namespace Duty

/-- A duty that asks for something optional is reported if that is missing. -/
theorem toList_error?_of_iff (duty : Duty) {α : Type} {asked : Option α} (h : duty.Met ↔ asked.isSome) :
    duty.error?.toList = if asked.isNone then [duty.error] else [] := by
  cases asked <;> simp_all [error?]

theorem toList_error?_typed (e : Expr) :
    (typed e).error?.toList = if e.ty?.isNone && !e.isVoidPermitted then [.malformed .untyped e.span] else [] := by
  by_cases hmet : (typed e).Met
  · have hkept : (e.ty?.isNone && !e.isVoidPermitted) = false := by
      obtain hty | hvoid := hmet
      · simp [Option.isNone_eq_false_iff.2 hty]
      · simp [hvoid]
    rw [error?_eq_none_iff.2 hmet, hkept]
    rfl
  · have hbroken : (e.ty?.isNone && !e.isVoidPermitted) = true := by
      simpa [Met] using hmet
    rw [error?_eq_some_iff.2 ⟨hmet, rfl⟩, hbroken]
    rfl

end Duty

/-- What a node reports are the duties that it does not meet. -/
theorem Node.violations_eq_flatMap (n : Node) : n.violations = n.duties.flatMap fun duty => duty.error?.toList := by
  have hresolved (callee : Callee) := (Duty.resolved callee).toList_error?_of_iff Iff.rfl
  have hknown (tested : TypeName) := (Duty.known tested).toList_error?_of_iff Iff.rfl
  have hbound (ref : VarRef) := (Duty.bound ref).toList_error?_of_iff Iff.rfl
  cases n with
  | expr e =>
    cases e with
    | call head kind =>
      cases kind with
      | function => simp [violations, duties, Expr.duties, Duty.toList_error?_typed, hresolved, Duty.error]
      | template => simp [violations, duties, Expr.duties, Duty.toList_error?_typed]
    | isa => simp [violations, duties, Expr.duties, Duty.toList_error?_typed, hknown, Duty.error]
    | _ => simp [violations, duties, Expr.duties, Duty.toList_error?_typed]
  | varRef ref => simp [violations, duties, hbound, Duty.error]
  | _ => rfl

namespace Node

variable {n : Node}

/-- The first duty of the node that is not met, as it is reported. -/
def report? (n : Node) : Option TreeError := n.duties.findSome? Duty.error?

theorem report?_eq_none_iff :
    n.report? = none ↔ ∀ (index : Nat) (duty : Duty), n.duties[index]? = some duty → duty.Met := by
  rw [report?, List.findSome?_eq_none_iff]
  constructor
  · intro hnone index duty hduty
    exact Duty.error?_eq_none_iff.1 (hnone duty (List.mem_of_getElem? hduty))
  · intro hmet duty hduty
    obtain ⟨index, hduty⟩ := List.mem_iff_getElem?.1 hduty
    exact Duty.error?_eq_none_iff.2 (hmet index duty hduty)

theorem report?_eq_some_iff {error : TreeError} :
    n.report? = some error ↔
      ∃ (index : Nat) (duty : Duty), n.duties[index]? = some duty ∧ ¬ duty.Met ∧ duty.error = error ∧
        ∀ (index' : Nat) (duty' : Duty), index' < index → n.duties[index']? = some duty' → duty'.Met := by
  rw [report?, findSome?_eq_some_iff_getElem?]
  simp only [Duty.error?_eq_none_iff, Duty.error?_eq_some_iff, and_assoc]

theorem head?_violations (n : Node) : n.violations.head? = n.report? := by
  rw [n.violations_eq_flatMap, List.head?_flatMap, report?]
  simp

end Node

namespace Template

variable {t : Template}

theorem head?_violations_eq (t : Template) : t.violations.head? = (Node.template t).nodes.findSome? Node.report? := by
  rw [violations_eq_flatMap, List.head?_flatMap]
  simp only [Node.head?_violations]
  rfl

theorem check_eq_ok_iff_head? : t.check = .ok () ↔ t.violations.head? = none := by
  unfold check
  cases t.violations <;> simp

theorem check_eq_error_iff_head? {error : TreeError} : t.check = .error error ↔ t.violations.head? = some error := by
  unfold check
  cases t.violations <;> simp

theorem check_eq_ok_iff_owes : t.check = .ok () ↔ ∀ place duty, t.Owes place duty → duty.Met := by
  rw [check_eq_ok_iff_head?, head?_violations_eq, List.findSome?_eq_none_iff]
  constructor
  · rintro hnone place duty ⟨n, hn, hduty⟩
    have hreport := hnone n (Node.mem_nodes_iff.2 ⟨_, hn⟩)
    exact Node.report?_eq_none_iff.1 hreport place.index duty hduty
  · intro hmet n hn
    obtain ⟨position, hn⟩ := Node.mem_nodes_iff.1 hn
    rw [Node.report?_eq_none_iff]
    intro index duty hduty
    exact hmet ⟨position, index⟩ duty ⟨n, hn, hduty⟩

/-- The duty that is reported comes first at its own node, and no node at an earlier position reports any. -/
theorem check_eq_error_iff_owes {error : TreeError} :
    t.check = .error error ↔ ∃ place duty, t.Owes place duty ∧ ¬ duty.Met ∧ duty.error = error ∧
      ∀ place' duty', place'.Before place → t.Owes place' duty' → duty'.Met := by
  rw [check_eq_error_iff_head?, head?_violations_eq, Node.findSome?_nodes_eq_some_iff]
  simp only [Node.report?_eq_none_iff, Node.report?_eq_some_iff]
  constructor
  · rintro ⟨position, n, hn, ⟨index, duty, hduty, hunmet, rfl, hbefore⟩, hearlier⟩
    refine ⟨⟨position, index⟩, duty, ⟨n, hn, hduty⟩, hunmet, rfl, ?_⟩
    rintro ⟨position', index'⟩ duty' (hlt | ⟨hsame, hlt⟩) ⟨n', hn', hduty'⟩
    · exact hearlier position' n' hlt hn' index' duty' hduty'
    · obtain rfl : position' = position := hsame
      obtain rfl : n' = n := Option.some.inj (hn'.symm.trans hn)
      exact hbefore index' duty' hlt hduty'
  · rintro ⟨⟨position, index⟩, duty, ⟨n, hn, hduty⟩, hunmet, rfl, hfirst⟩
    refine ⟨position, n, hn, ⟨index, duty, hduty, hunmet, rfl, ?_⟩, ?_⟩
    · intro index' duty' hlt hduty'
      exact hfirst ⟨position, index'⟩ duty' (.inr ⟨rfl, hlt⟩) ⟨n, hn, hduty'⟩
    · intro position' n' hlt hn' index' duty' hduty'
      exact hfirst ⟨position', index'⟩ duty' (.inl hlt) ⟨n', hn', hduty'⟩

/-- The check accepts a template exactly if every duty in it is met, and otherwise reports the first that is
    not: a node before its parts, the parts in the order in which they take effect. -/
theorem check_eq_iff_owes (t : Template) :
    (t.check = .ok () ↔ ∀ place duty, t.Owes place duty → duty.Met) ∧
      ∀ error, t.check = .error error ↔ ∃ place duty, t.Owes place duty ∧ ¬ duty.Met ∧ duty.error = error ∧
        ∀ place' duty', place'.Before place → t.Owes place' duty' → duty'.Met :=
  ⟨check_eq_ok_iff_owes, fun _ => check_eq_error_iff_owes⟩

/-- A class test asks for its own type before anything in its operand. -/
example :
    let span : Span := ⟨1, 0, 8⟩
    let test : Expr := .isa ⟨span, .ofTy .boolean, false⟩ ⟨.isa, span⟩ (.varRef (.untyped span) ⟨⟨span, "x"⟩, none⟩)
      ⟨span, "Widget", none, none⟩
    check ⟨span, ⟨span, "t"⟩, [], false, some (.eval span test), none⟩ =
      .error (.malformed (.unresolvedTest "Widget") span) := rfl

end Template

end TemplateTree
