import TemplateTree.Proofs.Folding.Induction

namespace TemplateTree

/-- A complement has no known value, so a condition that is turned around decides nothing. -/
theorem Stmt.decided?_of_negated {e negation : Expr} {span : Span} (h : e.negated span = .ok negation) :
    decided? negation = none := by
  obtain ⟨operand, -, rfl⟩ := Expr.negated_eq_ok h
  rfl

namespace Folding

/-- A node of the template and the node of what is left that was rebuilt from it. Its parts may be others. -/
inductive Rebuilt : Node → Node → Prop
  | ofRef {ref : VarRef} {n : Node} (hn : n ∈ ref.nodes) : Rebuilt n n
  | exprList {span : Span} {expressions expressions' : List Expr} :
    Rebuilt (.exprList span expressions) (.exprList span expressions')
  | array {head : Head} {listSpan : Span} {elements elements' : List Expr} {associative : Bool} :
    Rebuilt (.expr (.array head listSpan elements associative)) (.expr (.array head listSpan elements' associative))
  | call {head : Head} {kind : CallKind} {callee : Callee} {listSpan : Span} {arguments arguments' : List Expr}
    {initializer initializer' : Option Stmt} {substitution substitution' : Option Block} :
    Rebuilt (.expr (.call head kind callee listSpan arguments initializer substitution))
      (.expr (.call head kind callee listSpan arguments' initializer' substitution'))
  | varRef {head : Head} {ref : VarRef} : Rebuilt (.expr (.varRef head ref)) (.expr (.varRef head ref))
  | property {head : Head} {object object' : Expr} {dot : Token} {name : Name} {reader? : Option Method} :
    Rebuilt (.expr (.property head object dot name reader?)) (.expr (.property head object' dot name reader?))
  | index {head : Head} {object object' position position' : Expr} {bracket : Token} {reader? : Option Method} :
    Rebuilt (.expr (.index head object bracket position reader?))
      (.expr (.index head object' bracket position' reader?))
  | unary {head : Head} {op : UnaryOp} {operand operand' : Expr} (hfinal : Final (.unary head op operand')) :
    Rebuilt (.expr (.unary head op operand)) (.expr (.unary head op operand'))
  | binary {head : Head} {op : BinaryOp} {token : Token} {left left' right right' : Expr}
    (hfinal : Final (.binary head op token left' right')) :
    Rebuilt (.expr (.binary head op token left right)) (.expr (.binary head op token left' right'))
  | compare {head : Head} {token : Token} {left left' right right' : Expr}
    (hfinal : Final (.compare head token left' right')) :
    Rebuilt (.expr (.compare head token left right)) (.expr (.compare head token left' right'))
  | isa {head : Head} {token : Token} {operand operand' : Expr} {tested : TypeName}
    (hfinal : Final (.isa head token operand' tested)) :
    Rebuilt (.expr (.isa head token operand tested)) (.expr (.isa head token operand' tested))
  | tested {tested : TypeName} : Rebuilt (.typeName tested) (.typeName tested)
  | literal {head : Head} {value : Value} : Rebuilt (.expr (.literal head value)) (.expr (.literal head value))
  | assign {span : Span} {target : VarRef} {value value' : Expr} :
    Rebuilt (.stmt (.assign span target value)) (.stmt (.assign span target value'))
  | breakLoop {span : Span} : Rebuilt (.stmt (.breakLoop span)) (.stmt (.breakLoop span))
  | forEach {span : Span} {loopVar : VarRef} {range range' : Expr} {rangeEnd rangeEnd' : Option Expr} {reverse : Bool}
    {initializer initializer' : Option Stmt} {body body' : Option Block} :
    Rebuilt (.stmt (.forEach span loopVar range rangeEnd reverse initializer body))
      (.stmt (.forEach span loopVar range' rangeEnd' reverse initializer' body'))
  | cond {span : Span} {condition condition' : Expr} {thenPart thenPart' elsePart elsePart' : Option Block}
    {merged : Option (List Variable)} (hdecided : Stmt.decided? condition' = none)
    (hturned : thenPart' = none → elsePart' = none) (hthen : ∀ b, thenPart' = some b → b.isEmpty = false)
    (helse : ∀ b, elsePart' = some b → b.isEmpty = false) :
    Rebuilt (.stmt (.cond span condition thenPart elsePart merged))
      (.stmt (.cond span condition' thenPart' elsePart' merged))
  | substitution {span : Span} : Rebuilt (.stmt (.substitution span)) (.stmt (.substitution span))
  | eval {span : Span} {e e' : Expr} : Rebuilt (.stmt (.eval span e)) (.stmt (.eval span e'))
  | ret {span : Span} {value value' : Option Expr} : Rebuilt (.stmt (.ret span value)) (.stmt (.ret span value'))
  | guarded {span : Span} {part part' replacement replacement' : Option Stmt} :
    Rebuilt (.stmt (.guarded span part replacement)) (.stmt (.guarded span part' replacement'))
  | block {span : Span} {statements statements' : List Stmt}
    {initializer initializer' finalizer finalizer' : Option Stmt} :
    Rebuilt (.block ⟨span, statements, initializer, finalizer⟩) (.block ⟨span, statements', initializer', finalizer'⟩)

/-- A node of what is left that need not have stood there before. -/
inductive Made : Node → Prop
  | constant {span : Span} {value : Value} : Made (.expr (.ofValue span value))
  | complement {span : Span} {operand : Expr} : Made (.expr (.unary ⟨span, .ofTy .boolean, false⟩ .not operand))
  | list {span : Span} {statements : List Stmt} (hlength : 2 ≤ statements.length) :
    Made (.stmt (.list (Stmt.keptSpan span statements) statements))
  | block {b : Block} (hfull : b.isEmpty = false) : Made (.stmt (.block b))
  | emptyBlock {span : Span} : Made (.block (.empty span))

/-- What has to be shown of a property `P` of nodes so that all nodes of what is left have it, if all nodes of
    what was there have the property `Q`. -/
structure NodeCases (Q P : Node → Prop) : Prop where
  rebuilt {n n' : Node} : Rebuilt n n' → Q n → P n'
  made {n : Node} : Made n → P n
  coerced {target : Ty} {e e' : Expr} : Expr.Coerced target e e' → e.Every P → e'.Every P

namespace NodeCases

variable {Q P : Node → Prop}

theorem ofKept (cases : NodeCases Q P) {e e' : Expr} (h : Kept (fun e d => e.Every Q → d.Every P) e e')
    (he : e.Every Q) : e'.Every P := by
  obtain ⟨d, -, hd, hreplaced⟩ := h
  exact Expr.replacedBy_induction cases.coerced hreplaced (hd he)

theorem ofNegated (cases : NodeCases Q P) {e negation : Expr} {span : Span} (he : e.Every P)
    (h : e.negated span = .ok negation) : negation.Every P := by
  obtain ⟨operand, hcoerced, rfl⟩ := Expr.negated_eq_ok h
  exact Expr.every_unary.2 ⟨cases.made .complement, cases.coerced hcoerced he⟩

/-- Either no rule applies to an operator, or a rule makes something of its operands. -/
theorem ofSettles (cases : NodeCases Q P) {node e : Expr} (h : Settles node e)
    (hfinal : Final node → node.Every P) (hoperands : ∀ operand ∈ node.operands, operand.Every P) : e.Every P := by
  cases h with
  | kept hnone => exact hfinal hnone
  | rewritten hrule =>
    exact hrule.every (fun _ _ => Expr.every_literal.2 (cases.made .constant)) cases.ofNegated hoperands

theorem ofForall₂ (cases : NodeCases Q P) {es es' : List Expr}
    (h : List.Forall₂ (Kept fun e d => e.Every Q → d.Every P) es es') :
    (∀ e ∈ es, e.Every Q) → ∀ e ∈ es', e.Every P :=
  forall_mem_of_forall₂ h cases.ofKept

theorem ofRel (cases : NodeCases Q P) {e? e'? : Option Expr}
    (h : Option.Rel (Kept fun e d => e.Every Q → d.Every P) e? e'?) :
    (∀ e, e? = some e → e.Every Q) → ∀ e', e'? = some e' → e'.Every P :=
  forall_of_rel h cases.ofKept

theorem ofRef (cases : NodeCases Q P) {ref : VarRef} (h : ∀ n ∈ ref.nodes, Q n) : ∀ n ∈ ref.nodes, P n :=
  fun n hn => cases.rebuilt (.ofRef hn) (h n hn)

theorem ofBody (cases : NodeCases Q P) {b? b'? : Option Block}
    (h : Body (Gives (Block.Every Q) fun b => b.Every P ∧ b.isEmpty = false) b? b'?) :
    (∀ b, b? = some b → b.Every Q) → ∀ b', b'? = some b' → b'.Every P :=
  forall_of_body h And.left fun _ => Block.every_mk.2 ⟨cases.made .emptyBlock, by simp, by simp, by simp⟩

/-- All nodes of what the pass leaves have the property. A block that does not go away also holds something. -/
theorem toCases (cases : NodeCases Q P) :
    Cases (fun e d => e.Every Q → d.Every P) (Gives (Stmt.Every Q) (Stmt.Every P))
      (Gives (Block.Every Q) fun b => b.Every P ∧ b.isEmpty = false) where
  paren hinner h := hinner (Expr.every_paren.1 h).2
  array helements h := by
    obtain ⟨hnode, hlist, hevery⟩ := Expr.every_array.1 h
    exact Expr.every_array.2 ⟨cases.rebuilt .array hnode, cases.rebuilt .exprList hlist,
      cases.ofForall₂ helements hevery⟩
  call harguments hinitializer hsubstitution h := by
    obtain ⟨hnode, hlist, hpassed, hbefore, hblock⟩ := Expr.every_call.1 h
    exact Expr.every_call.2 ⟨cases.rebuilt .call hnode, cases.rebuilt .exprList hlist,
      cases.ofForall₂ harguments hpassed, forall_of_part hinitializer hbefore, cases.ofBody hsubstitution hblock⟩
  varRef h := by
    obtain ⟨hnode, href⟩ := Expr.every_varRef.1 h
    exact Expr.every_varRef.2 ⟨cases.rebuilt .varRef hnode, cases.ofRef href⟩
  property hobject h := by
    obtain ⟨hnode, hevery⟩ := Expr.every_property.1 h
    exact Expr.every_property.2 ⟨cases.rebuilt .property hnode, cases.ofKept hobject hevery⟩
  index hobject hposition h := by
    obtain ⟨hnode, hfirst, hsecond⟩ := Expr.every_index.1 h
    exact Expr.every_index.2 ⟨cases.rebuilt .index hnode, cases.ofKept hobject hfirst,
      cases.ofKept hposition hsecond⟩
  unary hoperand hsettles h := by
    obtain ⟨hnode, hevery⟩ := Expr.every_unary.1 h
    have hleft := cases.ofKept hoperand hevery
    refine cases.ofSettles hsettles (fun hfinal => ?_) (by simpa [Expr.operands] using hleft)
    exact Expr.every_unary.2 ⟨cases.rebuilt (.unary hfinal) hnode, hleft⟩
  binary hleft hright hsettles h := by
    obtain ⟨hnode, hfirst, hsecond⟩ := Expr.every_binary.1 h
    have hboth := And.intro (cases.ofKept hleft hfirst) (cases.ofKept hright hsecond)
    refine cases.ofSettles hsettles (fun hfinal => ?_) (by simpa [Expr.operands] using hboth)
    exact Expr.every_binary.2 ⟨cases.rebuilt (.binary hfinal) hnode, hboth⟩
  compare hleft hright hsettles h := by
    obtain ⟨hnode, hfirst, hsecond⟩ := Expr.every_compare.1 h
    have hboth := And.intro (cases.ofKept hleft hfirst) (cases.ofKept hright hsecond)
    refine cases.ofSettles hsettles (fun hfinal => ?_) (by simpa [Expr.operands] using hboth)
    exact Expr.every_compare.2 ⟨cases.rebuilt (.compare hfinal) hnode, hboth⟩
  isa hoperand hsettles h := by
    obtain ⟨hnode, hevery, htested⟩ := Expr.every_isa.1 h
    have hleft := cases.ofKept hoperand hevery
    refine cases.ofSettles hsettles (fun hfinal => ?_) (by simpa [Expr.operands] using hleft)
    exact Expr.every_isa.2 ⟨cases.rebuilt (.isa hfinal) hnode, hleft, cases.rebuilt .tested htested⟩
  literal h := Expr.every_literal.2 (cases.rebuilt .literal (Expr.every_literal.1 h))
  empty := gives_none
  emptyList _ := gives_none
  singleList {_ _ s} hleft h s' hs' := by
    cases hs'
    exact forall_of_left hleft (Stmt.every_list.1 h).2 s (List.mem_singleton_self s)
  list hleft hlength h s' hs' := by
    cases hs'
    exact Stmt.every_list.2 ⟨cases.made (.list hlength), forall_of_left hleft (Stmt.every_list.1 h).2⟩
  block hblock h s' hs' := by
    obtain ⟨b', rfl, rfl⟩ := Option.map_eq_some_iff.1 hs'
    obtain ⟨hevery, hfull⟩ := hblock (Stmt.every_block.1 h).2 b' rfl
    exact Stmt.every_block.2 ⟨cases.made (.block hfull), hevery⟩
  assign hvalue h s' hs' := by
    cases hs'
    obtain ⟨hnode, htarget, hevery⟩ := Stmt.every_assign.1 h
    exact Stmt.every_assign.2 ⟨cases.rebuilt .assign hnode, cases.ofRef htarget, cases.ofKept hvalue hevery⟩
  breakLoop h s' hs' := by
    cases hs'
    exact Stmt.every_breakLoop.2 (cases.rebuilt .breakLoop (Stmt.every_breakLoop.1 h))
  emptyForEach hrange hrangeEnd hinitializer _ _ h s' hs' := by
    cases hs'
    obtain ⟨hnode, hloopVar, hfirst, hlast, hbefore, -⟩ := Stmt.every_forEach.1 h
    exact Stmt.every_forEach.2 ⟨cases.rebuilt .forEach hnode, cases.ofRef hloopVar, cases.ofKept hrange hfirst,
      cases.ofRel hrangeEnd hlast, forall_of_part hinitializer hbefore, by simp⟩
  forEach hrange hrangeEnd hinitializer hbody _ h s' hs' := by
    cases hs'
    obtain ⟨hnode, hloopVar, hfirst, hlast, hbefore, hevery⟩ := Stmt.every_forEach.1 h
    exact Stmt.every_forEach.2 ⟨cases.rebuilt .forEach hnode, cases.ofRef hloopVar, cases.ofKept hrange hfirst,
      cases.ofRel hrangeEnd hlast, forall_of_part hinitializer hbefore, cases.ofBody hbody hevery⟩
  constantCond {_ _ _ thenPart elsePart _ _ b} _ _ hpart h s' hs' := by
    obtain ⟨-, -, hthen, helse⟩ := Stmt.every_cond.1 h
    obtain ⟨b', rfl, rfl⟩ := Option.map_eq_some_iff.1 hs'
    have htaken : ∀ part, (if b then thenPart else elsePart) = some part → part.Every Q := by
      cases b with
      | true => exact hthen
      | false => exact helse
    obtain ⟨hevery, hfull⟩ := forall_of_part hpart htaken b' rfl
    exact Stmt.every_block.2 ⟨cases.made (.block hfull), hevery⟩
  turnedCond hcondition _ _ helse hnegation h s' hs' := by
    cases hs'
    obtain ⟨hnode, hevery, -, hsecond⟩ := Stmt.every_cond.1 h
    have hpart := forall_of_part helse hsecond
    have hnegated := cases.ofNegated (cases.ofKept hcondition hevery) hnegation
    have hundecided := Stmt.decided?_of_negated hnegation
    refine Stmt.every_cond.2 ⟨cases.rebuilt (.cond hundecided (by simp) ?_ (by simp)) hnode, hnegated, ?_, by simp⟩
    · exact fun b hb => (hpart b hb).2
    · exact fun b hb => (hpart b hb).1
  cond hcondition hdecided hthen helse hturned h s' hs' := by
    cases hs'
    obtain ⟨hnode, hevery, hfirst, hsecond⟩ := Stmt.every_cond.1 h
    have hthenPart := forall_of_part hthen hfirst
    have helsePart := forall_of_part helse hsecond
    refine Stmt.every_cond.2 ⟨cases.rebuilt (.cond hdecided hturned ?_ ?_) hnode, cases.ofKept hcondition hevery, ?_, ?_⟩
    · exact fun b hb => (hthenPart b hb).2
    · exact fun b hb => (helsePart b hb).2
    · exact fun b hb => (hthenPart b hb).1
    · exact fun b hb => (helsePart b hb).1
  substitution h s' hs' := by
    cases hs'
    exact Stmt.every_substitution.2 (cases.rebuilt .substitution (Stmt.every_substitution.1 h))
  eval he h s' hs' := by
    cases hs'
    obtain ⟨hnode, hevery⟩ := Stmt.every_eval.1 h
    exact Stmt.every_eval.2 ⟨cases.rebuilt .eval hnode, cases.ofKept he hevery⟩
  ret hvalue h s' hs' := by
    cases hs'
    obtain ⟨hnode, hevery⟩ := Stmt.every_ret.1 h
    exact Stmt.every_ret.2 ⟨cases.rebuilt .ret hnode, cases.ofRel hvalue hevery⟩
  guarded hpart hreplacement h s' hs' := by
    cases hs'
    obtain ⟨hnode, hfirst, hsecond⟩ := Stmt.every_guarded.1 h
    exact Stmt.every_guarded.2 ⟨cases.rebuilt .guarded hnode, forall_of_part hpart hfirst,
      forall_of_part hreplacement hsecond⟩
  emptyBlock _ _ _ := gives_none
  mkBlock hinitializer hleft hfinalizer hfull h b' hb' := by
    cases hb'
    obtain ⟨hnode, hbefore, hstatements, hafter⟩ := Block.every_mk.1 h
    exact ⟨Block.every_mk.2 ⟨cases.rebuilt .block hnode, forall_of_part hinitializer hbefore,
      forall_of_left hleft hstatements, forall_of_part hfinalizer hafter⟩, hfull⟩

end NodeCases

end Folding

end TemplateTree
