import Mathlib.Data.List.Forall2
import Mathlib.Data.List.ReduceOption
import TemplateTree.Proofs.Expr.Coerce
import TemplateTree.Proofs.Folding.Rewrite

namespace TemplateTree

namespace Expr

/-- What stands in the place of an expression fits the type that the expression had. -/
theorem replacedBy_fits {e d e' : Expr} {ty : Ty} (hty : e.ty? = some ty) (h : e.replacedBy d = .ok e') :
    ∃ ty', e'.ty? = some ty' ∧ ty.Fits ty' := by
  unfold replacedBy at h
  split at h
  next hsame =>
    cases h
    exact ⟨ty, hsame.trans hty, .refl ty⟩
  next => exact replay_fits h ((Chain.reduced_ty? e.chain).trans hty)

/-- What every coercion keeps is kept when one expression takes the place of another. -/
theorem replacedBy_induction {P : Expr → Prop} (hstep : ∀ {target d d'}, Coerced target d d' → P d → P d')
    {e d e' : Expr} (h : e.replacedBy d = .ok e') (hd : P d) : P e' := by
  unfold replacedBy at h
  split at h
  next =>
    cases h
    exact hd
  next => exact replay_induction hstep h hd

/-- A negation is a complement of boolean type, over the expression as a boolean. -/
theorem negated_eq_ok {e e' : Expr} {span : Span} (h : e.negated span = .ok e') :
    ∃ operand, Coerced .boolean e operand ∧ e' = .unary ⟨span, .ofTy .boolean, false⟩ .not operand := by
  unfold negated at h
  cases hoperand : (e.convertTo .boolean true).toExcept with
  | error error =>
    rw [hoperand] at h
    cases h
  | ok operand =>
    rw [hoperand] at h
    cases h
    exact ⟨operand, convertTo_coerced e hoperand, rfl⟩

/-- What an operator is applied to. -/
def operands : Expr → List Expr
  | .unary _ _ operand => [operand]
  | .binary _ _ _ left right => [left, right]
  | .compare _ _ left right => [left, right]
  | .isa _ _ operand _ => [operand]
  | _ => []

end Expr

/-- Whatever a rule puts in the place of an operator has a property of all nodes that its operands have,
    if constants have it and negations keep it. -/
theorem Folding.Rewrites.every {P : Node → Prop} {rule : Rule} {node e : Expr} (hrule : Rewrites rule node (.ok e))
    (hvalue : ∀ span value, (Expr.ofValue span value).Every P)
    (hnegated : ∀ {operand negation : Expr} {span : Span}, operand.Every P → operand.negated span = .ok negation →
      negation.Every P)
    (hoperands : ∀ operand ∈ node.operands, operand.Every P) : e.Every P := by
  have hkeepOrNegate : ∀ {known : Bool} {operator : TokenKind} {span : Span} {operand : Expr}, operand.Every P →
      keepOrNegate known operator span operand = .ok e → e.Every P := by
    intro known operator span operand hoperand h
    unfold keepOrNegate at h
    split at h
    next =>
      cases h
      exact hoperand
    next => exact hnegated hoperand h
  generalize hresult : (Except.ok e : Except TreeError Expr) = result at hrule
  cases hrule with
  | doubleNegate | doubleNot =>
    cases hresult
    exact (Expr.every_unary.1 (hoperands _ (List.mem_singleton_self _))).2
  | concatenateEmptyLeft | andTrueLeft | orFalseLeft =>
    cases hresult
    exact hoperands _ (List.mem_cons_of_mem _ (List.mem_singleton_self _))
  | concatenateEmptyRight | andTrueRight | orFalseRight =>
    cases hresult
    exact hoperands _ List.mem_cons_self
  | compareBooleanLeft =>
    exact hkeepOrNegate (hoperands _ (List.mem_cons_of_mem _ (List.mem_singleton_self _))) hresult.symm
  | compareBooleanRight => exact hkeepOrNegate (hoperands _ List.mem_cons_self) hresult.symm
  | _ =>
    cases hresult
    exact hvalue _ _

/-- The span of a list of statements that stays: that of its statements, if it is known. -/
def Stmt.keptSpan (span : Span) (statements : List Stmt) : Span :=
  if (Span.join (statements.map Stmt.span)).isUnknown then span else Span.join (statements.map Stmt.span)

namespace Folding

/-- `e'` is what stands in the place of `e`: what `e` folds to, which is related to `e`, coerced the way
    `e` was. -/
def Kept (P : Expr → Expr → Prop) (e e' : Expr) : Prop :=
  ∃ d, e.fold.result = .ok d ∧ P e d ∧ e.replacedBy d = .ok e'

/-- A part that is missing stays missing, and one that is there may go away. -/
inductive Part {α : Type} (Q : α → Option α → Prop) : Option α → Option α → Prop
  | none : Part Q none none
  | some {a : α} {a'? : Option α} (h : Q a a'?) : Part Q (some a) a'?

/-- A body stays a block, which holds nothing if the body went away. -/
inductive Body (R : Block → Option Block → Prop) : Option Block → Option Block → Prop
  | none : Body R none none
  | some {b : Block} {b'? : Option Block} (h : R b b'?) : Body R (some b) (some (b'?.getD (.empty b.span)))

/-- What is left of a list of statements: those that did not go away. -/
def Left (Q : Stmt → Option Stmt → Prop) (ss ss' : List Stmt) : Prop :=
  ∃ left?, List.Forall₂ Q ss left? ∧ ss' = left?.reduceOption

/-- What has to be shown of relations between what is folded and what is left: `P` for expressions, `Q`
    for statements, `R` for blocks. -/
structure Cases (P : Expr → Expr → Prop) (Q : Stmt → Option Stmt → Prop) (R : Block → Option Block → Prop) :
    Prop where
  paren {head : Head} {inner e : Expr} : P inner e → P (.paren head inner) e
  array {head : Head} {listSpan : Span} {elements elements' : List Expr} {associative : Bool} :
    List.Forall₂ (Kept P) elements elements' →
      P (.array head listSpan elements associative) (.array head listSpan elements' associative)
  call {head : Head} {kind : CallKind} {callee : Callee} {listSpan : Span} {arguments arguments' : List Expr}
    {initializer initializer' : Option Stmt} {substitution substitution' : Option Block} :
    List.Forall₂ (Kept P) arguments arguments' → Part Q initializer initializer' → Body R substitution substitution' →
      P (.call head kind callee listSpan arguments initializer substitution)
        (.call head kind callee listSpan arguments' initializer' substitution')
  varRef {head : Head} {ref : VarRef} : P (.varRef head ref) (.varRef head ref)
  property {head : Head} {object object' : Expr} {dot : Token} {name : Name} {reader? : Option Method} :
    Kept P object object' → P (.property head object dot name reader?) (.property head object' dot name reader?)
  index {head : Head} {object object' position position' : Expr} {bracket : Token} {reader? : Option Method} :
    Kept P object object' → Kept P position position' →
      P (.index head object bracket position reader?) (.index head object' bracket position' reader?)
  unary {head : Head} {op : UnaryOp} {operand operand' e : Expr} :
    Kept P operand operand' → Settles (.unary head op operand') e → P (.unary head op operand) e
  binary {head : Head} {op : BinaryOp} {token : Token} {left left' right right' e : Expr} :
    Kept P left left' → Kept P right right' → Settles (.binary head op token left' right') e →
      P (.binary head op token left right) e
  compare {head : Head} {token : Token} {left left' right right' e : Expr} :
    Kept P left left' → Kept P right right' → Settles (.compare head token left' right') e →
      P (.compare head token left right) e
  isa {head : Head} {token : Token} {operand operand' e : Expr} {tested : TypeName} :
    Kept P operand operand' → Settles (.isa head token operand' tested) e → P (.isa head token operand tested) e
  literal {head : Head} {value : Value} : P (.literal head value) (.literal head value)
  empty {span : Span} : Q (.empty span) none
  emptyList {span : Span} {statements : List Stmt} : Left Q statements [] → Q (.list span statements) none
  singleList {span : Span} {statements : List Stmt} {s : Stmt} :
    Left Q statements [s] → Q (.list span statements) (some s)
  list {span : Span} {statements statements' : List Stmt} : Left Q statements statements' →
    2 ≤ statements'.length → Q (.list span statements) (some (.list (Stmt.keptSpan span statements') statements'))
  block {b : Block} {b'? : Option Block} : R b b'? → Q (.block b) (b'?.map .block)
  assign {span : Span} {target : VarRef} {value value' : Expr} :
    Kept P value value' → Q (.assign span target value) (some (.assign span target value'))
  breakLoop {span : Span} : Q (.breakLoop span) (some (.breakLoop span))
  emptyForEach {span : Span} {loopVar : VarRef} {range range' : Expr} {rangeEnd rangeEnd' : Option Expr}
    {reverse : Bool} {initializer initializer' : Option Stmt} {body body' : Option Block} :
    Kept P range range' → Option.Rel (Kept P) rangeEnd rangeEnd' → Part Q initializer initializer' →
      Body R body body' → Stmt.isEmptyRange range' rangeEnd' →
        Q (.forEach span loopVar range rangeEnd reverse initializer body)
          (some (.forEach span loopVar range' rangeEnd' reverse initializer' none))
  forEach {span : Span} {loopVar : VarRef} {range range' : Expr} {rangeEnd rangeEnd' : Option Expr} {reverse : Bool}
    {initializer initializer' : Option Stmt} {body body' : Option Block} :
    Kept P range range' → Option.Rel (Kept P) rangeEnd rangeEnd' → Part Q initializer initializer' →
      Body R body body' → Stmt.isEmptyRange range' rangeEnd' = false →
        Q (.forEach span loopVar range rangeEnd reverse initializer body)
          (some (.forEach span loopVar range' rangeEnd' reverse initializer' body'))
  constantCond {span : Span} {condition condition' : Expr} {thenPart elsePart part' : Option Block}
    {merged : Option (List Variable)} {b : Bool} :
    Kept P condition condition' → Stmt.decided? condition' = some b →
      Part R (if b then thenPart else elsePart) part' →
        Q (.cond span condition thenPart elsePart merged) (part'.map .block)
  turnedCond {span : Span} {condition condition' negation : Expr} {thenPart elsePart : Option Block} {part : Block}
    {merged : Option (List Variable)} :
    Kept P condition condition' → Stmt.decided? condition' = none → Part R thenPart none →
      Part R elsePart (some part) → condition'.negated condition'.span = .ok negation →
        Q (.cond span condition thenPart elsePart merged) (some (.cond span negation (some part) none merged))
  cond {span : Span} {condition condition' : Expr} {thenPart thenPart' elsePart elsePart' : Option Block}
    {merged : Option (List Variable)} :
    Kept P condition condition' → Stmt.decided? condition' = none → Part R thenPart thenPart' →
      Part R elsePart elsePart' → (thenPart' = none → elsePart' = none) →
        Q (.cond span condition thenPart elsePart merged) (some (.cond span condition' thenPart' elsePart' merged))
  substitution {span : Span} : Q (.substitution span) (some (.substitution span))
  eval {span : Span} {e e' : Expr} : Kept P e e' → Q (.eval span e) (some (.eval span e'))
  ret {span : Span} {value value' : Option Expr} :
    Option.Rel (Kept P) value value' → Q (.ret span value) (some (.ret span value'))
  guarded {span : Span} {part part' replacement replacement' : Option Stmt} :
    Part Q part part' → Part Q replacement replacement' →
      Q (.guarded span part replacement) (some (.guarded span part' replacement'))
  emptyBlock {span : Span} {statements : List Stmt} {initializer finalizer : Option Stmt} :
    Part Q initializer none → Left Q statements [] → Part Q finalizer none →
      R ⟨span, statements, initializer, finalizer⟩ none
  mkBlock {span : Span} {statements statements' : List Stmt}
    {initializer initializer' finalizer finalizer' : Option Stmt} :
    Part Q initializer initializer' → Left Q statements statements' → Part Q finalizer finalizer' →
      (Block.mk span statements' initializer' finalizer').isEmpty = false →
        R ⟨span, statements, initializer, finalizer⟩ (some ⟨span, statements', initializer', finalizer'⟩)

/-- What is left has the property `q`, if anything is left and what was there had the property `p`. -/
def Gives {α : Type} (p q : α → Prop) (a : α) (a'? : Option α) : Prop := p a → ∀ a', a'? = some a' → q a'

theorem gives_none {α : Type} {p q : α → Prop} {a : α} : Gives p q a none := fun _ => nofun

theorem forall_of_part {α : Type} {p q : α → Prop} {a? a'? : Option α} (h : Part (Gives p q) a? a'?)
    (ha : ∀ a, a? = some a → p a) : ∀ a', a'? = some a' → q a' := by
  cases h with
  | none => exact nofun
  | @some a a'? hgives => exact hgives (ha a rfl)

/-- A body has a property that an empty block has too. -/
theorem forall_of_body {p q r : Block → Prop} {b? b'? : Option Block} (h : Body (Gives p q) b? b'?)
    (hfull : ∀ {b}, q b → r b) (hempty : ∀ span, r (.empty span)) (hb : ∀ b, b? = some b → p b) :
    ∀ b', b'? = some b' → r b' := by
  cases h with
  | none => simp
  | @some b b'? hgives =>
    intro b' hb'
    cases hb'
    cases b'? with
    | none => exact hempty b.span
    | some b' => exact hfull (hgives (hb b rfl) b' rfl)

theorem forall_of_rel {α β : Type} {R : α → β → Prop} {p : α → Prop} {q : β → Prop} {a? : Option α} {b? : Option β}
    (h : Option.Rel R a? b?) (hstep : ∀ {a b}, R a b → p a → q b) (ha : ∀ a, a? = some a → p a) :
    ∀ b, b? = some b → q b := by
  cases h with
  | none => exact nofun
  | @some a b hab =>
    intro _ hsome
    cases hsome
    exact hstep hab (ha a rfl)

theorem forall_of_left {p q : Stmt → Prop} {ss ss' : List Stmt} (h : Left (Gives p q) ss ss') (hss : ∀ s ∈ ss, p s) :
    ∀ s ∈ ss', q s := by
  obtain ⟨left?, hleft, rfl⟩ := h
  intro s hs
  exact forall_mem_of_forall₂ hleft id hss (some s) (List.reduceOption_mem_iff.1 hs) s rfl

/-- What takes the place of an expression is what it folds to, coerced. -/
theorem kept_of_keepingTy {P : Expr → Expr → Prop} {e e' : Expr} (hfold : ∀ {d}, e.fold.result = .ok d → P e d)
    (h : (e.keepingTy e.fold).result = .ok e') : Kept P e e' := by
  obtain ⟨d, hd, hreplaced⟩ := Expr.keepingTy_result_eq_ok_iff.1 h
  exact ⟨d, hd, hfold hd, hreplaced⟩

namespace Cases

variable {P : Expr → Expr → Prop} {Q : Stmt → Option Stmt → Prop} {R : Block → Option Block → Prop}

theorem ofFoldList (cases : Cases P Q R) {span : Span} {statements left : List Stmt} {s'? : Option Stmt}
    (hleft : Left Q statements left) (h : (Stmt.foldList span left).result = .ok s'?) :
    Q (.list span statements) s'? := by
  rcases left with _ | ⟨s, _ | ⟨s', rest⟩⟩
  · cases h
    exact cases.emptyList hleft
  · cases h
    exact cases.singleList hleft
  · cases h
    exact cases.list hleft (by simp)

theorem ofFoldCond (cases : Cases P Q R) {span : Span} {condition condition' : Expr}
    {thenPart thenPart' elsePart elsePart' : Option Block} {merged : Option (List Variable)} {s : Stmt}
    (hcondition : Kept P condition condition') (hdecided : Stmt.decided? condition' = none)
    (hthen : Part R thenPart thenPart') (helse : Part R elsePart elsePart')
    (h : (Stmt.foldCond span condition' thenPart' elsePart' merged).result = .ok s) :
    Q (.cond span condition thenPart elsePart merged) (some s) := by
  unfold Stmt.foldCond at h
  split at h
  next part =>
    rw [applied_bind_result, Logged.bind_result_eq_ok_iff] at h
    obtain ⟨negation, hnegation, hs⟩ := h
    cases hs
    exact cases.turnedCond hcondition hdecided hthen helse hnegation
  next hother =>
    cases h
    refine cases.cond hcondition hdecided hthen helse fun hnone => ?_
    subst hnone
    cases elsePart' with
    | none => rfl
    | some part => exact absurd rfl (hother part rfl)

theorem ofFoldEmpty (cases : Cases P Q R) {span : Span} {statements left : List Stmt}
    {initializer initializer' finalizer finalizer' : Option Stmt} {b'? : Option Block}
    (hinitializer : Part Q initializer initializer') (hleft : Left Q statements left)
    (hfinalizer : Part Q finalizer finalizer')
    (h : (Block.foldEmpty ⟨span, left, initializer', finalizer'⟩).result = .ok b'?) :
    R ⟨span, statements, initializer, finalizer⟩ b'? := by
  unfold Block.foldEmpty at h
  split at h
  next hempty =>
    cases h
    simp only [Block.isEmpty, Bool.and_eq_true, List.isEmpty_iff, Option.isNone_iff_eq_none] at hempty
    obtain ⟨⟨rfl, rfl⟩, rfl⟩ := hempty
    exact cases.emptyBlock hinitializer hleft hfinalizer
  next hfull =>
    cases h
    exact cases.mkBlock hinitializer hleft hfinalizer (Bool.not_eq_true _ ▸ hfull)

mutual

/-- The relation holds between an expression and what it folds to. -/
theorem expr (cases : Cases P Q R) : ∀ (e : Expr) {e' : Expr}, e.fold.result = .ok e' → P e e'
  | .paren head inner, e', h => by
    rw [Expr.fold, applied_bind_result] at h
    exact cases.paren (cases.expr inner h)
  | .array head listSpan elements associative, e', h => by
    rw [Expr.fold, Logged.bind_result_eq_ok_iff] at h
    obtain ⟨elements', helements, he⟩ := h
    cases he
    exact cases.array (cases.exprs elements helements)
  | .call head kind callee listSpan arguments initializer substitution, e', h => by
    rw [Expr.fold, Logged.bind_result_eq_ok_iff] at h
    obtain ⟨arguments', harguments, h⟩ := h
    rw [Logged.bind_result_eq_ok_iff] at h
    obtain ⟨initializer', hinitializer, h⟩ := h
    rw [Logged.bind_result_eq_ok_iff] at h
    obtain ⟨substitution', hsubstitution, he⟩ := h
    cases he
    exact cases.call (cases.exprs arguments harguments) (cases.optionalStmt initializer hinitializer)
      (cases.body substitution hsubstitution)
  | .varRef head ref, e', h => by
    rw [Expr.fold] at h
    cases h
    exact cases.varRef
  | .property head object dot name reader?, e', h => by
    rw [Expr.fold, Logged.bind_result_eq_ok_iff] at h
    obtain ⟨object', hobject, he⟩ := h
    cases he
    exact cases.property (kept_of_keepingTy (cases.expr object) hobject)
  | .index head object bracket position reader?, e', h => by
    rw [Expr.fold, Logged.bind_result_eq_ok_iff] at h
    obtain ⟨object', hobject, h⟩ := h
    rw [Logged.bind_result_eq_ok_iff] at h
    obtain ⟨position', hposition, he⟩ := h
    cases he
    exact cases.index (kept_of_keepingTy (cases.expr object) hobject)
      (kept_of_keepingTy (cases.expr position) hposition)
  | .unary head op operand, e', h => by
    rw [Expr.fold, Logged.bind_result_eq_ok_iff] at h
    obtain ⟨operand', hoperand, h⟩ := h
    exact cases.unary (kept_of_keepingTy (cases.expr operand) hoperand)
      (settles_of_orKeep (fun _ _ => unary?_rewrites) final_of_unary? h)
  | .binary head op token left right, e', h => by
    rw [Expr.fold, Logged.bind_result_eq_ok_iff] at h
    obtain ⟨left', hleft, h⟩ := h
    rw [Logged.bind_result_eq_ok_iff] at h
    obtain ⟨right', hright, h⟩ := h
    exact cases.binary (kept_of_keepingTy (cases.expr left) hleft) (kept_of_keepingTy (cases.expr right) hright)
      (settles_of_orKeep (fun _ _ => binary?_rewrites) final_of_binary? h)
  | .compare head token left right, e', h => by
    rw [Expr.fold, Logged.bind_result_eq_ok_iff] at h
    obtain ⟨left', hleft, h⟩ := h
    rw [Logged.bind_result_eq_ok_iff] at h
    obtain ⟨right', hright, h⟩ := h
    exact cases.compare (kept_of_keepingTy (cases.expr left) hleft) (kept_of_keepingTy (cases.expr right) hright)
      (settles_of_orKeep (fun _ _ => compare?_rewrites) final_of_compare? h)
  | .isa head token operand tested, e', h => by
    rw [Expr.fold, Logged.bind_result_eq_ok_iff] at h
    obtain ⟨operand', hoperand, h⟩ := h
    rw [Logged.bind_result_eq_ok_iff] at h
    obtain ⟨outcome, houtcome, h⟩ := h
    refine cases.isa (kept_of_keepingTy (cases.expr operand) hoperand)
      (settles_of_orKeep (fun rule result hrule => ?_) (fun hnone => ?_) h)
    · subst hrule
      exact isa?_rewrites houtcome
    · subst hnone
      exact final_of_isa? houtcome
  | .literal head value, e', h => by
    rw [Expr.fold] at h
    cases h
    exact cases.literal
termination_by structural e => e

theorem exprs (cases : Cases P Q R) :
    ∀ (es : List Expr) {es' : List Expr}, (foldExprs es).result = .ok es' → List.Forall₂ (Kept P) es es'
  | [], es', h => by
    rw [foldExprs] at h
    cases h
    exact .nil
  | e :: rest, es', h => by
    rw [foldExprs, Logged.bind_result_eq_ok_iff] at h
    obtain ⟨e', he, h⟩ := h
    rw [Logged.bind_result_eq_ok_iff] at h
    obtain ⟨rest', hrest, hes⟩ := h
    cases hes
    exact .cons (kept_of_keepingTy (cases.expr e) he) (cases.exprs rest hrest)
termination_by structural es => es

theorem optionalExpr (cases : Cases P Q R) :
    ∀ (e? : Option Expr) {e'? : Option Expr}, (foldOptionalExpr e?).result = .ok e'? → Option.Rel (Kept P) e? e'?
  | none, e'?, h => by
    rw [foldOptionalExpr] at h
    cases h
    exact .none
  | some e, e'?, h => by
    rw [foldOptionalExpr, Logged.bind_result_eq_ok_iff] at h
    obtain ⟨e', he, hs⟩ := h
    cases hs
    exact .some (kept_of_keepingTy (cases.expr e) he)
termination_by structural e? => e?

/-- The relation holds between a statement and what it folds to. -/
theorem stmt (cases : Cases P Q R) : ∀ (s : Stmt) {s'? : Option Stmt}, s.fold.result = .ok s'? → Q s s'?
  | .empty span, s'?, h => by
    rw [Stmt.fold, applied_bind_result] at h
    cases h
    exact cases.empty
  | .list span statements, s'?, h => by
    rw [Stmt.fold, Logged.bind_result_eq_ok_iff] at h
    obtain ⟨left, hleft, h⟩ := h
    exact cases.ofFoldList (cases.stmts statements hleft) h
  | .block b, s'?, h => by
    rw [Stmt.fold, Logged.bind_result_eq_ok_iff] at h
    obtain ⟨b'?, hb, hs⟩ := h
    cases hs
    exact cases.block (cases.ofBlock b hb)
  | .assign span target value, s'?, h => by
    rw [Stmt.fold, Logged.bind_result_eq_ok_iff] at h
    obtain ⟨value', hvalue, hs⟩ := h
    cases hs
    exact cases.assign (kept_of_keepingTy (cases.expr value) hvalue)
  | .breakLoop span, s'?, h => by
    rw [Stmt.fold] at h
    cases h
    exact cases.breakLoop
  | .forEach span loopVar range rangeEnd reverse initializer body, s'?, h => by
    rw [Stmt.fold, Logged.bind_result_eq_ok_iff] at h
    obtain ⟨range', hrange, h⟩ := h
    rw [Logged.bind_result_eq_ok_iff] at h
    obtain ⟨rangeEnd', hrangeEnd, h⟩ := h
    rw [Logged.bind_result_eq_ok_iff] at h
    obtain ⟨initializer', hinitializer, h⟩ := h
    rw [Logged.bind_result_eq_ok_iff] at h
    obtain ⟨body', hbody, h⟩ := h
    split at h
    next hempty =>
      rw [applied_bind_result] at h
      cases h
      exact cases.emptyForEach (kept_of_keepingTy (cases.expr range) hrange) (cases.optionalExpr rangeEnd hrangeEnd)
        (cases.optionalStmt initializer hinitializer) (cases.body body hbody) hempty
    next hfull =>
      cases h
      exact cases.forEach (kept_of_keepingTy (cases.expr range) hrange) (cases.optionalExpr rangeEnd hrangeEnd)
        (cases.optionalStmt initializer hinitializer) (cases.body body hbody) (Bool.not_eq_true _ ▸ hfull)
  | .cond span condition thenPart elsePart merged, s'?, h => by
    rw [Stmt.fold, Logged.bind_result_eq_ok_iff] at h
    obtain ⟨condition', hcondition, h⟩ := h
    split at h
    next hdecided =>
      rw [applied_bind_result, Logged.bind_result_eq_ok_iff] at h
      obtain ⟨part', hpart, hs⟩ := h
      cases hs
      exact cases.constantCond (kept_of_keepingTy (cases.expr condition) hcondition) hdecided
        (cases.part thenPart hpart)
    next hdecided =>
      rw [applied_bind_result, Logged.bind_result_eq_ok_iff] at h
      obtain ⟨part', hpart, hs⟩ := h
      cases hs
      exact cases.constantCond (kept_of_keepingTy (cases.expr condition) hcondition) hdecided
        (cases.part elsePart hpart)
    next hdecided =>
      rw [Logged.bind_result_eq_ok_iff] at h
      obtain ⟨thenPart', hthen, h⟩ := h
      rw [Logged.bind_result_eq_ok_iff] at h
      obtain ⟨elsePart', helse, h⟩ := h
      rw [Logged.bind_result_eq_ok_iff] at h
      obtain ⟨s, hs, hsome⟩ := h
      cases hsome
      exact cases.ofFoldCond (kept_of_keepingTy (cases.expr condition) hcondition) hdecided (cases.part thenPart hthen)
        (cases.part elsePart helse) hs
  | .substitution span, s'?, h => by
    rw [Stmt.fold] at h
    cases h
    exact cases.substitution
  | .eval span e, s'?, h => by
    rw [Stmt.fold, Logged.bind_result_eq_ok_iff] at h
    obtain ⟨e', he, hs⟩ := h
    cases hs
    exact cases.eval (kept_of_keepingTy (cases.expr e) he)
  | .ret span value, s'?, h => by
    rw [Stmt.fold, Logged.bind_result_eq_ok_iff] at h
    obtain ⟨value', hvalue, hs⟩ := h
    cases hs
    exact cases.ret (cases.optionalExpr value hvalue)
  | .guarded span part replacement, s'?, h => by
    rw [Stmt.fold, Logged.bind_result_eq_ok_iff] at h
    obtain ⟨part', hpart, h⟩ := h
    rw [Logged.bind_result_eq_ok_iff] at h
    obtain ⟨replacement', hreplacement, hs⟩ := h
    cases hs
    exact cases.guarded (cases.optionalStmt part hpart) (cases.optionalStmt replacement hreplacement)
termination_by structural s => s

theorem stmts (cases : Cases P Q R) :
    ∀ (ss : List Stmt) {ss' : List Stmt}, (foldStmts ss).result = .ok ss' → Left Q ss ss'
  | [], ss', h => by
    rw [foldStmts] at h
    cases h
    exact ⟨[], .nil, rfl⟩
  | s :: rest, ss', h => by
    rw [foldStmts, Logged.bind_result_eq_ok_iff] at h
    obtain ⟨s'?, hs, h⟩ := h
    rw [Logged.bind_result_eq_ok_iff] at h
    obtain ⟨rest', hrest, hss⟩ := h
    obtain ⟨left?, hleft, rfl⟩ := cases.stmts rest hrest
    refine ⟨s'? :: left?, .cons (cases.stmt s hs) hleft, ?_⟩
    cases s'? <;> cases hss <;> rfl
termination_by structural ss => ss

theorem optionalStmt (cases : Cases P Q R) :
    ∀ (s? : Option Stmt) {s'? : Option Stmt}, (foldOptionalStmt s?).result = .ok s'? → Part Q s? s'?
  | none, s'?, h => by
    rw [foldOptionalStmt] at h
    cases h
    exact .none
  | some s, s'?, h => by
    rw [foldOptionalStmt] at h
    exact .some (cases.stmt s h)
termination_by structural s? => s?

/-- The relation holds between a block and what it folds to. -/
theorem ofBlock (cases : Cases P Q R) : ∀ (b : Block) {b'? : Option Block}, b.fold.result = .ok b'? → R b b'?
  | ⟨span, statements, initializer, finalizer⟩, b'?, h => by
    rw [Block.fold, Logged.bind_result_eq_ok_iff] at h
    obtain ⟨initializer', hinitializer, h⟩ := h
    rw [Logged.bind_result_eq_ok_iff] at h
    obtain ⟨left, hleft, h⟩ := h
    rw [Logged.bind_result_eq_ok_iff] at h
    obtain ⟨finalizer', hfinalizer, h⟩ := h
    exact cases.ofFoldEmpty (cases.optionalStmt initializer hinitializer) (cases.stmts statements hleft)
      (cases.optionalStmt finalizer hfinalizer) h
termination_by structural b => b

theorem part (cases : Cases P Q R) :
    ∀ (b? : Option Block) {b'? : Option Block}, (foldPart b?).result = .ok b'? → Part R b? b'?
  | none, b'?, h => by
    rw [foldPart] at h
    cases h
    exact .none
  | some b, b'?, h => by
    rw [foldPart] at h
    exact .some (cases.ofBlock b h)
termination_by structural b? => b?

theorem body (cases : Cases P Q R) :
    ∀ (b? : Option Block) {b'? : Option Block}, (foldOptionalBody b?).result = .ok b'? → Body R b? b'?
  | none, b'?, h => by
    rw [foldOptionalBody] at h
    cases h
    exact .none
  | some b, b'?, h => by
    rw [foldOptionalBody, Logged.bind_result_eq_ok_iff] at h
    obtain ⟨left?, hb, hs⟩ := h
    cases hs
    exact .some (cases.ofBlock b hb)
termination_by structural b? => b?

end

/-- The relation holds between the body of a template and what it folds to. Nothing else changes. -/
theorem template (cases : Cases P Q R) {t t' : Template} (h : t.fold.result = .ok t') :
    Part Q t.body t'.body ∧ t' = { t with body := t'.body } := by
  rw [Template.fold, Logged.bind_result_eq_ok_iff] at h
  obtain ⟨body', hbody, ht⟩ := h
  cases ht
  exact ⟨cases.optionalStmt t.body hbody, rfl⟩

end Cases

end Folding

end TemplateTree
