import Mathlib.Data.List.Forall2
import TemplateTree.Proofs.Folding.Induction

namespace TemplateTree

open TemplateTree.Folding

/-- `e'` fits the type of `e`, if that has one. -/
def Expr.Fits (e e' : Expr) : Prop := ∀ ty, e.ty? = some ty → ∃ ty', e'.ty? = some ty' ∧ ty.Fits ty'

mutual

/-- `e'` is what remains of `e`, and what stands in the place of an operand, an argument, an element, an
    object or an index below it fits there. An operator may be gone: then a constant, one of its operands
    or the complement of one remains, or what is left when two operators cancel. Nothing is said of the
    type of `e'` itself: `coerced` takes any target type. It takes array literals too, whose elements get
    the element type of the target, so the elements of an array literal that is coerced need not fit the
    types that they had. -/
inductive Expr.Remains : Expr → Expr → Prop
  | constant {e : Expr} {head : Head} {value : Value} : Expr.Remains e (.literal head value)
  | varRef {head : Head} {ref : VarRef} : Expr.Remains (.varRef head ref) (.varRef head ref)
  | paren {head : Head} {inner e' : Expr} (hinner : Expr.Remains inner e') : Expr.Remains (.paren head inner) e'
  | array {head : Head} {listSpan : Span} {elements elements' : List Expr} {associative : Bool}
    (helements : List.Forall₂ Expr.InPlace elements elements') :
    Expr.Remains (.array head listSpan elements associative) (.array head listSpan elements' associative)
  | call {head : Head} {kind : CallKind} {callee : Callee} {listSpan : Span} {arguments arguments' : List Expr}
    {initializer initializer' : Option Stmt} {substitution substitution' : Option Block}
    (harguments : List.Forall₂ Expr.InPlace arguments arguments')
    (hinitializer : Part Stmt.Remains initializer initializer')
    (hsubstitution : Body Block.Remains substitution substitution') :
    Expr.Remains (.call head kind callee listSpan arguments initializer substitution)
      (.call head kind callee listSpan arguments' initializer' substitution')
  | property {head : Head} {object object' : Expr} {dot : Token} {name : Name} {reader? : Option Method}
    (hobject : Expr.InPlace object object') :
    Expr.Remains (.property head object dot name reader?) (.property head object' dot name reader?)
  | index {head : Head} {object object' position position' : Expr} {bracket : Token} {reader? : Option Method}
    (hobject : Expr.InPlace object object') (hposition : Expr.InPlace position position') :
    Expr.Remains (.index head object bracket position reader?) (.index head object' bracket position' reader?)
  | unary {head : Head} {op : UnaryOp} {operand operand' : Expr} (hoperand : Expr.InPlace operand operand') :
    Expr.Remains (.unary head op operand) (.unary head op operand')
  | binary {head : Head} {op : BinaryOp} {token : Token} {left left' right right' : Expr}
    (hleft : Expr.InPlace left left') (hright : Expr.InPlace right right') :
    Expr.Remains (.binary head op token left right) (.binary head op token left' right')
  | compare {head : Head} {token : Token} {left left' right right' : Expr}
    (hleft : Expr.InPlace left left') (hright : Expr.InPlace right right') :
    Expr.Remains (.compare head token left right) (.compare head token left' right')
  | isa {head : Head} {token : Token} {operand operand' : Expr} {tested : TypeName}
    (hoperand : Expr.InPlace operand operand') :
    Expr.Remains (.isa head token operand tested) (.isa head token operand' tested)
  | operand {e operand operand' : Expr} (hmem : operand ∈ e.operands) (hoperand : Expr.InPlace operand operand') :
    Expr.Remains e operand'
  | complement {e operand operand' : Expr} {head : Head} (hmem : operand ∈ e.operands)
    (hoperand : Expr.InPlace operand operand') : Expr.Remains e (.unary head .not operand')
  | cancelled {e operand operand' inner : Expr} (hmem : operand ∈ e.operands)
    (hoperand : Expr.InPlace operand operand') (hinner : inner ∈ operand'.operands) : Expr.Remains e inner
  | coerced {e d d' : Expr} {target : Ty} (hremains : Expr.Remains e d) (hcoerced : Expr.Coerced target d d') :
    Expr.Remains e d'

/-- `e'` can stand in the place of `e`: it is what remains of it and fits its type. -/
inductive Expr.InPlace : Expr → Expr → Prop
  | mk {e e' : Expr} (hfits : e.Fits e') (hremains : Expr.Remains e e') : Expr.InPlace e e'

/-- What remains of a statement, which may be nothing. What stands in the place of a value or a bound in
    it fits there, and so does a condition that is not turned around. -/
inductive Stmt.Remains : Stmt → Option Stmt → Prop
  | gone {s : Stmt} : Stmt.Remains s none
  | single {span : Span} {statements : List Stmt} {left? : List (Option Stmt)} {s : Stmt}
    (hleft : List.Forall₂ Stmt.Remains statements left?) (hsingle : left?.reduceOption = [s]) :
    Stmt.Remains (.list span statements) (some s)
  | list {span span' : Span} {statements : List Stmt} {left? : List (Option Stmt)}
    (hleft : List.Forall₂ Stmt.Remains statements left?) :
    Stmt.Remains (.list span statements) (some (.list span' left?.reduceOption))
  | block {b b' : Block} (hblock : Block.Remains b (some b')) : Stmt.Remains (.block b) (some (.block b'))
  | assign {span : Span} {target : VarRef} {value value' : Expr} (hvalue : Expr.InPlace value value') :
    Stmt.Remains (.assign span target value) (some (.assign span target value'))
  | breakLoop {span : Span} : Stmt.Remains (.breakLoop span) (some (.breakLoop span))
  | forEach {span : Span} {loopVar : VarRef} {range range' : Expr} {rangeEnd rangeEnd' : Option Expr}
    {reverse : Bool} {initializer initializer' : Option Stmt} {body body' : Option Block}
    (hrange : Expr.InPlace range range') (hrangeEnd : Option.Rel Expr.InPlace rangeEnd rangeEnd')
    (hinitializer : Part Stmt.Remains initializer initializer') (hbody : Body Block.Remains body body') :
    Stmt.Remains (.forEach span loopVar range rangeEnd reverse initializer body)
      (some (.forEach span loopVar range' rangeEnd' reverse initializer' body'))
  | emptyForEach {span : Span} {loopVar : VarRef} {range range' : Expr} {rangeEnd rangeEnd' : Option Expr}
    {reverse : Bool} {initializer initializer' : Option Stmt} {body : Option Block}
    (hrange : Expr.InPlace range range') (hrangeEnd : Option.Rel Expr.InPlace rangeEnd rangeEnd')
    (hinitializer : Part Stmt.Remains initializer initializer') :
    Stmt.Remains (.forEach span loopVar range rangeEnd reverse initializer body)
      (some (.forEach span loopVar range' rangeEnd' reverse initializer' none))
  | thenPart {span : Span} {condition : Expr} {part part' : Block} {elsePart : Option Block}
    {merged : Option (List Variable)} (hpart : Block.Remains part (some part')) :
    Stmt.Remains (.cond span condition (some part) elsePart merged) (some (.block part'))
  | elsePart {span : Span} {condition : Expr} {part part' : Block} {thenPart : Option Block}
    {merged : Option (List Variable)} (hpart : Block.Remains part (some part')) :
    Stmt.Remains (.cond span condition thenPart (some part) merged) (some (.block part'))
  | cond {span : Span} {condition condition' : Expr} {thenPart thenPart' elsePart elsePart' : Option Block}
    {merged : Option (List Variable)} (hcondition : Expr.InPlace condition condition')
    (hthen : Part Block.Remains thenPart thenPart') (helse : Part Block.Remains elsePart elsePart') :
    Stmt.Remains (.cond span condition thenPart elsePart merged)
      (some (.cond span condition' thenPart' elsePart' merged))
  /-- The condition that is turned around fits the old type until it is made a boolean. -/
  | turned {span : Span} {condition condition' operand : Expr} {head : Head} {thenPart : Option Block}
    {part part' : Block} {merged : Option (List Variable)} (hcondition : Expr.InPlace condition condition')
    (hoperand : Expr.Coerced .boolean condition' operand) (hhead : head.chain.ty? = some .boolean)
    (hthen : Part Block.Remains thenPart none) (hpart : Block.Remains part (some part')) :
    Stmt.Remains (.cond span condition thenPart (some part) merged)
      (some (.cond span (.unary head .not operand) (some part') none merged))
  | substitution {span : Span} : Stmt.Remains (.substitution span) (some (.substitution span))
  | eval {span : Span} {e e' : Expr} (he : Expr.InPlace e e') : Stmt.Remains (.eval span e) (some (.eval span e'))
  | ret {span : Span} {value value' : Option Expr} (hvalue : Option.Rel Expr.InPlace value value') :
    Stmt.Remains (.ret span value) (some (.ret span value'))
  | guarded {span : Span} {part part' replacement replacement' : Option Stmt}
    (hpart : Part Stmt.Remains part part') (hreplacement : Part Stmt.Remains replacement replacement') :
    Stmt.Remains (.guarded span part replacement) (some (.guarded span part' replacement'))

/-- What remains of a block, which may be nothing. -/
inductive Block.Remains : Block → Option Block → Prop
  | gone {b : Block} : Block.Remains b none
  | mk {span : Span} {statements : List Stmt} {left? : List (Option Stmt)}
    {initializer initializer' finalizer finalizer' : Option Stmt}
    (hinitializer : Part Stmt.Remains initializer initializer')
    (hleft : List.Forall₂ Stmt.Remains statements left?) (hfinalizer : Part Stmt.Remains finalizer finalizer') :
    Block.Remains ⟨span, statements, initializer, finalizer⟩
      (some ⟨span, left?.reduceOption, initializer', finalizer'⟩)

end

/-- A boolean that is not null can be unboxed where it fits. -/
theorem Ty.Fits.of_boolean {target source unboxed : Ty} (h : target.Fits source) (hboolean : source.isBoolean)
    (hunboxed : Ty.boolean.Fits unboxed) : target.Fits unboxed := by
  obtain ⟨hprimitive, hkind⟩ := hunboxed.primitive rfl
  have hsource : source.kind = .boolean := by simpa [Ty.isBoolean] using hboolean
  refine ⟨?_, fun _ => ?_, fun htarget => ?_⟩
  · have haccepts := h.accepts
    rw [Ty.accepts, hsource] at haccepts
    rw [Ty.accepts, hkind]
    exact haccepts
  · simp [Ty.isNonNull, hprimitive]
  · obtain ⟨-, hsame⟩ := h.primitive htarget
    exact ⟨hprimitive, by rw [hkind, ← hsame, hsource]; rfl⟩

namespace Expr

theorem InPlace.fits {e e' : Expr} (h : e.InPlace e') : e.Fits e' := by
  cases h with
  | mk hfits _ => exact hfits

theorem InPlace.remains {e e' : Expr} (h : e.InPlace e') : e.Remains e' := by
  cases h with
  | mk _ hremains => exact hremains

/-- What remains of an expression can stand in its place once it is coerced the way the expression
    was. -/
theorem inPlace_of_kept {e e' : Expr} (h : Kept Remains e e') : e.InPlace e' := by
  obtain ⟨d, -, hremains, hreplaced⟩ := h
  refine .mk (fun ty hty => replacedBy_fits hty hreplaced) ?_
  exact replacedBy_induction (fun hcoerced hd => .coerced hd hcoerced) hreplaced hremains

/-- A boolean that is not null stays in place when it is made a primitive one. -/
theorem InPlace.coerced_boolean {e d d' : Expr} (h : e.InPlace d) (hsure : d.isSureBoolean)
    (hcoerced : Coerced .boolean d d') : e.InPlace d' := by
  refine .mk (fun ty hty => ?_) (.coerced h.remains hcoerced)
  obtain ⟨ty', hty', hfits⟩ := h.fits ty hty
  obtain ⟨unboxed, hunboxed, hboolean⟩ := hcoerced.fits
  rw [isSureBoolean, hty', Option.any_some, Bool.and_eq_true] at hsure
  exact ⟨unboxed, hunboxed, hfits.of_boolean hsure.2 hboolean⟩

/-- A comparison with a known truth value leaves its other operand or the complement of that. -/
theorem remains_of_keepOrNegate {e operand operand' e' : Expr} {known : Bool} {operator : TokenKind} {span : Span}
    (hmem : operand ∈ e.operands) (hoperand : operand.InPlace operand') (hsure : operand'.isSureBoolean)
    (h : keepOrNegate known operator span operand' = .ok e') : e.Remains e' := by
  unfold keepOrNegate at h
  split at h
  next =>
    cases h
    exact .operand hmem hoperand
  next =>
    obtain ⟨unboxed, hcoerced, rfl⟩ := negated_eq_ok h
    exact .complement hmem (hoperand.coerced_boolean hsure hcoerced)

/-- Whatever a rule puts in the place of an operator is made of what is in place below it. -/
theorem Remains.of_settles {e node e' : Expr} (hnode : e.Remains node)
    (hoperands : ∀ operand' ∈ node.operands, ∃ operand ∈ e.operands, operand.InPlace operand')
    (h : Settles node e') : e.Remains e' := by
  cases h with
  | kept => exact hnode
  | rewritten hrule =>
    generalize hresult : (Except.ok e' : Except TreeError Expr) = result at hrule
    cases hrule with
    | doubleNegate | doubleNot =>
      cases hresult
      obtain ⟨operand, hmem, hoperand⟩ := hoperands _ (List.mem_singleton_self _)
      exact .cancelled hmem hoperand (List.mem_singleton_self _)
    | concatenateEmptyLeft | andTrueLeft | orFalseLeft =>
      cases hresult
      obtain ⟨operand, hmem, hoperand⟩ := hoperands _ (List.mem_cons_of_mem _ (List.mem_singleton_self _))
      exact .operand hmem hoperand
    | concatenateEmptyRight | andTrueRight | orFalseRight =>
      cases hresult
      obtain ⟨operand, hmem, hoperand⟩ := hoperands _ List.mem_cons_self
      exact .operand hmem hoperand
    | compareBooleanLeft _ _ hsure =>
      obtain ⟨operand, hmem, hoperand⟩ := hoperands _ (List.mem_cons_of_mem _ (List.mem_singleton_self _))
      exact remains_of_keepOrNegate hmem hoperand hsure hresult.symm
    | compareBooleanRight _ hsure =>
      obtain ⟨operand, hmem, hoperand⟩ := hoperands _ List.mem_cons_self
      exact remains_of_keepOrNegate hmem hoperand hsure hresult.symm
    | _ =>
      cases hresult
      exact .constant

theorem inPlace_single {operand operand' : Expr} (h : operand.InPlace operand') :
    ∀ o' ∈ [operand'], ∃ o ∈ [operand], o.InPlace o' := by
  intro o' ho'
  obtain rfl := List.mem_singleton.1 ho'
  exact ⟨operand, List.mem_singleton_self _, h⟩

theorem inPlace_pair {left left' right right' : Expr} (hleft : left.InPlace left') (hright : right.InPlace right') :
    ∀ o' ∈ [left', right'], ∃ o ∈ [left, right], o.InPlace o' := by
  intro o' ho'
  obtain rfl | ho' := List.mem_cons.1 ho'
  · exact ⟨left, List.mem_cons_self, hleft⟩
  · obtain rfl := List.mem_singleton.1 ho'
    exact ⟨right, List.mem_cons_of_mem _ (List.mem_singleton_self _), hright⟩

end Expr

namespace Folding

theorem forall₂_inPlace {es es' : List Expr} (h : List.Forall₂ (Kept Expr.Remains) es es') :
    List.Forall₂ Expr.InPlace es es' := List.Forall₂.imp (fun _ _ => Expr.inPlace_of_kept) h

theorem rel_inPlace {e? e'? : Option Expr} (h : Option.Rel (Kept Expr.Remains) e? e'?) :
    Option.Rel Expr.InPlace e? e'? := by
  cases h with
  | none => exact .none
  | some h => exact .some (Expr.inPlace_of_kept h)

/-- The pass leaves nothing but what `Expr.Remains`, `Stmt.Remains` and `Block.Remains` allow. -/
theorem remains_cases : Cases Expr.Remains Stmt.Remains Block.Remains where
  paren hinner := .paren hinner
  array helements := .array (forall₂_inPlace helements)
  call harguments hinitializer hsubstitution := .call (forall₂_inPlace harguments) hinitializer hsubstitution
  varRef := .varRef
  property hobject := .property (Expr.inPlace_of_kept hobject)
  index hobject hposition := .index (Expr.inPlace_of_kept hobject) (Expr.inPlace_of_kept hposition)
  unary hoperand hsettles := by
    have hplace := Expr.inPlace_of_kept hoperand
    exact .of_settles (.unary hplace) (Expr.inPlace_single hplace) hsettles
  binary hleft hright hsettles := by
    have hleftPlace := Expr.inPlace_of_kept hleft
    have hrightPlace := Expr.inPlace_of_kept hright
    exact .of_settles (.binary hleftPlace hrightPlace) (Expr.inPlace_pair hleftPlace hrightPlace) hsettles
  compare hleft hright hsettles := by
    have hleftPlace := Expr.inPlace_of_kept hleft
    have hrightPlace := Expr.inPlace_of_kept hright
    exact .of_settles (.compare hleftPlace hrightPlace) (Expr.inPlace_pair hleftPlace hrightPlace) hsettles
  isa hoperand hsettles := by
    have hplace := Expr.inPlace_of_kept hoperand
    exact .of_settles (.isa hplace) (Expr.inPlace_single hplace) hsettles
  literal := .constant
  empty := .gone
  emptyList _ := .gone
  singleList hleft := by
    obtain ⟨left?, hremain, hsingle⟩ := hleft
    exact .single hremain hsingle.symm
  list hleft _ := by
    obtain ⟨left?, hremain, rfl⟩ := hleft
    exact .list hremain
  block {b b'?} hblock := by
    cases b'? with
    | none => exact .gone
    | some b' => exact .block hblock
  assign hvalue := .assign (Expr.inPlace_of_kept hvalue)
  breakLoop := .breakLoop
  emptyForEach hrange hrangeEnd hinitializer _ _ :=
    .emptyForEach (Expr.inPlace_of_kept hrange) (rel_inPlace hrangeEnd) hinitializer
  forEach hrange hrangeEnd hinitializer hbody _ :=
    .forEach (Expr.inPlace_of_kept hrange) (rel_inPlace hrangeEnd) hinitializer hbody
  constantCond {span condition condition' thenPart elsePart part' merged b} _ _ hpart := by
    cases part' with
    | none => exact .gone
    | some part' =>
      generalize htaken : (if b then thenPart else elsePart) = taken at hpart
      cases hpart with
      | some hblock =>
        cases b with
        | true =>
          obtain rfl : thenPart = _ := htaken
          exact .thenPart hblock
        | false =>
          obtain rfl : elsePart = _ := htaken
          exact .elsePart hblock
  turnedCond hcondition _ hthen helse hnegation := by
    obtain ⟨operand, hcoerced, rfl⟩ := Expr.negated_eq_ok hnegation
    cases helse with
    | some hpart => exact .turned (Expr.inPlace_of_kept hcondition) hcoerced rfl hthen hpart
  cond hcondition _ hthen helse _ := .cond (Expr.inPlace_of_kept hcondition) hthen helse
  substitution := .substitution
  eval he := .eval (Expr.inPlace_of_kept he)
  ret hvalue := .ret (rel_inPlace hvalue)
  guarded hpart hreplacement := .guarded hpart hreplacement
  emptyBlock _ _ _ := .gone
  mkBlock hinitializer hleft hfinalizer _ := by
    obtain ⟨left?, hremain, rfl⟩ := hleft
    exact .mk hinitializer hremain hfinalizer

/-- A conditional without a first part, on an integer. -/
def unlessCount : Template :=
  let span : Span := ⟨1, 0, 8⟩
  let count : Variable := .ofTy span "count" .int
  { span, name := ⟨span, "t"⟩, params := [count], takesSubstitution := true, returnTy := none,
    body := some (.cond span (.varRef ⟨span, .ofTy .int, false⟩ ⟨⟨span, "count"⟩, some count⟩) none
      (some (.wrap (.substitution span))) none) }

/-- The condition that is turned around need not fit: it is a boolean where an integer was. -/
theorem unlessCount_not_fits :
    ∃ span condition condition' part, unlessCount.body = some (.cond span condition none (some part) none) ∧
      unlessCount.fold.result =
        .ok { unlessCount with body := some (.cond span condition' (some part) none none) } ∧
      condition.ty? = some .int ∧ condition'.ty? = some .boolean ∧ ¬ condition.Fits condition' := by
  refine ⟨_, _, _, _, rfl, rfl, rfl, rfl, fun hfits => ?_⟩
  obtain ⟨ty', hty', hint⟩ := hfits .int rfl
  cases hty'
  exact absurd hint.accepts (by decide)

/-- What takes the place of an expression fits the type that the expression had. So it is in a template
    that is folded at the operands, arguments, objects and indices of expressions and at the values,
    bounds and conditions of statements. It is not at the conditions that are turned around, and it is not
    at the elements of array literals that are coerced: a coercion takes any target, and it changes the
    types of the elements to the element type of that. -/
theorem fits_keepingTy_and_remains_fold :
    (∀ {e e' : Expr} {ty : Ty}, e.ty? = some ty → (e.keepingTy e.fold).result = .ok e' →
      ∃ ty', e'.ty? = some ty' ∧ ty.Fits ty') ∧
    ∀ {t t' : Template}, t.fold.result = .ok t' → Part Stmt.Remains t.body t'.body := by
  refine ⟨fun hty h => ?_, fun h => (remains_cases.template h).1⟩
  obtain ⟨d, -, hreplaced⟩ := Expr.keepingTy_result_eq_ok_iff.1 h
  exact Expr.replacedBy_fits hty hreplaced

/-- A negated integer that is used as a long. -/
def widenedNegation : Expr :=
  .unary ⟨⟨1, 0, 2⟩, ⟨[⟨none, .int, true⟩, ⟨some .int, .long, true⟩]⟩, false⟩ .negate (.ofNumber ⟨1, 1, 2⟩ (.int 5))

theorem widenedNegation_fits_keepingTy :
    (∃ e', (widenedNegation.keepingTy widenedNegation.fold).result = .ok e' ∧ widenedNegation.ty? = some .long ∧
      e' ≠ widenedNegation ∧ ∃ ty', e'.ty? = some ty' ∧ Ty.long.Fits ty') ∧
    ∃ t', unlessCount.fold.result = .ok t' ∧ Part Stmt.Remains unlessCount.body t'.body := by
  refine ⟨⟨_, rfl, rfl, nofun, ?_⟩, ⟨_, rfl, ?_⟩⟩
  · exact fits_keepingTy_and_remains_fold.1 (e := widenedNegation) rfl rfl
  · exact fits_keepingTy_and_remains_fold.2 (t := unlessCount) rfl

end Folding

end TemplateTree
