import TemplateTree.Proofs.Folding.Rewrite
import TemplateTree.Proofs.Meaning.Constants

namespace TemplateTree

namespace Expr

theorem knownBoolean?_eq_some_iff {e : Expr} {b : Bool} : e.knownBoolean? = some b ↔ e.known? = some (.boolean b) := by
  unfold knownBoolean?
  rcases e.known? with _ | _ | _ | _ | _ <;> simp [Value.boolean?]

theorem knownString?_eq_some_iff {e : Expr} {s : String} : e.knownString? = some s ↔ e.known? = some (.string s) := by
  unfold knownString?
  rcases e.known? with _ | _ | _ | _ | _ <;> simp [Value.string?]

theorem knownNumber?_eq_some_iff {e : Expr} {n : Number} : e.knownNumber? = some n ↔ e.known? = some (.number n) := by
  unfold knownNumber?
  rcases e.known? with _ | _ | _ | _ | _ <;> simp [Value.number?]

theorem isKnownNull_iff {e : Expr} : e.isKnownNull ↔ e.known? = some .null := by
  unfold isKnownNull
  rcases e.known? with _ | _ | _ | _ | _ <;> simp [Value.isNull]

theorem inScope_ofValue {scope : Scope} {span : Span} {value : Value} : (Expr.ofValue span value).InScope scope :=
  every_literal.2 trivial

/-- `e'` can stand for `e`: it asks no more of the variables, and it evaluates to the same where their
    types and those of calls are respected. -/
structure SameMeaning (e e' : Expr) : Prop where
  inScope {scope : Scope} : e.InScope scope → e'.InScope scope
  eval_eq {scope : Scope} {env : Env} {oracle : Oracle} :
    e.InScope scope → env.Respects scope → oracle.Respects → e'.eval env oracle = e.eval env oracle

namespace SameMeaning

variable {e e' : Expr}

theorem refl (e : Expr) : SameMeaning e e := ⟨id, fun _ _ _ => rfl⟩

theorem trans {e'' : Expr} (h : SameMeaning e e') (h' : SameMeaning e' e'') : SameMeaning e e'' where
  inScope hscope := h'.inScope (h.inScope hscope)
  eval_eq hscope henv horacle := (h'.eval_eq (h.inScope hscope) henv horacle).trans (h.eval_eq hscope henv horacle)

/-- An expression that always evaluates to the same value can be replaced by a literal. -/
theorem ofValue {value : Value} {span : Span}
    (h : ∀ {scope : Scope} {env : Env} {oracle : Oracle}, e.InScope scope → env.Respects scope → oracle.Respects →
      e.eval env oracle = pure value) : SameMeaning e (.ofValue span value) where
  inScope _ := inScope_ofValue
  eval_eq hscope henv horacle := by rw [h hscope henv horacle, Expr.ofValue, eval_literal]

theorem paren {head : Head} {inner : Expr} : SameMeaning (.paren head inner) inner where
  inScope hscope := inScope_paren.1 hscope
  eval_eq _ _ _ := (eval_paren _ _).symm

theorem unary {head : Head} {op : UnaryOp} {operand operand' : Expr} (h : SameMeaning operand operand') :
    SameMeaning (.unary head op operand) (.unary head op operand') where
  inScope hscope := inScope_unary.2 (h.inScope (inScope_unary.1 hscope))
  eval_eq hscope henv horacle := by
    have heval := h.eval_eq (inScope_unary.1 hscope) henv horacle
    cases op with
    | negate => rw [eval_negate, eval_negate, heval]
    | not => rw [eval_not, eval_not, heval]

theorem binary {head : Head} {op : BinaryOp} {token : Token} {left right left' right' : Expr}
    (hl : SameMeaning left left') (hr : SameMeaning right right') :
    SameMeaning (.binary head op token left right) (.binary head op token left' right') where
  inScope hscope := by
    obtain ⟨hleft, hright⟩ := inScope_binary.1 hscope
    exact inScope_binary.2 ⟨hl.inScope hleft, hr.inScope hright⟩
  eval_eq hscope henv horacle := by
    obtain ⟨hleft, hright⟩ := inScope_binary.1 hscope
    have hevalLeft := hl.eval_eq hleft henv horacle
    have hevalRight := hr.eval_eq hright henv horacle
    cases op with
    | concatenate => rw [eval_concatenate, eval_concatenate, hevalLeft, hevalRight]
    | arithmetic => rw [eval_arithmetic, eval_arithmetic, hevalLeft, hevalRight]
    | and => rw [eval_and, eval_and, hevalLeft, hevalRight]
    | or => rw [eval_or, eval_or, hevalLeft, hevalRight]

theorem compare {head : Head} {token : Token} {left right left' right' : Expr}
    (hl : SameMeaning left left') (hr : SameMeaning right right') :
    SameMeaning (.compare head token left right) (.compare head token left' right') where
  inScope hscope := by
    obtain ⟨hleft, hright⟩ := inScope_compare.1 hscope
    exact inScope_compare.2 ⟨hl.inScope hleft, hr.inScope hright⟩
  eval_eq hscope henv horacle := by
    obtain ⟨hleft, hright⟩ := inScope_compare.1 hscope
    rw [eval_compare, eval_compare, hl.eval_eq hleft henv horacle, hr.eval_eq hright henv horacle]

theorem call {span listSpan : Span} {callee : Callee} {ty : Ty} {arguments arguments' : List Expr}
    (h : List.Forall₂ SameMeaning arguments arguments') :
    SameMeaning (.call (.natural span ty) .function callee listSpan arguments none none)
      (.call (.natural span ty) .function callee listSpan arguments' none none) where
  inScope hscope := by
    rw [inScope_call] at hscope ⊢
    induction h with
    | nil => exact hscope
    | cons h _ ih =>
      simp only [List.forall_mem_cons] at hscope ⊢
      exact ⟨h.inScope hscope.1, ih hscope.2⟩
  eval_eq {scope env oracle} hscope henv horacle := by
    have hvalues : evalAll env oracle arguments' = evalAll env oracle arguments := by
      rw [inScope_call] at hscope
      induction h with
      | nil => rfl
      | cons h _ ih =>
        simp only [List.forall_mem_cons] at hscope
        rw [evalAll, evalAll, h.eval_eq hscope.1 henv horacle, ih hscope.2]
    rw [eval_call (Head.natural_ty? _ _), eval_call (Head.natural_ty? _ _), hvalues]

end SameMeaning

end Expr

namespace Value

theorem opposite_number {ty : Ty} {n : Number} (h : ty.Holds (.number n)) :
    (number n).opposite = .ok (number n.negated) ∧ n.negated.naturalTy = ty ∧ ty.Holds (.number n.negated) := by
  cases h with
  | int n => exact ⟨by simp [opposite, Number.negated], rfl, .int _⟩
  | long n => exact ⟨by simp [opposite, Number.negated], rfl, .long _⟩

theorem opposite_opposite {ty : Ty} {value : Value} (hty : ty ∈ Ty.integers) (h : ty.Holds value) :
    ∃ w, value.opposite = .ok w ∧ w.opposite = .ok value := by
  cases h with
  | int n =>
    refine ⟨_, (opposite_number (.int n)).1, ?_⟩
    rw [Number.negated, (opposite_number (.int (-n))).1, Number.negated, Int32.neg_neg]
  | long n =>
    refine ⟨_, (opposite_number (.long n)).1, ?_⟩
    rw [Number.negated, (opposite_number (.long (-n))).1, Number.negated, Int64.neg_neg]
  | boolean | nonNullString | string | noString | null => exact absurd hty (by decide)

end Value

namespace Folding

open TemplateTree.Expr

theorem Rewrites.unary_sound {rule : Rule} {head : Head} {op : UnaryOp} {operand : Expr}
    {result : Except TreeError Expr} {ty : Ty} (h : Rewrites rule (.unary head op operand) result)
    (hplain : (Expr.unary head op operand).Plain ty) :
    ∃ e, result = .ok e ∧ e.Plain ty ∧ SameMeaning (.unary head op operand) e := by
  cases h with
  | @negateConstant _ _ n hknown =>
    cases hplain with
    | negate hty hoperand =>
      have hknown := knownNumber?_eq_some_iff.1 hknown
      obtain ⟨hopposite, rfl, hholds⟩ := Value.opposite_number (hoperand.holds_of_known hknown).2
      refine ⟨_, rfl, .literal hholds, .ofValue fun _ _ _ => ?_⟩
      rw [eval_negate, hoperand.eval_of_known hknown, pure_bind, hopposite, Machine.done_ok]
  | doubleNegate =>
    cases hplain with
    | negate hty hoperand =>
      cases hoperand with
      | negate _ hinner =>
        refine ⟨_, rfl, hinner, fun hscope => inScope_unary.1 (inScope_unary.1 hscope), fun hscope henv horacle => ?_⟩
        have hyields := hinner.yields (inScope_unary.1 (inScope_unary.1 hscope)) henv horacle
        rw [eval_negate, eval_negate, bind_assoc]
        refine (hyields.bind_eq_self fun v hv => ?_).symm
        obtain ⟨w, hw, hv⟩ := Value.opposite_opposite hty hv
        rw [hw, Machine.done_ok, pure_bind, hv, Machine.done_ok]
  | @notConstant _ _ b hknown =>
    cases hplain with
    | not hoperand =>
      have hknown := knownBoolean?_eq_some_iff.1 hknown
      refine ⟨_, rfl, .literal (.boolean _), .ofValue fun _ _ _ => ?_⟩
      rw [eval_not, hoperand.eval_of_known hknown, pure_bind, Value.complement, Machine.done_ok]
  | doubleNot =>
    cases hplain with
    | not hoperand =>
      cases hoperand with
      | not hinner =>
        refine ⟨_, rfl, hinner, fun hscope => inScope_unary.1 (inScope_unary.1 hscope), fun hscope henv horacle => ?_⟩
        have hyields := hinner.yields (inScope_unary.1 (inScope_unary.1 hscope)) henv horacle
        rw [eval_not, eval_not, bind_assoc]
        refine (hyields.bind_eq_self fun v hv => ?_).symm
        cases hv with
        | boolean b => simp [Value.complement]

theorem Rewrites.binary_sound {rule : Rule} {head : Head} {op : BinaryOp} {token : Token} {left right : Expr}
    {result : Except TreeError Expr} {ty : Ty} (h : Rewrites rule (.binary head op token left right) result)
    (hplain : (Expr.binary head op token left right).Plain ty) :
    ∃ e, result = .ok e ∧ e.Plain ty ∧ SameMeaning (.binary head op token left right) e := by
  cases h with
  | concatenateConstants hleft hright =>
    cases hplain with
    | concatenate hl hr =>
      refine ⟨_, rfl, .literal (.nonNullString _), .ofValue fun _ _ _ => ?_⟩
      rw [eval_concatenate, hl.eval_of_known (knownString?_eq_some_iff.1 hleft), pure_bind,
        hr.eval_of_known (knownString?_eq_some_iff.1 hright), pure_bind, Value.join, Machine.done_ok]
  | concatenateEmptyLeft hleft =>
    cases hplain with
    | concatenate hl hr =>
      refine ⟨_, rfl, hr, fun hscope => (inScope_binary.1 hscope).2, fun hscope henv horacle => ?_⟩
      rw [eval_concatenate, hl.eval_of_known (knownString?_eq_some_iff.1 hleft), pure_bind]
      refine ((hr.yields (inScope_binary.1 hscope).2 henv horacle).bind_eq_self fun v hv => ?_).symm
      cases hv with
      | nonNullString s => rw [Value.join, String.empty_append, Machine.done_ok]
  | concatenateEmptyRight hright =>
    cases hplain with
    | concatenate hl hr =>
      refine ⟨_, rfl, hl, fun hscope => (inScope_binary.1 hscope).1, fun hscope henv horacle => ?_⟩
      rw [eval_concatenate]
      refine ((hl.yields (inScope_binary.1 hscope).1 henv horacle).bind_eq_self fun v hv => ?_).symm
      rw [hr.eval_of_known (knownString?_eq_some_iff.1 hright), pure_bind]
      cases hv with
      | nonNullString s => rw [Value.join, String.append_empty, Machine.done_ok]
  | arithmeticConstants hhead hleft hright hleftTy hrightTy hvalue =>
    cases hplain with
    | arithmetic hty htoken hl hr =>
      have hleft := knownNumber?_eq_some_iff.1 hleft
      have hright := knownNumber?_eq_some_iff.1 hright
      cases Option.some.inj (hleftTy.symm.trans hl.ty?_eq)
      obtain ⟨hcombine, hnatural, hholds⟩ :=
        Number.combine_of_arithmetic? (hl.holds_of_known hleft).2 (hr.holds_of_known hright).2 hvalue
      subst hnatural
      refine ⟨_, rfl, .literal hholds, .ofValue fun _ _ _ => ?_⟩
      rw [eval_arithmetic, hl.eval_of_known hleft, pure_bind, hr.eval_of_known hright, pure_bind, hcombine,
        Machine.done_ok]
  | andTrueLeft hleft =>
    cases hplain with
    | and hl hr =>
      refine ⟨_, rfl, hr, fun hscope => (inScope_binary.1 hscope).2, fun _ _ _ => ?_⟩
      rw [eval_and, hl.eval_of_known (knownBoolean?_eq_some_iff.1 hleft), pure_bind, Value.andAlso]
  | andFalseLeft hleft =>
    cases hplain with
    | and hl hr =>
      refine ⟨_, rfl, .literal (.boolean _), .ofValue fun _ _ _ => ?_⟩
      rw [eval_and, hl.eval_of_known (knownBoolean?_eq_some_iff.1 hleft), pure_bind, Value.andAlso]
  | andTrueRight hright =>
    cases hplain with
    | and hl hr =>
      refine ⟨_, rfl, hl, fun hscope => (inScope_binary.1 hscope).1, fun hscope henv horacle => ?_⟩
      rw [eval_and, hr.eval_of_known (knownBoolean?_eq_some_iff.1 hright)]
      refine ((hl.yields (inScope_binary.1 hscope).1 henv horacle).bind_eq_self fun v hv => ?_).symm
      cases hv with
      | boolean b => cases b <;> rfl
  | orTrueLeft hleft =>
    cases hplain with
    | or hl hr =>
      refine ⟨_, rfl, .literal (.boolean _), .ofValue fun _ _ _ => ?_⟩
      rw [eval_or, hl.eval_of_known (knownBoolean?_eq_some_iff.1 hleft), pure_bind, Value.orElse]
  | orFalseLeft hleft =>
    cases hplain with
    | or hl hr =>
      refine ⟨_, rfl, hr, fun hscope => (inScope_binary.1 hscope).2, fun _ _ _ => ?_⟩
      rw [eval_or, hl.eval_of_known (knownBoolean?_eq_some_iff.1 hleft), pure_bind, Value.orElse]
  | orFalseRight hright =>
    cases hplain with
    | or hl hr =>
      refine ⟨_, rfl, hl, fun hscope => (inScope_binary.1 hscope).1, fun hscope henv horacle => ?_⟩
      rw [eval_or, hr.eval_of_known (knownBoolean?_eq_some_iff.1 hright)]
      refine ((hl.yields (inScope_binary.1 hscope).1 henv horacle).bind_eq_self fun v hv => ?_).symm
      cases hv with
      | boolean b => cases b <;> rfl

/-- A plain truth value is a boolean already. -/
theorem convertTo_boolean {e : Expr} {ty : Ty} (h : e.Plain ty) (hty : ty = .boolean) (preferCast : Bool) :
    e.convertTo .boolean preferCast = .done e := by
  induction h with
  | paren _ ih =>
    rw [convertTo, ih hty]
    rfl
  | varRef | call =>
    subst hty
    rfl
  | not | and | or | compareOrdered | compareBooleans | compareNull => rfl
  | @literal span value hvalue =>
    rw [hty] at hvalue
    cases hvalue with
    | boolean b => rfl
  | negate hinteger =>
    subst hty
    exact absurd hinteger (by decide)
  | arithmetic hinteger =>
    subst hty
    exact absurd hinteger (by decide)
  | concatenate => exact absurd hty (by decide)

theorem negated_plain {e : Expr} (h : e.Plain .boolean) (span : Span) :
    e.negated span = .ok (.unary (.natural span .boolean) .not e) := by
  unfold Expr.negated
  rw [convertTo_boolean h rfl]
  rfl

/-- Comparing a truth value with a known one keeps it or complements it. -/
theorem keepOrNegate_sound {known : Bool} {operator : TokenKind} {span : Span} {e : Expr} (h : e.Plain .boolean)
    (hoperator : operator.isEquality) :
    ∃ e', keepOrNegate known operator span e = .ok e' ∧ e'.Plain .boolean ∧
      (∀ {scope : Scope}, e.InScope scope → e'.InScope scope) ∧
      ∀ {env : Env} {oracle : Oracle}, (e.eval env oracle).Yields Ty.boolean.Holds →
        e'.eval env oracle = e.eval env oracle >>= fun v => Machine.done ((Value.boolean known).holds operator v) := by
  unfold keepOrNegate
  split
  next hkeep =>
    refine ⟨e, rfl, h, id, fun hyields => ?_⟩
    refine (hyields.bind_eq_self fun v hv => ?_).symm
    cases hv with
    | boolean b =>
      rw [Value.holds_booleans hoperator, ← beq_iff_eq.1 hkeep, Machine.done_ok]
      cases known <;> cases b <;> rfl
  next hnegate =>
    refine ⟨_, negated_plain h span, .not h, inScope_unary.2, fun hyields => ?_⟩
    rw [eval_not]
    refine hyields.bind_congr fun v hv => ?_
    cases hv with
    | boolean b =>
      rw [Value.holds_booleans hoperator, Value.complement]
      cases known <;> cases b <;> cases hop : operator == TokenKind.eq <;> simp_all

/-- The operands of a plain comparison are plain, and both are truth values if one of them is known
    to be. -/
private theorem compare_operands {head : Head} {token : Token} {left right : Expr} {ty : Ty}
    (h : (Expr.compare head token left right).Plain ty) :
    ty = .boolean ∧ ∃ leftTy rightTy, left.Plain leftTy ∧ right.Plain rightTy ∧
      (leftTy = .boolean ∨ rightTy = .boolean → leftTy = .boolean ∧ rightTy = .boolean) := by
  cases h with
  | compareOrdered hty _ hl hr =>
    refine ⟨rfl, _, _, hl, hr, fun hboolean => ?_⟩
    rw [or_self] at hboolean
    exact ⟨hboolean, hboolean⟩
  | compareBooleans _ hl hr => exact ⟨rfl, _, _, hl, hr, fun _ => ⟨rfl, rfl⟩⟩
  | compareNull _ hleftTy hrightTy _ hl hr =>
    refine ⟨rfl, _, _, hl, hr, fun hboolean => ?_⟩
    obtain rfl | rfl := hboolean
    · exact absurd hleftTy (by decide)
    · exact absurd hrightTy (by decide)

/-- Known values are compared the way they are at run time. -/
private theorem answer?_sound {head : Head} {token : Token} {left right : Expr} {leftTy rightTy : Ty} {answer : Bool}
    {env : Env} {oracle : Oracle} (hl : left.Plain leftTy) (hr : right.Plain rightTy)
    (h : answer? token.kind left right = some answer) :
    (Expr.compare head token left right).eval env oracle = pure (.boolean answer) := by
  unfold answer? at h
  split at h
  next l r hleft hright =>
    obtain ⟨ty, hcommon, hcompare⟩ := Option.bind_eq_some_iff.1 h
    obtain ⟨hleftTy, hrightTy⟩ := commonTy?_eq_some_iff.1 hcommon
    cases Option.some.inj (hleftTy.symm.trans hl.ty?_eq)
    cases Option.some.inj (hrightTy.symm.trans hr.ty?_eq)
    have hholds := Value.holds_of_compare? (hl.holds_of_known hleft).2 (hr.holds_of_known hright).2 hcompare
    rw [eval_compare, hl.eval_of_known hleft, pure_bind, hr.eval_of_known hright, pure_bind, hholds, Machine.done_ok]
  next l r hleft hright =>
    rw [eval_compare, hl.eval_of_known hleft, pure_bind, hr.eval_of_known hright, pure_bind,
      Value.holds_of_units h, Machine.done_ok]
  next => cases h

/-- What is dropped in a comparison with null has no effect: it is a string from the start. -/
private theorem eval_of_isPureNonNull {e : Expr} {ty : Ty} {scope : Scope} {env : Env} {oracle : Oracle}
    (hpure : e.isPureNonNull) (h : e.Plain ty) (hty : ty ∈ Ty.nullables) (hscope : e.InScope scope)
    (henv : env.Respects scope) (horacle : oracle.Respects) : ∃ s, e.eval env oracle = pure (.string s) := by
  unfold isPureNonNull at hpure
  rw [h.ty?_eq, Bool.and_eq_true] at hpure
  obtain ⟨hnonNull, hshape⟩ := hpure
  have hty : ty = .nonNullString := by
    simp only [Ty.nullables, List.mem_cons, List.not_mem_nil, or_false] at hty
    obtain rfl | rfl | rfl := hty
    · exact absurd hnonNull (by decide)
    · exact absurd hnonNull (by decide)
    · rfl
  subst hty
  have hyields := h.yields hscope henv horacle
  have hvalue : ∃ v, e.eval env oracle = pure v := by
    split at hshape
    next => exact ⟨_, eval_literal _ _⟩
    next => exact ⟨_, eval_varRef _ _⟩
    next => cases hshape
  obtain ⟨v, hv⟩ := hvalue
  rw [hv] at hyields
  have hholds : Ty.nonNullString.Holds v := hyields []
  cases hholds with
  | nonNullString s => exact ⟨s, hv⟩

/-- A comparison of null with a value that is no null has the answer of `!=`. -/
private theorem compareNull_sound {head : Head} {token : Token} {left right : Expr} {ty : Ty}
    (hplain : (Expr.compare head token left right).Plain ty) (hequality : token.kind.isEquality)
    (hnull : left.isKnownNull ∧ right.isPureNonNull ∨ left.isPureNonNull ∧ right.isKnownNull) :
    SameMeaning (.compare head token left right) (.ofBool head.span (token.kind = .ne)) := by
  have hanswer : (false == (token.kind == .eq)) = decide (token.kind = .ne) := by
    generalize token.kind = operator at hequality
    cases operator with
    | eq | ne => rfl
    | _ => cases hequality
  have hnullables : ∃ leftTy rightTy, left.Plain leftTy ∧ right.Plain rightTy ∧ leftTy ∈ Ty.nullables ∧
      rightTy ∈ Ty.nullables := by
    cases hplain with
    | compareOrdered hty _ hl hr =>
      obtain ⟨h, -⟩ | ⟨-, h⟩ := hnull
      · obtain ⟨rfl, -⟩ := hl.holds_of_known (isKnownNull_iff.1 h)
        exact absurd hty (by decide)
      · obtain ⟨rfl, -⟩ := hr.holds_of_known (isKnownNull_iff.1 h)
        exact absurd hty (by decide)
    | compareBooleans _ hl hr =>
      obtain ⟨h, -⟩ | ⟨-, h⟩ := hnull
      · exact absurd (hl.holds_of_known (isKnownNull_iff.1 h)).1 (by decide)
      · exact absurd (hr.holds_of_known (isKnownNull_iff.1 h)).1 (by decide)
    | compareNull _ hleftTy hrightTy _ hl hr => exact ⟨_, _, hl, hr, hleftTy, hrightTy⟩
  obtain ⟨leftTy, rightTy, hl, hr, hleftTy, hrightTy⟩ := hnullables
  refine .ofValue fun hscope henv horacle => ?_
  obtain ⟨hleft, hright⟩ := inScope_compare.1 hscope
  rw [eval_compare]
  obtain ⟨hknown, hpure⟩ | ⟨hpure, hknown⟩ := hnull
  · obtain ⟨s, hs⟩ := eval_of_isPureNonNull hpure hr hrightTy hright henv horacle
    rw [hl.eval_of_known (isKnownNull_iff.1 hknown), pure_bind, hs, pure_bind, Value.holds_null_string,
      Value.equates_ok hequality, hanswer]
    rfl
  · obtain ⟨s, hs⟩ := eval_of_isPureNonNull hpure hl hleftTy hleft henv horacle
    rw [hs, pure_bind, hr.eval_of_known (isKnownNull_iff.1 hknown), pure_bind, Value.holds_string_null,
      Value.equates_ok hequality, hanswer]
    rfl

theorem Rewrites.compare_sound {rule : Rule} {head : Head} {token : Token} {left right : Expr}
    {result : Except TreeError Expr} {ty : Ty} (h : Rewrites rule (.compare head token left right) result)
    (hplain : (Expr.compare head token left right).Plain ty) :
    ∃ e, result = .ok e ∧ e.Plain ty ∧ SameMeaning (.compare head token left right) e := by
  obtain ⟨rfl, leftTy, rightTy, hl, hr, hboolean⟩ := compare_operands hplain
  cases h with
  | compareConstants _ hanswer =>
    exact ⟨_, rfl, .literal (.boolean _), .ofValue fun _ _ _ => answer?_sound hl hr hanswer⟩
  | compareBooleans hequality _ _ hleft hright =>
    refine ⟨_, rfl, .literal (.boolean _), .ofValue fun _ _ _ => ?_⟩
    rw [eval_compare, hl.eval_of_known (knownBoolean?_eq_some_iff.1 hleft), pure_bind,
      hr.eval_of_known (knownBoolean?_eq_some_iff.1 hright), pure_bind, Value.holds_booleans hequality, Machine.done_ok]
  | compareBooleanLeft hequality _ _ hleft =>
    have hleft := knownBoolean?_eq_some_iff.1 hleft
    obtain ⟨-, rfl⟩ := hboolean (.inl (hl.holds_of_known hleft).1.symm)
    obtain ⟨e, he, hplain, hinScope, heval⟩ := keepOrNegate_sound hr hequality
    refine ⟨e, he, hplain, fun hscope => hinScope (inScope_compare.1 hscope).2, fun hscope henv horacle => ?_⟩
    rw [heval (hr.yields (inScope_compare.1 hscope).2 henv horacle), eval_compare, hl.eval_of_known hleft, pure_bind]
  | compareBooleanRight hequality _ _ hright =>
    have hright := knownBoolean?_eq_some_iff.1 hright
    obtain ⟨rfl, -⟩ := hboolean (.inr (hr.holds_of_known hright).1.symm)
    obtain ⟨e, he, hplain, hinScope, heval⟩ := keepOrNegate_sound hl hequality
    refine ⟨e, he, hplain, fun hscope => hinScope (inScope_compare.1 hscope).1, fun hscope henv horacle => ?_⟩
    have hyields := hl.yields (inScope_compare.1 hscope).1 henv horacle
    rw [heval hyields, eval_compare, hr.eval_of_known hright]
    refine hyields.bind_congr fun v hv => ?_
    cases hv with
    | boolean b =>
      rw [pure_bind, Value.holds_booleans hequality, Value.holds_booleans hequality, Bool.beq_comm (a := b)]
  | compareNulls hequality hleft hright =>
    refine ⟨_, rfl, .literal (.boolean _), .ofValue fun _ _ _ => ?_⟩
    rw [eval_compare, hl.eval_of_known (isKnownNull_iff.1 hleft), pure_bind,
      hr.eval_of_known (isKnownNull_iff.1 hright), pure_bind, Value.holds_null_null, Value.equates_ok hequality,
      Bool.true_beq]
    rfl
  | compareNullLeft hequality hleft hright =>
    exact ⟨_, rfl, .literal (.boolean _), compareNull_sound hplain hequality (.inl ⟨hleft, hright⟩)⟩
  | compareNullRight hequality hleft hright =>
    exact ⟨_, rfl, .literal (.boolean _), compareNull_sound hplain hequality (.inr ⟨hleft, hright⟩)⟩

end Folding

end TemplateTree
