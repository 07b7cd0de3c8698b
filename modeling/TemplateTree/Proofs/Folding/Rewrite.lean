import TemplateTree.Folding

namespace TemplateTree

namespace Logged

variable {ι α β : Type}

theorem bind_result_eq_ok_iff {x : Logged ι α} {f : α → Logged ι β} {b : β} :
    (x >>= f).result = .ok b ↔ ∃ a, x.result = .ok a ∧ (f a).result = .ok b := by
  cases hx : x.result with
  | error error => simp [bind_of_error hx]
  | ok a => simp [bind_of_ok hx]

theorem bind_result_of_ok {x : Logged ι α} {a : α} (h : x.result = .ok a) (f : α → Logged ι β) :
    (x >>= f).result = (f a).result := by
  rw [bind_of_ok h]

@[simp]
theorem ofExcept_result (result : Except TreeError α) : (ofExcept result : Logged ι α).result = result := rfl

end Logged

@[simp]
theorem applied_bind_result {α : Type} (rule : Rule) (span : Span) (f : Unit → Folding α) :
    (applied rule span >>= f).result = (f ()).result := rfl

attribute [local simp] Expr.fold Stmt.fold Block.fold foldExprs foldStmts foldOptionalExpr foldOptionalStmt
  foldOptionalBody foldPart

/-- What stands in the place of `e` once `d` was chosen to: `d`, coerced the way `e` was if their
    types differ. -/
def Expr.replacedBy (e d : Expr) : Except TreeError Expr :=
  if d.ty? = e.ty? then .ok d else (d.replay e.chain.reduced.steps).toExcept

theorem Expr.keepingTy_result_eq_ok_iff {ι : Type} {e e' : Expr} {x : Logged ι Expr} :
    (e.keepingTy x).result = .ok e' ↔ ∃ d, x.result = .ok d ∧ e.replacedBy d = .ok e' := by
  unfold Expr.keepingTy Expr.replacedBy
  rw [Logged.bind_result_eq_ok_iff]
  refine exists_congr fun d => and_congr_right fun _ => ?_
  split <;> simp

namespace Folding

/-- The rules for operators: `Rewrites rule node result` holds when `rule` puts `result` in the place
    of `node`, whose operands are folded already. -/
inductive Rewrites : Rule → Expr → Except TreeError Expr → Prop
  | negateConstant {head : Head} {operand : Expr} {n : Number} (hoperand : operand.knownNumber? = some n) :
    Rewrites .negateConstant (.unary head .negate operand) (.ok (.ofNumber head.span n.negated))
  | doubleNegate {head innerHead : Head} {inner : Expr} :
    Rewrites .doubleNegate (.unary head .negate (.unary innerHead .negate inner)) (.ok inner)
  | notConstant {head : Head} {operand : Expr} {b : Bool} (hoperand : operand.knownBoolean? = some b) :
    Rewrites .notConstant (.unary head .not operand) (.ok (.ofBool head.span !b))
  | doubleNot {head innerHead : Head} {inner : Expr} :
    Rewrites .doubleNot (.unary head .not (.unary innerHead .not inner)) (.ok inner)
  | concatenateConstants {head : Head} {token : Token} {left right : Expr} {l r : String}
    (hleft : left.knownString? = some l) (hright : right.knownString? = some r) :
    Rewrites .concatenateConstants (.binary head .concatenate token left right) (.ok (.ofString head.span (l ++ r)))
  | concatenateEmptyLeft {head : Head} {token : Token} {left right : Expr} (hleft : left.knownString? = some "") :
    Rewrites .concatenateEmptyLeft (.binary head .concatenate token left right) (.ok right)
  | concatenateEmptyRight {head : Head} {token : Token} {left right : Expr} (hright : right.knownString? = some "") :
    Rewrites .concatenateEmptyRight (.binary head .concatenate token left right) (.ok left)
  | arithmeticConstants {head : Head} {token : Token} {left right : Expr} {l r n : Number} {ty : Ty}
    (hhead : head.chain.ty?.isSome) (hleft : left.knownNumber? = some l) (hright : right.knownNumber? = some r)
    (hleftTy : left.ty? = some ty) (hrightTy : right.ty? = some ty)
    (hvalue : Number.arithmetic? token.kind ty l r = some n) :
    Rewrites .arithmeticConstants (.binary head .arithmetic token left right) (.ok (.ofNumber head.span n))
  | andTrueLeft {head : Head} {token : Token} {left right : Expr} (hleft : left.knownBoolean? = some true) :
    Rewrites .andTrueLeft (.binary head .and token left right) (.ok right)
  | andFalseLeft {head : Head} {token : Token} {left right : Expr} (hleft : left.knownBoolean? = some false) :
    Rewrites .andFalseLeft (.binary head .and token left right) (.ok (.ofBool head.span false))
  | andTrueRight {head : Head} {token : Token} {left right : Expr} (hright : right.knownBoolean? = some true) :
    Rewrites .andTrueRight (.binary head .and token left right) (.ok left)
  | orTrueLeft {head : Head} {token : Token} {left right : Expr} (hleft : left.knownBoolean? = some true) :
    Rewrites .orTrueLeft (.binary head .or token left right) (.ok (.ofBool head.span true))
  | orFalseLeft {head : Head} {token : Token} {left right : Expr} (hleft : left.knownBoolean? = some false) :
    Rewrites .orFalseLeft (.binary head .or token left right) (.ok right)
  | orFalseRight {head : Head} {token : Token} {left right : Expr} (hright : right.knownBoolean? = some false) :
    Rewrites .orFalseRight (.binary head .or token left right) (.ok left)
  | compareConstants {head : Head} {token : Token} {left right : Expr} {answer : Bool}
    (hhead : head.chain.ty?.isSome) (hanswer : answer? token.kind left right = some answer) :
    Rewrites .compareConstants (.compare head token left right) (.ok (.ofBool head.span answer))
  | compareBooleans {head : Head} {token : Token} {left right : Expr} {l r : Bool}
    (hequality : token.kind.isEquality) (hleftSure : left.isSureBoolean) (hrightSure : right.isSureBoolean)
    (hleft : left.knownBoolean? = some l) (hright : right.knownBoolean? = some r) :
    Rewrites .compareBooleans (.compare head token left right)
      (.ok (.ofBool head.span ((l == r) == (token.kind == .eq))))
  | compareBooleanLeft {head : Head} {token : Token} {left right : Expr} {known : Bool}
    (hequality : token.kind.isEquality) (hleftSure : left.isSureBoolean) (hrightSure : right.isSureBoolean)
    (hleft : left.knownBoolean? = some known) :
    Rewrites .compareBooleanLeft (.compare head token left right) (keepOrNegate known token.kind head.span right)
  | compareBooleanRight {head : Head} {token : Token} {left right : Expr} {known : Bool}
    (hequality : token.kind.isEquality) (hleftSure : left.isSureBoolean) (hrightSure : right.isSureBoolean)
    (hright : right.knownBoolean? = some known) :
    Rewrites .compareBooleanRight (.compare head token left right) (keepOrNegate known token.kind head.span left)
  | compareNulls {head : Head} {token : Token} {left right : Expr}
    (hequality : token.kind.isEquality) (hleft : left.isKnownNull) (hright : right.isKnownNull) :
    Rewrites .compareNulls (.compare head token left right) (.ok (.ofBool head.span (token.kind = .eq)))
  | compareNullLeft {head : Head} {token : Token} {left right : Expr}
    (hequality : token.kind.isEquality) (hleft : left.isKnownNull) (hright : right.isPureNonNull) :
    Rewrites .compareNullWithNonNull (.compare head token left right) (.ok (.ofBool head.span (token.kind = .ne)))
  | compareNullRight {head : Head} {token : Token} {left right : Expr}
    (hequality : token.kind.isEquality) (hleft : left.isPureNonNull) (hright : right.isKnownNull) :
    Rewrites .compareNullWithNonNull (.compare head token left right) (.ok (.ofBool head.span (token.kind = .ne)))
  | isaWidening {head : Head} {token : Token} {operand : Expr} {tested : TypeName} {testedTy ty : Ty}
    (htested : tested.ty? = some testedTy) (hty : operand.ty? = some ty) (haccepts : testedTy.accepts ty) :
    Rewrites .isaWidening (.isa head token operand tested) (.ok (.ofBool head.span true))

theorem unary?_rewrites {head : Head} {op : UnaryOp} {operand : Expr} {rule : Rule} {result : Except TreeError Expr}
    (h : unary? head op operand = some (rule, result)) : Rewrites rule (.unary head op operand) result := by
  cases op with
  | negate =>
    simp only [unary?, negate?, put] at h
    split at h
    next n hn =>
      cases h
      exact .negateConstant hn
    next =>
      cases h
      exact .doubleNegate
    next => cases h
  | not =>
    simp only [unary?, not?, put] at h
    split at h
    next b hb =>
      cases h
      exact .notConstant hb
    next =>
      cases h
      exact .doubleNot
    next => cases h

theorem commonTy?_eq_some_iff {left right : Expr} {ty : Ty} :
    commonTy? left right = some ty ↔ left.ty? = some ty ∧ right.ty? = some ty := by
  rw [commonTy?, Option.filter_eq_some_iff]
  exact and_congr_right fun _ => decide_eq_true_iff

theorem binary?_rewrites {head : Head} {op : BinaryOp} {token : Token} {left right : Expr} {rule : Rule}
    {result : Except TreeError Expr} (h : binary? head op token left right = some (rule, result)) :
    Rewrites rule (.binary head op token left right) result := by
  cases op with
  | concatenate =>
    simp only [binary?, concatenate?, put] at h
    split at h
    next l r hl hr =>
      cases h
      exact .concatenateConstants hl hr
    next l hl hr =>
      split at h
      next hempty =>
        cases h
        rw [String.isEmpty_iff] at hempty
        exact .concatenateEmptyLeft (hempty ▸ hl)
      next => cases h
    next r hl hr =>
      split at h
      next hempty =>
        cases h
        rw [String.isEmpty_iff] at hempty
        exact .concatenateEmptyRight (hempty ▸ hr)
      next => cases h
    next => cases h
  | arithmetic =>
    simp only [binary?, arithmetic?, put] at h
    split at h
    next hhead hl hr hty =>
      split at h
      next n hn =>
        cases h
        obtain ⟨hleftTy, hrightTy⟩ := commonTy?_eq_some_iff.1 hty
        exact .arithmeticConstants (by rw [hhead]; rfl) hl hr hleftTy hrightTy hn
      next => cases h
    next => cases h
  | and =>
    simp only [binary?, and?, put] at h
    split at h
    next hl =>
      cases h
      exact .andTrueLeft hl
    next hl =>
      cases h
      exact .andFalseLeft hl
    next hr =>
      cases h
      exact .andTrueRight hr
    next => cases h
  | or =>
    simp only [binary?, or?, put] at h
    split at h
    next hl =>
      cases h
      exact .orTrueLeft hl
    next hl =>
      cases h
      exact .orFalseLeft hl
    next hr =>
      cases h
      exact .orFalseRight hr
    next => cases h

private theorem compareConstants?_rewrites {head : Head} {token : Token} {left right : Expr} {rule : Rule}
    {result : Except TreeError Expr} (h : compareConstants? head token.kind left right = some (rule, result)) :
    Rewrites rule (.compare head token left right) result := by
  simp only [compareConstants?, put] at h
  split at h
  next hhead hanswer =>
    cases h
    exact .compareConstants (by rw [hhead]; rfl) hanswer
  next => cases h

private theorem compareBooleans?_rewrites {head : Head} {token : Token} {left right : Expr} {rule : Rule}
    {result : Except TreeError Expr} (h : compareBooleans? head.span token.kind left right = some (rule, result)) :
    Rewrites rule (.compare head token left right) result := by
  simp only [compareBooleans?, put] at h
  split at h
  next hguard =>
    simp only [Bool.and_eq_true] at hguard
    obtain ⟨⟨hleftSure, hrightSure⟩, hequality⟩ := hguard
    split at h
    next hl hr =>
      cases h
      exact .compareBooleans hequality hleftSure hrightSure hl hr
    next hl _ =>
      cases h
      exact .compareBooleanLeft hequality hleftSure hrightSure hl
    next _ hr =>
      cases h
      exact .compareBooleanRight hequality hleftSure hrightSure hr
    next => cases h
  next => cases h

private theorem compareNulls?_rewrites {head : Head} {token : Token} {left right : Expr} {rule : Rule}
    {result : Except TreeError Expr} (h : compareNulls? head.span token.kind left right = some (rule, result)) :
    Rewrites rule (.compare head token left right) result := by
  simp only [compareNulls?, put] at h
  split at h
  next => cases h
  next hequality =>
    simp only [Bool.not_eq_true', Bool.not_eq_false] at hequality
    split at h
    next hnulls =>
      cases h
      obtain ⟨hl, hr⟩ := Bool.and_eq_true_iff.1 hnulls
      exact .compareNulls hequality hl hr
    next =>
      split at h
      next hpure =>
        cases h
        simp only [Bool.or_eq_true, Bool.and_eq_true] at hpure
        obtain ⟨hl, hr⟩ | ⟨hr, hl⟩ := hpure
        · exact .compareNullLeft hequality hl hr
        · exact .compareNullRight hequality hl hr
      next => cases h

theorem compare?_rewrites {head : Head} {token : Token} {left right : Expr} {rule : Rule}
    {result : Except TreeError Expr} (h : compare? head token left right = some (rule, result)) :
    Rewrites rule (.compare head token left right) result := by
  rw [compare?, Option.or_eq_some_iff, Option.or_eq_some_iff] at h
  obtain h | ⟨_, h | ⟨_, h⟩⟩ := h
  · exact compareConstants?_rewrites h
  · exact compareBooleans?_rewrites h
  · exact compareNulls?_rewrites h

theorem isa?_rewrites {head : Head} {token : Token} {operand : Expr} {tested : TypeName} {rule : Rule}
    {result : Except TreeError Expr} (h : isa? head operand tested = .ok (some (rule, result))) :
    Rewrites rule (.isa head token operand tested) result := by
  simp only [isa?, put] at h
  split at h
  next => cases h
  next => cases h
  next testedTy ty htested hty =>
    split at h
    next haccepts =>
      cases h
      exact .isaWidening htested hty haccepts
    next => cases h

/-- No rule applies to the node. -/
def Final (node : Expr) : Prop := ∀ rule result, ¬ Rewrites rule node result

theorem final_of_unary? {head : Head} {op : UnaryOp} {operand : Expr} (h : unary? head op operand = none) :
    Final (.unary head op operand) := by
  intro rule result hrule
  cases hrule with
  | negateConstant hoperand | notConstant hoperand => simp [unary?, negate?, not?, put, hoperand] at h
  | doubleNegate | doubleNot => cases h

theorem final_of_binary? {head : Head} {op : BinaryOp} {token : Token} {left right : Expr}
    (h : binary? head op token left right = none) : Final (.binary head op token left right) := by
  intro rule result hrule
  cases hrule with
  | concatenateConstants hleft hright => simp [binary?, concatenate?, put, hleft, hright] at h
  | concatenateEmptyLeft hleft =>
    cases hright : right.knownString? <;> simp [binary?, concatenate?, put, hleft, hright] at h
  | concatenateEmptyRight hright =>
    cases hleft : left.knownString? <;> simp [binary?, concatenate?, put, hleft, hright] at h
  | arithmeticConstants hhead hleft hright hleftTy hrightTy hvalue =>
    obtain ⟨ty, hty⟩ := Option.isSome_iff_exists.1 hhead
    simp [binary?, arithmetic?, put, hty, hleft, hright, commonTy?_eq_some_iff.2 ⟨hleftTy, hrightTy⟩, hvalue] at h
  | andTrueLeft hleft | andFalseLeft hleft => simp [binary?, and?, put, hleft] at h
  | orTrueLeft hleft | orFalseLeft hleft => simp [binary?, or?, put, hleft] at h
  | andTrueRight hright =>
    rcases hleft : left.knownBoolean? with _ | _ | _ <;> simp [binary?, and?, put, hleft, hright] at h
  | orFalseRight hright =>
    rcases hleft : left.knownBoolean? with _ | _ | _ <;> simp [binary?, or?, put, hleft, hright] at h

theorem final_of_compare? {head : Head} {token : Token} {left right : Expr}
    (h : compare? head token left right = none) : Final (.compare head token left right) := by
  rw [compare?, Option.or_eq_none_iff, Option.or_eq_none_iff] at h
  obtain ⟨hconstants, hbooleans, hnulls⟩ := h
  intro rule result hrule
  cases hrule with
  | compareConstants hhead hanswer =>
    obtain ⟨ty, hty⟩ := Option.isSome_iff_exists.1 hhead
    simp [compareConstants?, put, hty, hanswer] at hconstants
  | compareBooleans hequality hleftSure hrightSure hleft hright =>
    simp [compareBooleans?, put, hequality, hleftSure, hrightSure, hleft, hright] at hbooleans
  | compareBooleanLeft hequality hleftSure hrightSure hleft =>
    cases hright : right.knownBoolean? <;>
      simp [compareBooleans?, put, hequality, hleftSure, hrightSure, hleft, hright] at hbooleans
  | compareBooleanRight hequality hleftSure hrightSure hright =>
    cases hleft : left.knownBoolean? <;>
      simp [compareBooleans?, put, hequality, hleftSure, hrightSure, hleft, hright] at hbooleans
  | compareNulls hequality hleft hright => simp [compareNulls?, put, hequality, hleft, hright] at hnulls
  | compareNullLeft hequality hleft hright | compareNullRight hequality hleft hright =>
    simp only [compareNulls?, put, hequality, hleft, hright, Bool.not_true, Bool.true_and, Bool.and_true, Bool.true_or,
      Bool.or_true, Bool.false_eq_true, if_false, if_true] at hnulls
    split at hnulls <;> cases hnulls

theorem final_of_isa? {head : Head} {token : Token} {operand : Expr} {tested : TypeName}
    (h : isa? head operand tested = .ok none) : Final (.isa head token operand tested) := by
  intro rule result hrule
  cases hrule with
  | isaWidening htested hty haccepts => simp [isa?, put, htested, hty, haccepts] at h

/-- What becomes of an operator node whose operands are folded: a rule puts something in its place,
    or it stays because none applies. -/
inductive Settles : Expr → Expr → Prop
  | kept {node : Expr} (hfinal : Final node) : Settles node node
  | rewritten {rule : Rule} {node e : Expr} (h : Rewrites rule node (.ok e)) : Settles node e

theorem settles_of_orKeep {span : Span} {outcome : Option Outcome} {node e : Expr}
    (hrule : ∀ rule result, outcome = some (rule, result) → Rewrites rule node result)
    (hfinal : outcome = none → Final node) (h : (orKeep span outcome node).result = .ok e) : Settles node e := by
  cases outcome with
  | none =>
    cases h
    exact .kept (hfinal rfl)
  | some outcome =>
    obtain ⟨rule, result⟩ := outcome
    simp only [orKeep, applied_bind_result, Logged.ofExcept_result] at h
    exact .rewritten (h ▸ hrule rule result rfl)

end Folding

end TemplateTree
