import Mathlib.Data.List.Forall2
import TemplateTree.Expr.Build
import TemplateTree.Expr.Coerce
import TemplateTree.Proofs.Chain.Fits
import TemplateTree.Proofs.Nodes

namespace TemplateTree

/-- What holds of one list holds of another whose members are related to its members. -/
theorem forall_mem_of_forall₂ {α β : Type} {R : α → β → Prop} {p : α → Prop} {q : β → Prop} {as : List α}
    {bs : List β} (h : List.Forall₂ R as bs) (hstep : ∀ {a b}, R a b → p a → q b) (has : ∀ a ∈ as, p a) :
    ∀ b ∈ bs, q b := by
  induction h with
  | nil => exact nofun
  | cons hab _ ih =>
    rw [List.forall_mem_cons] at has
    exact List.forall_mem_cons.2 ⟨hstep hab has.1, ih has.2⟩

namespace Attempt

variable {α β : Type}

theorem toExcept_eq_ok_iff {attempt : Attempt α} {a : α} :
    attempt.toExcept = .ok a ↔ attempt.error? = none ∧ attempt.value = a := by
  obtain ⟨value, _ | error⟩ := attempt <;> simp [toExcept]

theorem toExcept_map_eq_ok_iff {attempt : Attempt α} {f : α → β} {b : β} :
    (attempt.map f).toExcept = .ok b ↔ ∃ a, attempt.toExcept = .ok a ∧ f a = b := by
  simp [toExcept_eq_ok_iff, map]

theorem toExcept_done_eq_ok_iff {a b : α} : (done a).toExcept = .ok b ↔ a = b := by
  simp [toExcept_eq_ok_iff, done]

end Attempt

namespace Expr

/-- `e'` is `e` with coercions that make its type fit `target`. Only heads change: that of the
    expression itself or, below an array literal, those of its values. -/
inductive Coerced : Ty → Expr → Expr → Prop
  | node {target ty : Ty} {e : Expr} {head : Head} (hty : (e.withHead head).ty? = some ty) (hfits : target.Fits ty) :
    Coerced target e (e.withHead head)
  | paren {target : Ty} {head : Head} {inner inner' : Expr} (hinner : Coerced target inner inner') :
    Coerced target (.paren head inner) (.paren head inner')
  | values {target element : Ty} {head head' : Head} {listSpan : Span} {elements elements' : List Expr}
    {associative : Bool} (hty : head'.chain.ty? = some target) (hlength : elements'.length = elements.length)
    (hvalues : ∀ pair ∈ elements.zip elements', pair.1 ≠ pair.2 → Coerced element pair.1 pair.2) :
    Coerced target (.array head listSpan elements associative) (.array head' listSpan elements' associative)

theorem Coerced.fits {target : Ty} {e e' : Expr} (h : Coerced target e e') :
    ∃ ty, e'.ty? = some ty ∧ target.Fits ty := by
  induction h with
  | node hty hfits => exact ⟨_, hty, hfits⟩
  | paren _ ih => exact ih
  | values hty => exact ⟨_, hty, .refl _⟩

/-- Parentheses apart, an expression has the type of its head. -/
theorem withHead_ty? {e : Expr} (h : ∀ head inner, e ≠ .paren head inner) (head : Head) :
    (e.withHead head).ty? = head.chain.ty? := by
  cases e with
  | paren head inner => exact absurd rfl (h head inner)
  | _ => rfl

theorem withHead_head (e : Expr) : e.withHead e.head = e := by
  cases e <;> rfl

theorem withHead_withHead (e : Expr) (first second : Head) : (e.withHead first).withHead second = e.withHead second := by
  cases e <;> rfl

theorem head_withHead (e : Expr) (head : Head) : (e.withHead head).head = head := by
  cases e <;> rfl

/-- The second expression is the first with other coercions on top. -/
def SameNode (e e' : Expr) : Prop := ∃ head, e' = e.withHead head ∧ head.span = e.head.span

theorem SameNode.refl (e : Expr) : SameNode e e := ⟨e.head, e.withHead_head.symm, rfl⟩

theorem SameNode.trans {e d e' : Expr} (hed : SameNode e d) (hde' : SameNode d e') : SameNode e e' := by
  obtain ⟨first, rfl, hfirst⟩ := hed
  obtain ⟨second, rfl, hsecond⟩ := hde'
  rw [head_withHead] at hsecond
  exact ⟨second, withHead_withHead e first second, hsecond.trans hfirst⟩

theorem sameNode_retyped (e : Expr) (ty : Ty) : SameNode e (e.retyped ty) := ⟨_, rfl, rfl⟩

theorem sameNode_extended (e : Expr) (target : Ty) (preferCast : Bool) :
    SameNode e (e.extended target preferCast).value := by
  unfold extended Head.extended
  cases e.head.chain.converted? target preferCast with
  | none => exact .refl e
  | some converted => exact ⟨_, rfl, rfl⟩

theorem sameNode_coerceNode (e : Expr) (target : Ty) (preferCast : Bool) :
    SameNode e (e.coerceNode target preferCast).value := by
  unfold coerceNode
  split
  next =>
    split
    next =>
      split
      next => exact sameNode_retyped _ _
      next => exact (sameNode_retyped _ _).trans (sameNode_extended _ _ _)
    next => exact sameNode_extended _ _ _
  next =>
    split
    next => exact sameNode_retyped _ _
    next => exact sameNode_extended _ _ _

section

variable {e e' : Expr} {target : Ty} {preferCast : Bool} (hparen : ∀ head inner, e ≠ .paren head inner)

include hparen

theorem extended_coerced (h : (e.extended target preferCast).toExcept = .ok e') : Coerced target e e' := by
  unfold extended Head.extended at h
  cases hconverted : e.head.chain.converted? target preferCast with
  | none =>
    rw [hconverted] at h
    cases h
  | some converted =>
    rw [hconverted] at h
    cases h
    obtain ⟨ty, hty, hfits⟩ := Chain.converted?_fits hconverted
    exact .node (by rw [withHead_ty? hparen, hty]) hfits

/-- A new natural type is the given one, apart from null. -/
theorem retyped_coerced (hnatural : e.natural target = target ∨ e.natural target = target.toNonNull) :
    Coerced target e (e.retyped target) := by
  have hty : (e.retyped target).ty? = some (e.natural target) := withHead_ty? hparen _
  obtain hsame | hnonNull := hnatural
  · rw [hsame] at hty
    exact .node hty (.refl target)
  · rw [hnonNull] at hty
    exact .node hty target.fits_toNonNull

theorem coerceNode_coerced (h : (e.coerceNode target preferCast).toExcept = .ok e') : Coerced target e e' := by
  unfold coerceNode at h
  split at h
  next head n =>
    split at h
    next =>
      split at h
      next =>
        cases h
        refine retyped_coerced hparen ?_
        by_cases hholds : target.holdsNumber
        · exact .inr (if_pos hholds)
        · exact .inl (if_neg hholds)
      next =>
        have hextended := extended_coerced (by simp [retyped, withHead]) h
        cases hextended with
        | node hty hfits => exact .node hty hfits.of_toNonNull
    next => exact extended_coerced hparen h
  next hnumber =>
    split at h
    next hlogical =>
      cases h
      refine retyped_coerced hparen (.inr ?_)
      rw [Bool.and_eq_true] at hlogical
      cases e with
      | unary | binary | compare | isa => rfl
      | _ => cases hlogical.1
    next => exact extended_coerced hparen h

end

mutual

/-- A coercion that succeeds changes only heads, and the result fits its target. -/
theorem convertTo_coerced {target : Ty} {preferCast : Bool} :
    ∀ (e : Expr) {e' : Expr}, (e.convertTo target preferCast).toExcept = .ok e' → Coerced target e e'
  | .paren head inner, e', h => by
    rw [convertTo, Attempt.toExcept_map_eq_ok_iff] at h
    obtain ⟨inner', hinner, rfl⟩ := h
    exact .paren (convertTo_coerced inner hinner)
  | .array head listSpan elements associative, e', h => by
    rw [convertTo] at h
    cases hhead : head.extended target preferCast with
    | error error =>
      rw [hhead] at h
      cases h
    | ok head' =>
      rw [hhead] at h
      cases helement : target.element? with
      | none =>
        simp only [helement] at h
        cases h
        have hextended : ((array head listSpan elements associative).extended target preferCast).toExcept =
            .ok (array head' listSpan elements associative) := by
          rw [extended]
          simp only [Expr.head, hhead]
          rfl
        exact extended_coerced nofun hextended
      | some element =>
        simp only [helement, Attempt.toExcept_map_eq_ok_iff] at h
        obtain ⟨elements', hvalues, rfl⟩ := h
        obtain ⟨hlength, hcoerced⟩ := convertValues_coerced elements hvalues
        exact .values rfl hlength hcoerced
  | .call .., e', h => coerceNode_coerced nofun h
  | .varRef .., e', h => coerceNode_coerced nofun h
  | .property .., e', h => coerceNode_coerced nofun h
  | .index .., e', h => coerceNode_coerced nofun h
  | .unary .., e', h => coerceNode_coerced nofun h
  | .binary .., e', h => coerceNode_coerced nofun h
  | .compare .., e', h => coerceNode_coerced nofun h
  | .isa .., e', h => coerceNode_coerced nofun h
  | .literal .., e', h => coerceNode_coerced nofun h
termination_by structural e => e

/-- The values of an array literal stay in place, and each that changes is coerced to the element
    type. -/
theorem convertValues_coerced {element : Ty} {preferCast associative isKey : Bool} :
    ∀ (es : List Expr) {es' : List Expr},
      (convertValues element preferCast associative isKey es).toExcept = .ok es' →
        es'.length = es.length ∧ ∀ pair ∈ es.zip es', pair.1 ≠ pair.2 → Coerced element pair.1 pair.2
  | [], es', h => by
    rw [convertValues, Attempt.toExcept_done_eq_ok_iff] at h
    subst h
    exact ⟨rfl, nofun⟩
  | e :: rest, es', h => by
    have hstep : ∀ {isKey : Bool} {e' : Expr} {rest' : List Expr},
        (convertValues element preferCast associative isKey rest).toExcept = .ok rest' →
          (e ≠ e' → Coerced element e e') →
            (e' :: rest').length = (e :: rest).length ∧
              ∀ pair ∈ (e :: rest).zip (e' :: rest'), pair.1 ≠ pair.2 → Coerced element pair.1 pair.2 := by
      intro isKey e' rest' hrest he
      obtain ⟨hlength, hcoerced⟩ := convertValues_coerced rest hrest
      refine ⟨by rw [List.length_cons, List.length_cons, hlength], ?_⟩
      rw [List.zip_cons_cons, List.forall_mem_cons]
      exact ⟨he, hcoerced⟩
    rw [convertValues] at h
    split at h
    next =>
      obtain ⟨rest', hrest, rfl⟩ := Attempt.toExcept_map_eq_ok_iff.1 h
      exact hstep hrest (absurd rfl)
    next =>
      split at h
      next =>
        obtain ⟨rest', hrest, rfl⟩ := Attempt.toExcept_map_eq_ok_iff.1 h
        exact hstep hrest (absurd rfl)
      next =>
        simp only at h
        split at h
        next => cases h
        next hok =>
          obtain ⟨rest', hrest, rfl⟩ := Attempt.toExcept_map_eq_ok_iff.1 h
          exact hstep hrest fun _ => convertTo_coerced e (Attempt.toExcept_eq_ok_iff.2 ⟨hok, rfl⟩)
termination_by structural es => es

end

/-- A coercion that goes through leaves the expression with a type that can be used as the target: of a class
    that the target accepts, not null where the target is not, and primitive of the same kind where the
    target is primitive. -/
theorem accepts_ty?_convertTo {e : Expr} {target : Ty} {preferCast : Bool}
    (h : (e.convertTo target preferCast).error? = none) :
    ∃ ty, (e.convertTo target preferCast).value.ty? = some ty ∧ target.accepts ty ∧
      (target.isNonNull → ty.isNonNull) ∧ (target.primitive → ty.primitive ∧ ty.kind = target.kind) := by
  have hok : (e.convertTo target preferCast).toExcept = .ok (e.convertTo target preferCast).value :=
    Attempt.toExcept_eq_ok_iff.2 ⟨h, rfl⟩
  obtain ⟨ty, hty, hfits⟩ := (convertTo_coerced e hok).fits
  exact ⟨ty, hty, hfits.accepts, hfits.isNonNull, hfits.primitive⟩

/-- An array literal in parentheses whose values are a number, a comparison and null. -/
def mixedArray : Expr :=
  let span : Span := ⟨1, 0, 8⟩
  let five : Expr := .ofNumber span (.int 5)
  let same : Expr := .mkCompare span ⟨.eq, span⟩ five five
  .mkParen span (.mkArray span span [.mkParen span five, same, .ofValue span .null] false)

/-- An array of strings, neither it nor its values null. -/
def nonNullStrings : Ty := (Ty.array .nonNullString).toNonNull

theorem mixedArray_accepts_ty?_convertTo :
    (mixedArray.convertTo nonNullStrings false).error? = none ∧ nonNullStrings.isNonNull ∧
      ∃ ty, (mixedArray.convertTo nonNullStrings false).value.ty? = some ty ∧ nonNullStrings.accepts ty ∧
        (nonNullStrings.isNonNull → ty.isNonNull) ∧
          (nonNullStrings.primitive → ty.primitive ∧ ty.kind = nonNullStrings.kind) := by
  have hok : (mixedArray.convertTo nonNullStrings false).error? = none := rfl
  exact ⟨hok, rfl, accepts_ty?_convertTo hok⟩

/-- Repeating no conversions changes nothing. -/
theorem replay_nil_eq_ok_iff {e e' : Expr} : (e.replay []).toExcept = .ok e' ↔ e = e' :=
  Attempt.toExcept_done_eq_ok_iff

private theorem foldl_andThen_of_error {attempt : Attempt Expr} {error : TreeError} (h : attempt.error? = some error)
    (steps : List Conversion) :
    steps.foldl (fun attempt step => attempt.andThen (convertTo step.target step.castPreferred)) attempt = attempt := by
  induction steps with
  | nil => rfl
  | cons step rest ih =>
    rw [List.foldl_cons]
    have hfirst : attempt.andThen (convertTo step.target step.castPreferred) = attempt := by
      unfold Attempt.andThen
      rw [h]
    rw [hfirst, ih]

/-- Repeating conversions is a coercion to the first target, followed by the rest if that went through. -/
theorem replay_cons (step : Conversion) (rest : List Conversion) (e : Expr) :
    e.replay (step :: rest) = (e.convertTo step.target step.castPreferred).andThen (replay rest) := by
  unfold replay
  rw [List.foldl_cons]
  change rest.foldl _ (e.convertTo step.target step.castPreferred) = _
  cases herror : (e.convertTo step.target step.castPreferred).error? with
  | none =>
    have hdone : e.convertTo step.target step.castPreferred =
        .done (e.convertTo step.target step.castPreferred).value := by
      unfold Attempt.done
      rw [← herror]
    rw [hdone]
    rfl
  | some error =>
    rw [foldl_andThen_of_error herror, Attempt.andThen, herror]

theorem replay_cons_eq_ok_iff {step : Conversion} {rest : List Conversion} {e e' : Expr} :
    (e.replay (step :: rest)).toExcept = .ok e' ↔
      ∃ d, (e.convertTo step.target step.castPreferred).toExcept = .ok d ∧ (d.replay rest).toExcept = .ok e' := by
  rw [replay_cons, Attempt.andThen]
  cases herror : (e.convertTo step.target step.castPreferred).error? with
  | none => simp [Attempt.toExcept_eq_ok_iff, herror]
  | some error => simp [Attempt.toExcept, herror]

/-- Whatever every coercion keeps is kept when conversions are repeated. -/
theorem replay_induction {P : Expr → Prop} (hstep : ∀ {target d d'}, Coerced target d d' → P d → P d')
    {steps : List Conversion} {e e' : Expr} (h : (e.replay steps).toExcept = .ok e') (he : P e) : P e' := by
  induction steps generalizing e with
  | nil => exact replay_nil_eq_ok_iff.1 h ▸ he
  | cons step rest ih =>
    obtain ⟨d, hd, hrest⟩ := replay_cons_eq_ok_iff.1 h
    exact ih hrest (hstep (convertTo_coerced e hd) he)

/-- Repeating conversions ends in a type that fits the last of them. -/
theorem replay_fits {steps : List Conversion} {e e' : Expr} {ty : Ty} (h : (e.replay steps).toExcept = .ok e')
    (hlast : Chain.lastTarget? steps = some ty) : ∃ ty', e'.ty? = some ty' ∧ ty.Fits ty' := by
  induction steps generalizing e with
  | nil => cases hlast
  | cons step rest ih =>
    obtain ⟨d, hd, hrest⟩ := replay_cons_eq_ok_iff.1 h
    cases hrestLast : Chain.lastTarget? rest with
    | none =>
      rw [Chain.lastTarget?_cons, hrestLast] at hlast
      cases hlast
      have hnil : rest = [] := by simpa [Chain.lastTarget?] using hrestLast
      subst hnil
      obtain rfl := replay_nil_eq_ok_iff.1 hrest
      exact (convertTo_coerced e hd).fits
    | some last =>
      rw [Chain.lastTarget?_cons, hrestLast] at hlast
      cases hlast
      exact ih hrest hrestLast

section

variable {P : Node → Prop}

theorem Every.withHead {e : Expr} {head : Head} (h : e.Every P) (hnode : P (.expr e) → P (.expr (e.withHead head))) :
    (e.withHead head).Every P := by
  unfold Every at h ⊢
  rw [nodes_eq_cons, List.forall_mem_cons] at h
  rw [nodes_withHead, List.forall_mem_cons]
  exact ⟨hnode h.1, h.2⟩

/-- The values of two array literals are related if all those that differ are. -/
theorem forall₂_of_zip {R : Expr → Expr → Prop} (hrefl : ∀ e, R e e) {es es' : List Expr}
    (hlength : es'.length = es.length) (h : ∀ pair ∈ es.zip es', pair.1 ≠ pair.2 → R pair.1 pair.2) :
    List.Forall₂ R es es' := by
  refine List.forall₂_iff_zip.2 ⟨hlength.symm, fun {e e'} hpair => ?_⟩
  by_cases hsame : e = e'
  · exact hsame ▸ hrefl e
  · exact h (e, e') hpair hsame

/-- A coercion keeps a property of all nodes if that depends neither on heads, as long as they give a
    type, nor on what is inside parentheses and array literals. -/
theorem Coerced.every
    (hhead : ∀ {e : Expr} {head : Head}, (e.withHead head).ty?.isSome → P (.expr e) → P (.expr (e.withHead head)))
    (hparen : ∀ {head : Head} {inner inner' : Expr}, inner'.ty?.isSome →
      P (.expr (.paren head inner)) → P (.expr (.paren head inner')))
    (harray : ∀ {head : Head} {listSpan : Span} {elements elements' : List Expr} {associative : Bool},
      P (.expr (.array head listSpan elements associative)) → P (.expr (.array head listSpan elements' associative)))
    (hlist : ∀ {span : Span} {elements elements' : List Expr},
      P (.exprList span elements) → P (.exprList span elements'))
    {target : Ty} {e e' : Expr} (hcoerced : Coerced target e e') (h : e.Every P) : e'.Every P := by
  induction hcoerced with
  | node hty _ => exact h.withHead (hhead (by rw [hty]; rfl))
  | paren hinner ih =>
    obtain ⟨hnode, hevery⟩ := every_paren.1 h
    obtain ⟨ty, hty, -⟩ := hinner.fits
    exact every_paren.2 ⟨hparen (by rw [hty]; rfl) hnode, ih hevery⟩
  | @values target element head head' listSpan elements elements' associative hty hlength _ ih =>
    obtain ⟨hnode, hnodes, hevery⟩ := every_array.1 h
    have htyped : ((array head listSpan elements associative).withHead head').ty?.isSome :=
      Option.isSome_of_eq_some hty
    have hvalues : List.Forall₂ (fun e e' => e.Every P → e'.Every P) elements elements' :=
      forall₂_of_zip (fun _ => id) hlength ih
    exact every_array.2 ⟨harray (hhead htyped hnode), hlist hnodes, forall_mem_of_forall₂ hvalues id hevery⟩

end

end Expr

end TemplateTree
