import TemplateTree.Chain.Route
import TemplateTree.Error
import TemplateTree.Expr.Basic

namespace TemplateTree

/-- A value as far as a change to it got, and the error that stopped the change. -/
structure Attempt (α : Type) where
  value : α
  error? : Option TreeError

namespace Attempt

variable {α β : Type}

/-- A change that went through. -/
def done (value : α) : Attempt α := ⟨value, none⟩

/-- The same change seen as part of something larger. -/
def map (f : α → β) (attempt : Attempt α) : Attempt β := ⟨f attempt.value, attempt.error?⟩

/-- Goes on with a second change if the first went through. -/
def andThen (attempt : Attempt α) (next : α → Attempt α) : Attempt α :=
  match attempt.error? with
  | none => next attempt.value
  | some _ => attempt

/-- The changed value, or the error. -/
def toExcept (attempt : Attempt α) : Except TreeError α :=
  match attempt.error? with
  | none => .ok attempt.value
  | some error => .error error

end Attempt

namespace Head

/-- The head with a new natural type, or with none, and no conversions. -/
def retyped (head : Head) (ty? : Option Ty) : Head := ⟨head.span, .ofTy? ty?, false⟩

/-- The head with its chain extended to a type. -/
def extended (head : Head) (target : Ty) (preferCast : Bool) : Except TreeError Head :=
  match head.chain.converted? target preferCast with
  | some converted => .ok ⟨head.span, converted.chain, head.mayThrow || converted.mayThrow⟩
  | none => .error (.illegalConversion head.chain.ty? target head.span)

end Head

namespace Expr

/-- The natural type that an expression takes when it is given `ty`: a literal that still denotes
    its number and the result of an operator are never null. -/
def natural (ty : Ty) : Expr → Ty
  | literal _ (.number _) => if ty.holdsNumber then ty.toNonNull else ty
  | unary .. | binary .. | compare .. | isa .. => ty.toNonNull
  | _ => ty

/-- The expression with `ty` in place of its chain. -/
def retyped (e : Expr) (ty : Ty) : Expr := e.withHead (e.head.retyped (some (e.natural ty)))

/-- The expression with its chain extended to a type. -/
def extended (e : Expr) (target : Ty) (preferCast : Bool) : Attempt Expr :=
  match e.head.extended target preferCast with
  | .ok head => .done (e.withHead head)
  | .error error => ⟨e, some error⟩

/-- The result of a logical operator can be produced as a boolean or as a string right away. -/
def isLogical : Expr → Bool
  | unary _ .not _ | binary _ .and _ _ _ | binary _ .or _ _ _ | compare .. | isa .. => true
  | _ => false

/-- A coercion of an expression that is neither in parentheses nor an array literal. -/
def coerceNode (e : Expr) (target : Ty) (preferCast : Bool) : Attempt Expr :=
  match e with
  | literal _ (.number _) =>
    if Ty.number.accepts target then
      if target.primitive then .done (e.retyped target)
      else (e.retyped target.toPrimitive).extended target.toNonNull preferCast
    else e.extended target preferCast
  | _ =>
    if e.isLogical && (target.isBoolean || target.isString) then .done (e.retyped target)
    else e.extended target preferCast

mutual

/-- Coerces the expression to a type. An array literal that becomes an array of another type coerces
    its values to the element type. -/
def convertTo (target : Ty) (preferCast : Bool) : Expr → Attempt Expr
  | paren head inner => (inner.convertTo target preferCast).map (paren head)
  | array head listSpan elements associative =>
    match head.extended target preferCast with
    | .error error => ⟨array head listSpan elements associative, some error⟩
    | .ok head' =>
      match target.element? with
      | none => .done (array head' listSpan elements associative)
      | some element =>
        (convertValues element preferCast associative associative elements).map
          (array (head.retyped (some target)) listSpan · associative)
  | e => e.coerceNode target preferCast

/-- Coerces the values of an array literal in turn, up to the first that fails. The null literal and
    anything else of the null type fits every array. Keys of an associative literal stay as they
    are: `isKey` says whether the next element is one. -/
def convertValues (element : Ty) (preferCast associative : Bool) (isKey : Bool) : List Expr → Attempt (List Expr)
  | [] => .done []
  | e :: rest =>
    if isKey then (convertValues element preferCast associative false rest).map (e :: ·)
    else if e.ty? = some .null then (convertValues element preferCast associative associative rest).map (e :: ·)
    else
      let converted := e.convertTo element preferCast
      match converted.error? with
      | some error => ⟨converted.value :: rest, some error⟩
      | none => (convertValues element preferCast associative associative rest).map (converted.value :: ·)

end

/-- Gives the expression a type in place of its chain. An array literal is never null and types its
    values too. -/
def setTy (ty : Ty) : Expr → Attempt Expr
  | paren head inner => (inner.setTy ty).map (paren head)
  | array head listSpan elements associative =>
    (array (head.retyped none) listSpan elements associative).convertTo ty.toNonNull false
  | e => .done (e.retyped ty)

/-- Repeats recorded conversions on an expression, up to the first that fails. -/
def replay (steps : List Conversion) (e : Expr) : Attempt Expr :=
  steps.foldl (fun attempt step => attempt.andThen (convertTo step.target step.castPreferred)) (.done e)

/-- Replaces the natural type and repeats the conversions that were on top of it. -/
def setInitialTy (ty : Ty) : Expr → Attempt Expr
  | paren head inner => (inner.setInitialTy ty).map (paren head)
  | e =>
    match e.head.chain.initialTy? with
    | none => e.setTy ty
    | some initial =>
      if initial = ty then .done e
      else replay e.head.chain.steps.tail (e.withHead (e.head.retyped (some ty)))

end Expr

end TemplateTree
