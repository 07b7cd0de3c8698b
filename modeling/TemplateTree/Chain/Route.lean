import TemplateTree.Chain
import TemplateTree.Ty.Assignable

namespace TemplateTree

/-- A stop on the way to a type, and whether a cast is the preferred way to get there. -/
structure Leg where
  target : Ty
  castPreferred : Bool
deriving DecidableEq

structure Route where
  legs : List Leg
  /-- The value is unboxed or given a new element type although it may be null. -/
  mayThrow : Bool
deriving DecidableEq

namespace Route

/-- The route of a value that already has the wanted type. -/
def stay : Route := ⟨[], false⟩

def direct (target : Ty) (cast : Bool) : Route := ⟨[⟨target, cast⟩], false⟩

/-- The route with one more stop. -/
def andThen (route : Route) (target : Ty) (cast : Bool) : Route :=
  { route with legs := route.legs ++ [⟨target, cast⟩] }

/-- The route that fails at run time on a null value of type `source`. -/
def unboxing (route : Route) (source : Ty) : Route :=
  { route with mayThrow := route.mayThrow || source.isNullable }

/-- Any value can become a string, null only where the target is nullable. -/
def viaString (target : Ty) (cast : Bool) : Route :=
  ⟨[⟨if target.isNonNull then .nonNullString else .string, false⟩, ⟨target, cast⟩], false⟩

/-- A conversion of last resort to a type that can hold a string. -/
def orString (target : Ty) (cast : Bool) : Option Route :=
  if target.acceptsString then some (viaString target cast) else none

/-- Between primitive types everything but void can be cast to. -/
def betweenPrimitives? (source target : Ty) (cast : Bool) : Option Route :=
  if source = target then some stay
  else if target.isVoid then none
  else some (direct target cast)

/-- From a primitive type to an object type. A class that already holds the boxed value receives
    just that; another numeric class and the character class are reached through their primitive
    form. -/
def boxing? (source target : Ty) (cast : Bool) : Option Route :=
  if target.accepts source then
    some (direct (if target.kind = source.kind then target else source.toBoxed) cast)
  else if source.isNumber && target.hasPrimitivePeer && target.isNumber then
    (betweenPrimitives? source target.toPrimitive true).map (·.andThen target cast)
  else if source.isNumber && target.kind = .char then
    (betweenPrimitives? source .char true).map (·.andThen target cast)
  else orString target cast

/-- Between object types other than two numeric classes. A cast goes down the class hierarchy; the
    way up needs no step unless it promises more about null; arrays are converted element by
    element. -/
def casting? (source target : Ty) (cast : Bool) : Option Route :=
  if source.accepts target then
    if cast then some (direct target cast)
    else (orString target cast).or (some (direct target cast))
  else if target.accepts source then
    if source.isNonNull || !target.isNonNull then some stay else some (direct target cast)
  else if target.acceptsElements source then some ((direct target cast).unboxing source)
  else orString target cast

/-- From an object type to a primitive type: unbox, then convert between primitives; without a boxed
    form of its own a value is first cast to the boxed target. -/
def unboxing? (source target : Ty) (cast : Bool) : Option Route :=
  if source.hasPrimitivePeer then
    if source.kind = target.kind then some ((direct target cast).unboxing source)
    else some (((direct source.toPrimitive true).andThen target cast).unboxing source)
  else if source.isNumber && target.isNumber then some ((direct target cast).unboxing source)
  else if !cast then none
  else if source = target.toBoxed then some (direct target cast)
  else (casting? source target.toBoxed true).map (·.andThen target cast)

/-- Between object types. A number that is not null changes its class through the primitive form of
    the target. -/
def betweenObjects? (source target : Ty) (cast : Bool) : Option Route :=
  if source.accepts target || target.accepts source then casting? source target cast
  else if source.isNumber && target.isNumber && target.hasPrimitivePeer then
    if source.isNonNull then
      (unboxing? source target.toPrimitive true).map (·.andThen target cast)
    else some (direct target cast)
  else casting? source target cast

/-- The route from one type to another, if the coercion is legal. A null is always cast. -/
def between? (source target : Ty) (preferCast : Bool) : Option Route :=
  if source = target then some stay
  else
    let cast := preferCast || source.kind = .null
    match source.primitive, target.primitive with
    | true, true => betweenPrimitives? source target cast
    | true, false => boxing? source target cast
    | false, true => unboxing? source target cast
    | false, false => betweenObjects? source target cast

end Route

namespace Chain

/-- The chain extended by the stops of a route. -/
def along (chain : Chain) (legs : List Leg) : Chain :=
  legs.foldl (fun chain leg => chain.push leg.target leg.castPreferred) chain

/-- A chain that was extended to a type, and whether the new steps may fail at run time. -/
structure Converted where
  chain : Chain
  mayThrow : Bool
deriving DecidableEq

/-- The chain extended so that its value can be used as a `target`, if that is legal. A chain
    without a type takes the target as its natural type. -/
def converted? (chain : Chain) (target : Ty) (preferCast : Bool) : Option Converted :=
  match chain.ty? with
  | none => some ⟨chain.push target preferCast, false⟩
  | some source =>
    (Route.between? source target preferCast).map fun route => ⟨chain.along route.legs, route.mayThrow⟩

end Chain

end TemplateTree
