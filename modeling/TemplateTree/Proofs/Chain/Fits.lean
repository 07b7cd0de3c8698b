import Mathlib.Data.List.Induction
import TemplateTree.Chain.Reduce
import TemplateTree.Chain.Route
import TemplateTree.Proofs.Ty.Assignable

namespace TemplateTree

namespace Ty

/-- A value of type `source` can stand where a `target` is expected: its class is no wider, it is not
    null where null is not expected, and it is primitive where a primitive value is. -/
structure Fits (target source : Ty) : Prop where
  accepts : target.accepts source
  isNonNull : target.isNonNull → source.isNonNull
  primitive : target.primitive → source.primitive ∧ source.kind = target.kind

theorem isNonNull_toNonNull (ty : Ty) : ty.toNonNull.isNonNull := by simp [isNonNull, toNonNull]

theorem Fits.refl (ty : Ty) : ty.Fits ty := ⟨ty.accepts_refl, id, fun h => ⟨h, rfl⟩⟩

theorem fits_toNonNull (ty : Ty) : ty.Fits ty.toNonNull :=
  ⟨ty.accepts_refl, fun _ => ty.isNonNull_toNonNull, fun h => ⟨h, rfl⟩⟩

/-- What fits the non-null form of a type fits the type. -/
theorem Fits.of_toNonNull {target source : Ty} (h : target.toNonNull.Fits source) : target.Fits source :=
  ⟨h.accepts, fun _ => h.isNonNull target.isNonNull_toNonNull, h.primitive⟩

end Ty

namespace Route

/-- The type at the end of a route from a type. -/
def lastTy (source : Ty) (legs : List Leg) : Ty := (legs.getLast?.map Leg.target).getD source

@[simp]
theorem lastTy_append (source : Ty) (legs : List Leg) (target : Ty) (cast : Bool) :
    lastTy source (legs ++ [⟨target, cast⟩]) = target := by
  simp [lastTy]

/-- The route ends in a type that fits the one it was made for. -/
def Reaches (route : Route) (source target : Ty) : Prop := target.Fits (lastTy source route.legs)

theorem reaches_stay {source target : Ty} (h : target.Fits source) : stay.Reaches source target := h

theorem reaches_direct (source target : Ty) (cast : Bool) : (direct target cast).Reaches source target := .refl target

theorem reaches_andThen (route : Route) (source target : Ty) (cast : Bool) :
    (route.andThen target cast).Reaches source target := by
  unfold Reaches andThen
  rw [lastTy_append]
  exact .refl target

theorem reaches_of_orString {source target : Ty} {cast : Bool} {route : Route}
    (h : orString target cast = some route) : route.Reaches source target := by
  unfold orString at h
  split at h
  next =>
    cases h
    exact .refl target
  next => cases h

theorem reaches_of_betweenPrimitives? {source target : Ty} {cast : Bool} {route : Route}
    (h : betweenPrimitives? source target cast = some route) : route.Reaches source target := by
  unfold betweenPrimitives? at h
  split at h
  next hsame =>
    cases h
    exact reaches_stay (hsame ▸ .refl target)
  next =>
    split at h
    next => cases h
    next =>
      cases h
      exact reaches_direct source target cast

/-- A boxed value has the class of its primitive form, which is no wider than the target. -/
theorem reaches_of_boxing? {source target : Ty} {cast : Bool} {route : Route} (hsource : source.primitive)
    (htarget : target.primitive = false) (h : boxing? source target cast = some route) :
    route.Reaches source target := by
  unfold boxing? at h
  split at h
  next haccepts =>
    cases h
    split
    next => exact reaches_direct source target cast
    next =>
      refine ⟨?_, fun _ => ?_, fun hprimitive => ?_⟩
      · simpa [lastTy, direct, Ty.toBoxed, hsource, Ty.accepts] using haccepts
      · simp [lastTy, direct, Ty.toBoxed, hsource, Ty.isNonNull]
      · rw [htarget] at hprimitive
        cases hprimitive
  next =>
    split at h
    next =>
      obtain ⟨route, -, rfl⟩ := Option.map_eq_some_iff.1 h
      exact reaches_andThen route source target cast
    next =>
      split at h
      next =>
        obtain ⟨route, -, rfl⟩ := Option.map_eq_some_iff.1 h
        exact reaches_andThen route source target cast
      next => exact reaches_of_orString h

/-- The ways between two object types, each with what leads to it. -/
inductive Casts (source target : Ty) (cast : Bool) : Route → Prop
  | down (hdown : source.accepts target) : Casts source target cast (direct target cast)
  | downToString (hdown : source.accepts target) (hcast : cast = false) {route : Route}
    (hstring : orString target cast = some route) : Casts source target cast route
  | up (hdown : ¬source.accepts target) (hup : target.accepts source) (hnull : target.isNonNull → source.isNonNull) :
    Casts source target cast stay
  | upToNonNull (hdown : ¬source.accepts target) (hup : target.accepts source) :
    Casts source target cast (direct target cast)
  | elements (hdown : ¬source.accepts target) (hup : ¬target.accepts source) (helements : target.acceptsElements source) :
    Casts source target cast ((direct target cast).unboxing source)
  | string (hdown : ¬source.accepts target) (hup : ¬target.accepts source) (helements : ¬target.acceptsElements source)
    {route : Route} (hstring : orString target cast = some route) : Casts source target cast route

theorem casts_of_casting? {source target : Ty} {cast : Bool} {route : Route}
    (h : casting? source target cast = some route) : Casts source target cast route := by
  unfold casting? at h
  split at h
  next hdown =>
    split at h
    next =>
      cases h
      exact .down hdown
    next hcast =>
      rw [Option.or_eq_some_iff] at h
      obtain h | ⟨-, h⟩ := h
      · exact .downToString hdown (by simpa using hcast) h
      · cases h
        exact .down hdown
  next hdown =>
    split at h
    next hup =>
      split at h
      next hnull =>
        cases h
        refine .up hdown hup fun hnonNull => ?_
        simpa [hnonNull] using hnull
      next =>
        cases h
        exact .upToNonNull hdown hup
    next hup =>
      split at h
      next helements =>
        cases h
        exact .elements hdown hup helements
      next helements => exact .string hdown hup helements h

/-- A value that needs no step on the way up the class hierarchy keeps its own type. -/
theorem reaches_of_casting? {source target : Ty} {cast : Bool} {route : Route} (htarget : target.primitive = false)
    (h : casting? source target cast = some route) : route.Reaches source target := by
  cases casts_of_casting? h with
  | down | upToNonNull | elements => exact reaches_direct source target cast
  | downToString _ _ hstring => exact reaches_of_orString hstring
  | string _ _ _ hstring => exact reaches_of_orString hstring
  | up _ hup hnull =>
    refine reaches_stay ⟨hup, hnull, fun hprimitive => ?_⟩
    rw [htarget] at hprimitive
    cases hprimitive

/-- The ways from an object type to a primitive type, each with what leads to it. -/
inductive Unboxes (source target : Ty) (cast : Bool) : Route → Prop
  | own (hpeer : source.hasPrimitivePeer) : Unboxes source target cast ((direct target cast).unboxing source)
  | throughOwn (hpeer : source.hasPrimitivePeer) :
    Unboxes source target cast (((direct source.toPrimitive true).andThen target cast).unboxing source)
  | number (hnumbers : source.isNumber && target.isNumber) :
    Unboxes source target cast ((direct target cast).unboxing source)
  | boxed (hcast : cast = true) (hboxed : source = target.toBoxed) : Unboxes source target cast (direct target cast)
  | casting (hpeer : source.hasPrimitivePeer = false) (hnumbers : (source.isNumber && target.isNumber) = false)
    (hcast : cast = true) (hboxed : source ≠ target.toBoxed) {route : Route}
    (hroute : casting? source target.toBoxed true = some route) : Unboxes source target cast (route.andThen target cast)

theorem unboxes_of_unboxing? {source target : Ty} {cast : Bool} {route : Route}
    (h : unboxing? source target cast = some route) : Unboxes source target cast route := by
  unfold unboxing? at h
  split at h
  next hpeer =>
    split at h
    next =>
      cases h
      exact .own hpeer
    next =>
      cases h
      exact .throughOwn hpeer
  next hpeer =>
    split at h
    next hnumbers =>
      cases h
      exact .number hnumbers
    next hnumbers =>
      split at h
      next => cases h
      next hcast =>
        have hcast : cast = true := by simpa using hcast
        split at h
        next hboxed =>
          cases h
          exact .boxed hcast hboxed
        next hboxed =>
          obtain ⟨route, hroute, rfl⟩ := Option.map_eq_some_iff.1 h
          exact .casting (Bool.eq_false_iff.2 hpeer) (Bool.eq_false_iff.2 hnumbers) hcast hboxed hroute

theorem reaches_of_unboxing? {source target : Ty} {cast : Bool} {route : Route}
    (h : unboxing? source target cast = some route) : route.Reaches source target := by
  cases unboxes_of_unboxing? h with
  | own | number | boxed => exact reaches_direct source target cast
  | throughOwn => exact reaches_andThen _ source target cast
  | casting => exact reaches_andThen _ source target cast

theorem reaches_of_betweenObjects? {source target : Ty} {cast : Bool} {route : Route}
    (htarget : target.primitive = false) (h : betweenObjects? source target cast = some route) :
    route.Reaches source target := by
  unfold betweenObjects? at h
  split at h
  next => exact reaches_of_casting? htarget h
  next =>
    split at h
    next =>
      split at h
      next =>
        obtain ⟨route, -, rfl⟩ := Option.map_eq_some_iff.1 h
        exact reaches_andThen route source target cast
      next =>
        cases h
        exact reaches_direct source target cast
    next => exact reaches_of_casting? htarget h

/-- Every legal coercion ends in a type that fits its target. -/
theorem reaches_of_between? {source target : Ty} {cast : Bool} {route : Route}
    (h : between? source target cast = some route) : route.Reaches source target := by
  unfold between? at h
  split at h
  next hsame =>
    cases h
    exact reaches_stay (hsame ▸ .refl target)
  next =>
    simp only at h
    split at h
    next => exact reaches_of_betweenPrimitives? h
    next hsource htarget => exact reaches_of_boxing? hsource htarget h
    next => exact reaches_of_unboxing? h
    next htarget => exact reaches_of_betweenObjects? htarget h

end Route

namespace Chain

/-- A step leads to its target, whether it had to be added or not. -/
theorem push_ty? (chain : Chain) (target : Ty) (cast : Bool) : (chain.push target cast).ty? = some target := by
  unfold push
  split
  next h => exact h
  next => simp [ty?]

theorem along_ty? {chain : Chain} {source : Ty} (h : chain.ty? = some source) (legs : List Leg) :
    (chain.along legs).ty? = some (Route.lastTy source legs) := by
  induction legs using List.reverseRecOn with
  | nil => exact h
  | append_singleton legs leg _ =>
    rw [along, List.foldl_append, Route.lastTy_append]
    exact push_ty? _ _ _

/-- A chain that was extended to a type ends in one that fits it. -/
theorem converted?_fits {chain : Chain} {target : Ty} {cast : Bool} {converted : Converted}
    (h : chain.converted? target cast = some converted) :
    ∃ ty, converted.chain.ty? = some ty ∧ target.Fits ty := by
  unfold converted? at h
  split at h
  next =>
    cases h
    exact ⟨target, push_ty? chain target cast, .refl target⟩
  next source hsource =>
    obtain ⟨route, hroute, rfl⟩ := Option.map_eq_some_iff.1 h
    exact ⟨_, along_ty? hsource route.legs, Route.reaches_of_between? hroute⟩

/-- The target of the last of some steps. -/
def lastTarget? (steps : List Conversion) : Option Ty := steps.getLast?.map Conversion.target

theorem lastTarget?_cons (step : Conversion) (rest : List Conversion) :
    lastTarget? (step :: rest) = some ((lastTarget? rest).getD step.target) := by
  unfold lastTarget?
  rw [List.getLast?_cons]
  cases rest.getLast? <;> rfl

/-- Visiting a type ends there, also when it goes back to where the type was reached before. -/
theorem lastTarget?_visit (path : List Conversion) (step : Conversion) :
    lastTarget? (visit path step) = some step.target := by
  unfold visit lastTarget?
  split
  next index hindex =>
    obtain ⟨hlt, htarget, -⟩ := List.findIdx?_eq_some_iff_getElem.1 hindex
    rw [List.getLast?_take]
    simpa [List.getElem?_eq_getElem hlt] using htarget
  next => simp

theorem lastTarget?_withoutDetours (steps : List Conversion) :
    lastTarget? (withoutDetours steps) = lastTarget? steps := by
  induction steps using List.reverseRecOn with
  | nil => rfl
  | append_singleton steps step _ =>
    rw [withoutDetours, List.foldl_append]
    exact (lastTarget?_visit _ step).trans (by simp [lastTarget?])

theorem lastTarget?_withoutBoxing (steps : List Conversion) :
    lastTarget? (withoutBoxing steps) = lastTarget? steps := by
  fun_induction withoutBoxing steps with
  | case1 first boxed last rest _ ih => simp only [lastTarget?_cons, ih, Option.getD_some]
  | case2 first boxed last rest _ ih => rw [lastTarget?_cons, ih, ← lastTarget?_cons]
  | case3 => rfl

/-- A reduced chain ends where the chain ends. -/
theorem reduced_ty? (chain : Chain) : chain.reduced.ty? = chain.ty? :=
  (lastTarget?_withoutBoxing _).trans (lastTarget?_withoutDetours chain.steps)

end Chain

end TemplateTree
