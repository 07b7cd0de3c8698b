import TemplateTree.Proofs.Chain.Fits

namespace TemplateTree

namespace Kind

/-- A kind with a primitive form is held by itself, by the class of all objects and, if it is numeric, by the
    class of all numbers. -/
theorem accepts_form_iff {target source : Kind} (hform : source.hasPrimitiveForm) :
    target.accepts source ↔ target = source ∨ (source ≠ void ∧ (target = object ∨ target = null)) ∨
      (target = number ∧ source.isNumber) := by
  cases source <;> cases hform <;> cases target <;> simp [accepts, widest, isNumber]

theorem form_accepts_iff {target source : Kind} (hform : target.hasPrimitiveForm) :
    target.accepts source ↔ target = source := by
  cases target <;> cases hform <;> cases source <;> simp [accepts, widest]

end Kind

namespace Ty

/-- A boxed value is not null. -/
theorem isNullable_toBoxed {ty : Ty} (h : ty.primitive) : ty.toBoxed.isNullable = false := by
  simp [toBoxed, h, isNullable, isNonNull]

theorem acceptsElements_of_form {source target : Ty} (hform : target.kind.hasPrimitiveForm) :
    target.acceptsElements source = false := by
  obtain ⟨kind, _, _⟩ := target
  cases kind <;> first | rfl | cases hform

theorem acceptsString_of_form {target : Ty} (hform : target.kind.hasPrimitiveForm) : target.acceptsString = false := by
  obtain ⟨kind, _, _⟩ := target
  cases kind <;> simp_all [acceptsString, Kind.hasPrimitiveForm]

end Ty

namespace Route

/-- An array is converted element by element, neither class being wide enough for the other. -/
def convertsElements (source target : Ty) : Bool :=
  !source.accepts target && !target.accepts source && target.acceptsElements source

/-- The way from an object type to a primitive type announces that the value may be null. -/
def announcesNull (source target : Ty) : Bool :=
  source.hasPrimitivePeer || (source.isNumber && target.isNumber) || convertsElements source target.toBoxed

@[simp]
theorem mayThrow_andThen (route : Route) (target : Ty) (cast : Bool) :
    (route.andThen target cast).mayThrow = route.mayThrow := rfl

@[simp]
theorem mayThrow_direct_unboxing (source target : Ty) (cast : Bool) :
    ((direct target cast).unboxing source).mayThrow = source.isNullable := rfl

theorem mayThrow_of_orString {target : Ty} {cast : Bool} {route : Route} (h : orString target cast = some route) :
    route.mayThrow = false := by
  unfold orString at h
  split at h
  next =>
    cases h
    rfl
  next => cases h

theorem mayThrow_of_betweenPrimitives? {source target : Ty} {cast : Bool} {route : Route}
    (h : betweenPrimitives? source target cast = some route) : route.mayThrow = false := by
  unfold betweenPrimitives? at h
  split at h
  next =>
    cases h
    rfl
  next =>
    split at h
    next => cases h
    next =>
      cases h
      rfl

/-- Between object types only an array whose elements are converted is looked at for null. -/
theorem mayThrow_of_casting? {source target : Ty} {cast : Bool} {route : Route}
    (h : casting? source target cast = some route) :
    route.mayThrow = (source.isNullable && convertsElements source target) := by
  unfold convertsElements
  cases casts_of_casting? h with
  | down hdown => simp [direct, hdown]
  | downToString hdown _ hstring => simp [mayThrow_of_orString hstring, hdown]
  | up _ hup => simp [stay, hup]
  | upToNonNull _ hup => simp [direct, hup]
  | elements hdown hup helements => simp [hdown, hup, helements]
  | string _ _ helements hstring => simp [mayThrow_of_orString hstring, helements]

theorem mayThrow_of_unboxing? {source target : Ty} {cast : Bool} {route : Route} (htarget : target.primitive)
    (h : unboxing? source target cast = some route) :
    route.mayThrow = (source.isNullable && announcesNull source target) := by
  unfold announcesNull
  cases unboxes_of_unboxing? h with
  | own hpeer => simp [hpeer]
  | throughOwn hpeer => simp [hpeer, direct, andThen, unboxing]
  | number hnumbers => simp [hnumbers]
  | boxed _ hboxed => simp [hboxed, Ty.isNullable_toBoxed htarget, direct]
  | casting hpeer hnumbers _ _ hroute => simp [mayThrow_of_casting? hroute, hpeer, hnumbers]

theorem unboxing?_of_between? {source target : Ty} {preferCast : Bool} {route : Route}
    (hsource : source.primitive = false) (htarget : target.primitive) (h : between? source target preferCast = some route) :
    unboxing? source target (preferCast || source.kind = .null) = some route := by
  have hne : source ≠ target := by
    rintro rfl
    rw [hsource] at htarget
    cases htarget
  simpa [between?, hne, hsource, htarget] using h

/-- On every way to a primitive type that a value does not have already, a throw is announced exactly if the
    value may be null and the way looks for it. -/
theorem mayThrow_of_between? {source target : Ty} {preferCast : Bool} {route : Route} (htarget : target.primitive)
    (hne : source ≠ target) (h : between? source target preferCast = some route) :
    route.mayThrow = (source.isNullable && announcesNull source target) := by
  cases hsource : source.primitive with
  | true =>
    have hnonNull : source.isNullable = false := by simp [Ty.isNullable, Ty.isNonNull, hsource]
    simp only [between?, if_neg hne, hsource, htarget] at h
    rw [mayThrow_of_betweenPrimitives? h, hnonNull, Bool.false_and]
  | false => exact mayThrow_of_unboxing? htarget (unboxing?_of_between? hsource htarget h)

/-- A nullable value that is not announced is cast to the boxed form of the target. -/
theorem exists_casting?_of_between? {source target : Ty} {preferCast : Bool} {route : Route}
    (htarget : target.primitive) (hnullable : source.isNullable) (hsilent : announcesNull source target = false)
    (h : between? source target preferCast = some route) :
    ∃ route', casting? source target.toBoxed true = some route' := by
  have hsource : source.primitive = false := by
    simp only [Ty.isNullable, Ty.isNonNull, Bool.not_eq_true', Bool.or_eq_false_iff] at hnullable
    exact hnullable.1
  cases unboxes_of_unboxing? (unboxing?_of_between? hsource htarget h) with
  | own hpeer | throughOwn hpeer => simp [announcesNull, hpeer] at hsilent
  | number hnumbers => simp [announcesNull, hnumbers] at hsilent
  | boxed _ hboxed =>
    rw [hboxed, Ty.isNullable_toBoxed htarget] at hnullable
    cases hnullable
  | casting _ _ _ _ hroute => exact ⟨_, hroute⟩

/-- A class that can be cast to one with a primitive form is narrower or wider than that. -/
theorem accepts_of_casting? {source target : Ty} {cast : Bool} {route : Route} (hform : target.kind.hasPrimitiveForm)
    (h : casting? source target cast = some route) : source.accepts target ∨ target.accepts source := by
  cases casts_of_casting? h with
  | down hdown | downToString hdown => exact .inl hdown
  | up _ hup | upToNonNull _ hup => exact .inr hup
  | elements _ _ helements => simp [Ty.acceptsElements_of_form hform] at helements
  | string _ _ _ hstring => simp [orString, Ty.acceptsString_of_form hform] at hstring

/-- Only the class of all objects is cast to the boxed form of a proper primitive type without being announced, and
    `Void` to itself. -/
theorem announcesNull_eq_false_iff {source target : Ty} {preferCast : Bool} {route : Route} (htarget : target.primitive)
    (hform : target.kind.hasPrimitiveForm) (hnullable : source.isNullable)
    (h : between? source target preferCast = some route) :
    announcesNull source target = false ↔ source.kind = .object ∨ source.kind = .null ∨ source.kind = .void := by
  have hkind : target.toBoxed.kind = target.kind := by rw [Ty.toBoxed, if_pos htarget]
  have hboxed : target.toBoxed.kind.hasPrimitiveForm := by rwa [hkind]
  constructor
  · intro hsilent
    obtain ⟨route', hroute'⟩ := exists_casting?_of_between? htarget hnullable hsilent h
    simp only [announcesNull, Bool.or_eq_false_iff] at hsilent
    obtain ⟨⟨hpeer, hnumbers⟩, -⟩ := hsilent
    have hvoid : source.kind = target.kind → source.kind = .void := by
      intro hsame
      simpa [Ty.hasPrimitivePeer, Ty.isVoid, hsame, hform] using hpeer
    have haccepts := accepts_of_casting? hboxed hroute'
    simp only [Ty.accepts, hkind, Kind.accepts_form_iff hform, Kind.form_accepts_iff hform] at haccepts
    obtain (hsame | ⟨-, hobject⟩ | ⟨hnumber, htargetNumber⟩) | hsame := haccepts
    · exact .inr (.inr (hvoid hsame))
    · exact hobject.imp_right .inl
    · have hsourceNumber : source.isNumber := by rw [Ty.isNumber, hnumber, Kind.isNumber]
      rw [hsourceNumber, Ty.isNumber, htargetNumber] at hnumbers
      cases hnumbers
    · exact .inr (.inr (hvoid hsame.symm))
  · intro hsource
    have hpeer : source.hasPrimitivePeer = false := by
      obtain hsource | hsource | hsource := hsource <;>
        simp [Ty.hasPrimitivePeer, Ty.isVoid, hsource, Kind.hasPrimitiveForm]
    have hnumber : source.isNumber = false := by
      obtain hsource | hsource | hsource := hsource <;> simp [Ty.isNumber, hsource, Kind.isNumber]
    simp [announcesNull, hpeer, hnumber, convertsElements, Ty.acceptsElements_of_form hboxed]

end Route

namespace Chain

/-- When a coercion to a primitive type says that it may throw, for every chain with a type, every primitive type
    other than that and both preferences: the value may be null, and its way announces it. So to a proper
    primitive type this is said exactly of the nullable values, unless the nullable value is cast from the class of all
    objects, from the null type or from `Void`. -/
theorem converted?_mayThrow_iff {chain : Chain} {source target : Ty} {preferCast : Bool} {converted : Converted}
    (hsource : chain.ty? = some source) (htarget : target.primitive) (hne : target ≠ source)
    (h : chain.converted? target preferCast = some converted) :
    (converted.mayThrow ↔ source.isNullable ∧ Route.announcesNull source target) ∧
      (target.kind.hasPrimitiveForm →
        ((converted.mayThrow ↔ source.isNullable) ↔
          ¬(source.isNullable ∧ (source.kind = .object ∨ source.kind = .null ∨ source.kind = .void)))) := by
  simp only [converted?, hsource] at h
  obtain ⟨route, hroute, rfl⟩ := Option.map_eq_some_iff.1 h
  have hmayThrow := Route.mayThrow_of_between? htarget hne.symm hroute
  simp only [hmayThrow, Bool.and_eq_true, true_and]
  intro hform
  by_cases hnullable : source.isNullable
  · have hsilent := Route.announcesNull_eq_false_iff htarget hform hnullable hroute
    simp [hnullable, ← hsilent]
  · simp [hnullable]

/-- A nullable `Integer` becomes a `long` through its own primitive form, and that may throw. -/
theorem integer_converted?_mayThrow :
    let source := Ty.ofKind .int
    let converted : Converted :=
      ⟨⟨[⟨none, source, true⟩, ⟨some source, .int, true⟩, ⟨some .int, .long, false⟩]⟩, true⟩
    (ofTy source).converted? .long false = some converted ∧
      ((converted.mayThrow ↔ source.isNullable) ↔
        ¬(source.isNullable ∧ (source.kind = .object ∨ source.kind = .null ∨ source.kind = .void))) := by
  intro source converted
  have hconverted : (ofTy source).converted? .long false = some converted := by decide
  exact ⟨hconverted, (converted?_mayThrow_iff rfl rfl (by decide) hconverted).2 rfl⟩

/-- A nullable object is cast to a non-null `Integer` and unboxed, and so is null, which is cast without being asked
    to be. Neither says that it may throw. -/
theorem object_mayThrow_converted?_eq_false :
    Ty.object.isNullable ∧ Ty.null.isNullable ∧
      (ofTy .object).converted? .int true =
        some ⟨⟨[⟨none, .object, true⟩, ⟨some .object, Ty.int.toBoxed, true⟩, ⟨some Ty.int.toBoxed, .int, true⟩]⟩,
          false⟩ ∧
      (ofTy .null).converted? .int false =
        some ⟨⟨[⟨none, .null, true⟩, ⟨some .null, Ty.int.toBoxed, true⟩, ⟨some Ty.int.toBoxed, .int, true⟩]⟩,
          false⟩ := by
  decide

end Chain

end TemplateTree
