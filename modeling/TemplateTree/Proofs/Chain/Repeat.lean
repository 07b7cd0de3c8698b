import TemplateTree.Proofs.Chain.Fits

namespace TemplateTree

namespace Ty

/-- The object class in one of its two forms. -/
def objectForm (nonNull : Bool) : Ty := ⟨.object, false, nonNull⟩

/-- The string class in one of its two forms. -/
def stringForm (nonNull : Bool) : Ty := ⟨.string, false, nonNull⟩

section Forms

variable (nonNull : Bool)

@[simp]
theorem stringForm_kind : (stringForm nonNull).kind = .string := rfl

@[simp]
theorem stringForm_primitive : (stringForm nonNull).primitive = false := rfl

@[simp]
theorem objectForm_kind : (objectForm nonNull).kind = .object := rfl

end Forms

/-- The class of all objects holds everything but void, under either of its names. -/
theorem accepts_of_widest_eq_object {target source : Ty} (htarget : target.kind.widest = .object)
    (hsource : source.isVoid = false) : target.accepts source :=
  Kind.accepts_of_holds (.object htarget (of_decide_eq_false hsource))

/-- Only an object can hold every object, the null type being one as well. -/
theorem kind_of_accepts_object {target source : Ty} (hsource : source.kind = .object) (h : target.accepts source) :
    target.kind = .object ∨ target.kind = .null := by
  obtain ⟨kind, _, _⟩ := target
  simp only [accepts, hsource] at h
  cases kind <;> simp_all [Kind.accepts, Kind.widest, Kind.isNumber]

theorem kind_of_string_accepts {target source : Ty} (htarget : target.kind = .string) (h : target.accepts source) :
    source.kind = .string := by
  obtain ⟨kind, _, _⟩ := source
  simp only [accepts, htarget] at h
  cases kind <;> simp_all [Kind.accepts, Kind.widest]

/-- A type that takes strings is a form of the string class or of the object class. -/
theorem eq_form_of_acceptsString {ty : Ty} (h : ty.acceptsString) :
    ty = stringForm ty.isNonNull ∨ ty = objectForm ty.isNonNull := by
  obtain ⟨kind, primitive, nonNull⟩ := ty
  simp only [acceptsString, Bool.and_eq_true, Bool.or_eq_true, decide_eq_true_eq, Bool.not_eq_true'] at h
  obtain ⟨rfl, rfl | rfl⟩ := h
  · exact .inl rfl
  · exact .inr rfl

theorem eq_stringForm {ty : Ty} (hstring : ty.isString) (h : ty.primitive = false) : ty = stringForm ty.nonNull := by
  obtain ⟨_, _, _⟩ := ty
  cases of_decide_eq_true hstring
  cases h
  rfl

theorem eq_objectForm {ty : Ty} (hkind : ty.kind = .object) (h : ty.primitive = false) : ty = objectForm ty.nonNull := by
  obtain ⟨_, _, _⟩ := ty
  cases hkind
  cases h
  rfl

theorem toPrimitive_of_peer {ty : Ty} (hpeer : ty.hasPrimitivePeer) (h : ty.primitive = false) :
    ty.toPrimitive = ⟨ty.kind, true, true⟩ := by
  have hform : ty.kind.hasPrimitiveForm = true := by
    simp only [hasPrimitivePeer, Bool.and_eq_true] at hpeer
    exact hpeer.1
  simp [toPrimitive, h, hpeer, ofPrimitive, hform]

theorem kind_ne_null_of_peer {ty : Ty} (hpeer : ty.hasPrimitivePeer) : ty.kind ≠ .null := by
  intro hkind
  simp [hasPrimitivePeer, hkind, Kind.hasPrimitiveForm] at hpeer

end Ty

namespace Route

/-- The legs of a route that lead somewhere: a leg to the type that the value has already adds nothing. -/
def taken (source : Ty) : List Leg → List Leg
  | [] => []
  | leg :: rest => if leg.target = source then taken source rest else leg :: taken leg.target rest

/-- Asked for the target of a leg, a value takes just this leg. -/
def Repeats (source : Ty) (leg : Leg) : Prop :=
  ∃ route, between? source leg.target leg.castPreferred = some route ∧ taken source route.legs = [leg]

/-- Every leg in a row repeats itself where the one before it ends, and none leads to void. -/
def RepeatsAll : Ty → List Leg → Prop
  | _, [] => True
  | source, leg :: rest => (Repeats source leg ∧ leg.target.isVoid = false) ∧ RepeatsAll leg.target rest

theorem lastTy_cons (source : Ty) (leg : Leg) (rest : List Leg) :
    lastTy source (leg :: rest) = lastTy leg.target rest := by
  unfold lastTy
  rw [List.getLast?_cons]
  cases rest.getLast? <;> rfl

theorem lastTy_taken (source : Ty) (legs : List Leg) : lastTy source (taken source legs) = lastTy source legs := by
  induction legs generalizing source with
  | nil => rfl
  | cons leg rest ih =>
    rw [lastTy_cons, taken]
    split
    next hsame => rw [ih, hsame]
    next => rw [lastTy_cons, ih]

theorem taken_append (source : Ty) (front back : List Leg) :
    taken source (front ++ back) = taken source front ++ taken (lastTy source front) back := by
  induction front generalizing source with
  | nil => rfl
  | cons leg rest ih =>
    rw [List.cons_append, taken, taken, lastTy_cons]
    split
    next hsame => rw [ih, hsame]
    next => rw [ih, List.cons_append]

theorem repeatsAll_append {source : Ty} {front back : List Leg} (hfront : RepeatsAll source front)
    (hback : RepeatsAll (lastTy source front) back) : RepeatsAll source (front ++ back) := by
  induction front generalizing source with
  | nil => exact hback
  | cons leg rest ih =>
    rw [lastTy_cons] at hback
    exact ⟨hfront.1, ih hfront.2 hback⟩

/-- One more leg at the end of a route, which is not taken if it leads nowhere. -/
theorem repeatsAll_andThen {source target : Ty} {cast : Bool} {route : Route}
    (hroute : RepeatsAll source (taken source route.legs)) (hvoid : target.isVoid = false)
    (hlast : lastTy source route.legs ≠ target → Repeats (lastTy source route.legs) ⟨target, cast⟩) :
    RepeatsAll source (taken source (route.andThen target cast).legs) := by
  rw [andThen, taken_append]
  refine repeatsAll_append hroute ?_
  rw [lastTy_taken, taken]
  split
  next => trivial
  next hne => exact ⟨⟨hlast (Ne.symm hne), hvoid⟩, trivial⟩

theorem taken_singleton {source : Ty} {leg : Leg} (hne : source ≠ leg.target) : taken source [leg] = [leg] := by
  rw [taken, if_neg (Ne.symm hne)]
  rfl

theorem repeatsAll_singleton {source : Ty} {leg : Leg} (h : Repeats source leg) (hvoid : leg.target.isVoid = false) :
    RepeatsAll source [leg] :=
  ⟨⟨h, hvoid⟩, trivial⟩

/-- A null is cast whether or not a cast is preferred. -/
theorem between?_preferCast (source target : Ty) (preferCast : Bool) :
    between? source target (preferCast || source.kind = .null) = between? source target preferCast := by
  simp [between?]

theorem cast_or_null {source : Ty} {cast : Bool} (hnull : source.kind = .null → cast) :
    (cast || decide (source.kind = .null)) = cast := by
  by_cases hkind : source.kind = .null
  · simp [hnull hkind]
  · simp [hkind]

theorem repeats_betweenPrimitives {source target : Ty} {cast : Bool} (hsource : source.primitive)
    (htarget : target.primitive) (hvoid : target.isVoid = false) (hne : source ≠ target)
    (hnull : source.kind = .null → cast) : Repeats source ⟨target, cast⟩ := by
  refine ⟨direct target cast, ?_, taken_singleton hne⟩
  simp [between?, betweenPrimitives?, hsource, htarget, hvoid, hne, cast_or_null hnull]

/-- A primitive value is boxed in one leg. -/
theorem repeats_boxing {source target : Ty} {cast : Bool} (hsource : source.primitive)
    (htarget : target.primitive = false) (hkind : target.kind = source.kind) (hnull : source.kind = .null → cast) :
    Repeats source ⟨target, cast⟩ := by
  have hne : source ≠ target := by
    rintro rfl
    rw [hsource] at htarget
    cases htarget
  have haccepts : target.accepts source := by
    have hrefl := source.accepts_refl
    rwa [Ty.accepts, ← hkind] at hrefl ⊢
  refine ⟨direct target cast, ?_, taken_singleton hne⟩
  simp [between?, boxing?, hsource, htarget, haccepts, hkind, hne, cast_or_null hnull]

/-- A value is unboxed to the primitive form of its own class in one leg. -/
theorem repeats_unboxing {source : Ty} (hsource : source.primitive = false) (hpeer : source.hasPrimitivePeer) :
    Repeats source ⟨source.toPrimitive, true⟩ := by
  rw [Ty.toPrimitive_of_peer hpeer hsource]
  have hne : source ≠ ⟨source.kind, true, true⟩ := by
    intro hsame
    rw [hsame] at hsource
    cases hsource
  refine ⟨(direct ⟨source.kind, true, true⟩ true).unboxing source, ?_, taken_singleton hne⟩
  simp [between?, unboxing?, hsource, hpeer, hne]

/-- The boxed form of a primitive type is unboxed by a cast, whether or not the class has a primitive form. -/
theorem repeats_unboxing_toBoxed {target : Ty} (htarget : target.primitive) : Repeats target.toBoxed ⟨target, true⟩ := by
  have hboxed : target.toBoxed = ⟨target.kind, false, true⟩ := by simp [Ty.toBoxed, htarget]
  have hne : target.toBoxed ≠ target := by
    intro hsame
    rw [← hsame, hboxed] at htarget
    cases htarget
  have hroute : ∃ route, unboxing? target.toBoxed target true = some route ∧ route.legs = [⟨target, true⟩] := by
    unfold unboxing?
    split
    next => exact ⟨_, if_pos (by rw [hboxed]), rfl⟩
    next =>
      split
      next => exact ⟨_, rfl, rfl⟩
      next => exact ⟨direct target true, by simp, rfl⟩
  obtain ⟨route, hroute, hlegs⟩ := hroute
  refine ⟨route, ?_, by rw [hlegs, taken_singleton hne]⟩
  have hprimitive : target.toBoxed.primitive = false := by rw [hboxed]
  simp [between?, hne, hprimitive, htarget, hroute]

theorem legs_viaString_stringForm (nonNull cast : Bool) :
    (viaString (.stringForm nonNull) cast).legs = [⟨.stringForm nonNull, false⟩, ⟨.stringForm nonNull, cast⟩] := by
  cases nonNull <;> rfl

theorem taken_viaString_stringForm {source : Ty} {nonNull : Bool} (hne : source ≠ .stringForm nonNull) (cast : Bool) :
    taken source (viaString (.stringForm nonNull) cast).legs = [⟨.stringForm nonNull, false⟩] := by
  simp [legs_viaString_stringForm, taken, Ne.symm hne]

/-- Every value but a null becomes a string in one leg, and a primitive null does too. -/
theorem repeats_toString {source : Ty} {nonNull : Bool} (hne : source ≠ .stringForm nonNull)
    (hnull : source.kind = .null → source.primitive) : Repeats source ⟨.stringForm nonNull, false⟩ := by
  have hstrings : (Ty.stringForm nonNull).acceptsString := rfl
  have hnumber : (Ty.stringForm nonNull).isNumber = false := rfl
  by_cases hboxed : source.primitive ∧ source.kind = .string
  · exact repeats_boxing hboxed.1 rfl hboxed.2.symm (by simp [hboxed.2])
  refine ⟨viaString (.stringForm nonNull) (decide (source.kind = .null)), ?_, taken_viaString_stringForm hne _⟩
  cases hsource : source.primitive with
  | true =>
    have hnot : ¬(Ty.stringForm nonNull).accepts source :=
      fun h => hboxed ⟨hsource, Ty.kind_of_string_accepts rfl h⟩
    simp [between?, boxing?, orString, hsource, hne, hnot, hnumber, hstrings]
  | false =>
    have hcast : source.kind ≠ .null := by
      intro hkind
      rw [hnull hkind] at hsource
      cases hsource
    have hcasting : casting? source (.stringForm nonNull) false = some (viaString (.stringForm nonNull) false) := by
      by_cases haccepts : source.accepts (.stringForm nonNull)
      · simp [casting?, orString, haccepts, hstrings]
      · have hnot : ¬(Ty.stringForm nonNull).accepts source := by
          intro h
          have hstring := Ty.kind_of_string_accepts rfl h
          exact haccepts (by simp [Ty.accepts, hstring, Kind.accepts])
        simp [casting?, orString, haccepts, hnot, hstrings, Ty.acceptsElements, Ty.element?]
    simp [between?, betweenObjects?, hsource, hne, hcast, hnumber, hcasting]

/-- The one exception: an object of one form that is to have the other, and that is not cast, becomes a
    string on the way. -/
def PassesString (source target : Ty) (cast : Bool) (legs : List Leg) : Prop :=
  ∃ nonNull, source = .objectForm (!nonNull) ∧ target = .objectForm nonNull ∧ cast = false ∧
    legs = [⟨.stringForm nonNull, false⟩, ⟨.objectForm nonNull, false⟩]

theorem repeatsAll_direct {source target : Ty} {cast : Bool} {route : Route} (hne : source ≠ target)
    (hvoid : target.isVoid = false) (h : between? source target cast = some route)
    (hlegs : route.legs = [⟨target, cast⟩]) : RepeatsAll source (taken source route.legs) := by
  have htaken : taken source route.legs = [⟨target, cast⟩] := by rw [hlegs, taken_singleton hne]
  rw [htaken]
  exact repeatsAll_singleton ⟨route, h, htaken⟩ hvoid

/-- A conversion of last resort goes to the string class only, since an object could take any value. -/
theorem repeatsAll_of_orString {source target : Ty} {cast : Bool} {route : Route} (hsource : source.isVoid = false)
    (hne : source ≠ target) (hnull : source.kind = .null → source.primitive) (hnot : ¬target.accepts source)
    (h : orString target cast = some route) : RepeatsAll source (taken source route.legs) := by
  unfold orString at h
  split at h
  next hstrings =>
    cases h
    obtain hform | hform := Ty.eq_form_of_acceptsString hstrings
    · rw [hform] at hne ⊢
      rw [taken_viaString_stringForm hne]
      exact repeatsAll_singleton (repeats_toString hne hnull) rfl
    · have hkind : target.kind = .object := by rw [hform, Ty.objectForm_kind]
      have hwidest : target.kind.widest = .object := Kind.widest_eq_object_iff.2 (.inl hkind)
      exact absurd (Ty.accepts_of_widest_eq_object hwidest hsource) hnot
  next => cases h

theorem repeatsAll_of_betweenPrimitives? {source target : Ty} {cast : Bool} {route : Route}
    (hsource : source.primitive) (htarget : target.primitive) (hnull : source.kind = .null → cast)
    (h : betweenPrimitives? source target cast = some route) : RepeatsAll source (taken source route.legs) := by
  unfold betweenPrimitives? at h
  split at h
  next =>
    cases h
    trivial
  next hne =>
    split at h
    next => cases h
    next hvoid =>
      cases h
      have hvoid : target.isVoid = false := by simpa using hvoid
      rw [direct, taken_singleton hne]
      exact repeatsAll_singleton (repeats_betweenPrimitives hsource htarget hvoid hne hnull) hvoid

theorem lastTy_of_betweenPrimitives? {source target : Ty} {cast : Bool} {route : Route}
    (h : betweenPrimitives? source target cast = some route) : lastTy source route.legs = target := by
  unfold betweenPrimitives? at h
  split at h
  next hsame =>
    cases h
    exact hsame
  next =>
    split at h
    next => cases h
    next =>
      cases h
      rfl

/-- A route to a primitive type, whose value is then boxed. -/
theorem repeatsAll_thenBoxed {source target : Ty} {cast : Bool} {route : Route} (middle : Ty) (hsource : source.primitive)
    (hmiddle : middle.primitive) (htarget : target.primitive = false) (hkind : target.kind = middle.kind)
    (hnull : middle.kind ≠ .null) (hvoid : target.isVoid = false)
    (h : (betweenPrimitives? source middle true).map (·.andThen target cast) = some route) :
    RepeatsAll source (taken source route.legs) := by
  obtain ⟨first, hfirst, rfl⟩ := Option.map_eq_some_iff.1 h
  refine repeatsAll_andThen (repeatsAll_of_betweenPrimitives? hsource hmiddle (fun _ => rfl) hfirst) hvoid ?_
  rw [lastTy_of_betweenPrimitives? hfirst]
  exact fun _ => repeats_boxing hmiddle htarget hkind (fun h => absurd h hnull)

theorem repeatsAll_of_boxing? {source target : Ty} {cast : Bool} {route : Route} (hsource : source.primitive)
    (htarget : target.primitive = false) (hvoidSource : source.isVoid = false) (hvoid : target.isVoid = false)
    (hnull : source.kind = .null → cast) (h : boxing? source target cast = some route) :
    RepeatsAll source (taken source route.legs) := by
  have hne : source ≠ target := by
    rintro rfl
    rw [hsource] at htarget
    cases htarget
  unfold boxing? at h
  split at h
  next =>
    cases h
    split
    next hkind =>
      rw [direct, taken_singleton hne]
      exact repeatsAll_singleton (repeats_boxing hsource htarget hkind hnull) hvoid
    next =>
      have hboxed : source.toBoxed = ⟨source.kind, false, true⟩ := by simp [Ty.toBoxed, hsource]
      have hleg : Repeats source ⟨source.toBoxed, cast⟩ := by
        rw [hboxed]
        exact repeats_boxing hsource rfl rfl hnull
      have hne : source ≠ source.toBoxed := by
        intro hsame
        rw [hsame, hboxed] at hsource
        cases hsource
      rw [direct, taken_singleton hne]
      exact repeatsAll_singleton hleg (by rw [hboxed]; exact hvoidSource)
  next hnot =>
    split at h
    next hnumber =>
      have hpeer : target.hasPrimitivePeer := by
        simp only [Bool.and_eq_true] at hnumber
        exact hnumber.1.2
      rw [Ty.toPrimitive_of_peer hpeer htarget] at h
      exact repeatsAll_thenBoxed ⟨target.kind, true, true⟩ hsource rfl htarget rfl (Ty.kind_ne_null_of_peer hpeer) hvoid h
    next =>
      split at h
      next hchar =>
        have hkind : target.kind = .char := by
          simp only [Bool.and_eq_true, decide_eq_true_eq] at hchar
          exact hchar.2
        exact repeatsAll_thenBoxed _ hsource rfl htarget hkind (by simp [Ty.char, Ty.ofPrimitive]) hvoid h
      next => exact repeatsAll_of_orString hvoidSource hne (fun _ => hsource) hnot h

/-- The legs of a route between two object types. -/
theorem casting?_cases {source target : Ty} {cast : Bool} {route : Route}
    (h : casting? source target cast = some route) :
    route.legs = [⟨target, cast⟩] ∨ route.legs = [] ∨
      orString target cast = some route ∧
        (source.accepts target ∧ cast = false ∨ ¬source.accepts target ∧ ¬target.accepts source) := by
  cases casts_of_casting? h with
  | down | upToNonNull | elements => exact .inl rfl
  | up => exact .inr (.inl rfl)
  | downToString hdown hcast hstring => exact .inr (.inr ⟨hstring, .inl ⟨hdown, hcast⟩⟩)
  | string hdown hup _ hstring => exact .inr (.inr ⟨hstring, .inr ⟨hdown, hup⟩⟩)

/-- The legs between two object types repeat themselves, if it is this route that is taken from the one
    to the other, or the value passes the string class. -/
theorem repeatsAll_of_casting? {source target : Ty} {cast : Bool} {route : Route} (hsource : source.primitive = false)
    (hne : source ≠ target) (hvoidSource : source.isVoid = false) (hvoid : target.isVoid = false)
    (hnull : source.kind = .null → cast) (hbetween : between? source target cast = some route)
    (h : casting? source target cast = some route) :
    RepeatsAll source (taken source route.legs) ∨ PassesString source target cast route.legs := by
  obtain hlegs | hlegs | ⟨hstring, hway⟩ := casting?_cases h
  · exact .inl (repeatsAll_direct hne hvoid hbetween hlegs)
  · rw [hlegs]
    exact .inl trivial
  obtain ⟨haccepts, hcast⟩ | ⟨hnot, hnot'⟩ := hway
  · have hkind : source.kind ≠ .null := by
      intro hkind
      rw [hnull hkind] at hcast
      cases hcast
    unfold orString at hstring
    split at hstring
    next hstrings =>
      cases hstring
      obtain hform | hform := Ty.eq_form_of_acceptsString hstrings
      · rw [hform] at hne ⊢
        rw [taken_viaString_stringForm hne]
        exact .inl (repeatsAll_singleton (repeats_toString hne (fun h => absurd h hkind)) rfl)
      · have hobject : source.kind = .object :=
          (Ty.kind_of_accepts_object (by rw [hform, Ty.objectForm_kind]) haccepts).resolve_right hkind
        have hsame : source = .objectForm source.nonNull := Ty.eq_objectForm hobject hsource
        have hother : source.nonNull = !target.isNonNull := by
          rw [Bool.eq_not]
          intro hform'
          rw [hform'] at hsame
          exact hne (hsame.trans hform.symm)
        refine .inr ⟨target.isNonNull, hother ▸ hsame, hform, hcast, ?_⟩
        rw [hcast, hform]
        cases target.isNonNull <;> rfl
    next => cases hstring
  · have hkind : source.kind ≠ .null := fun hkind =>
      hnot (Ty.accepts_of_widest_eq_object (Kind.widest_eq_object_iff.2 (.inr hkind)) hvoid)
    exact .inl (repeatsAll_of_orString hvoidSource hne (fun h => absurd h hkind) hnot' hstring)

theorem lastTy_of_casting? {source target : Ty} {cast : Bool} {route : Route}
    (h : casting? source target cast = some route) : route.legs = [] ∨ lastTy source route.legs = target := by
  obtain hlegs | hlegs | ⟨hstring, -⟩ := casting?_cases h
  · rw [hlegs]
    exact .inr rfl
  · exact .inl hlegs
  · unfold orString at hstring
    split at hstring
    next =>
      cases hstring
      exact .inr rfl
    next => cases hstring

/-- Two object types of which not both are numeric are converted by casting. -/
theorem betweenObjects?_eq_casting? {source target : Ty} (hnumber : (source.isNumber && target.isNumber) = false)
    (cast : Bool) : betweenObjects? source target cast = casting? source target cast := by
  simp [betweenObjects?, hnumber]

/-- A value is cast to the boxed form of a primitive type and then unboxed. -/
theorem repeatsAll_thenUnboxed {source target : Ty} {route : Route} (hsource : source.primitive = false)
    (htarget : target.primitive) (hne : source ≠ target.toBoxed) (hvoidSource : source.isVoid = false)
    (hvoid : target.isVoid = false) (hnumber : (source.isNumber && target.isNumber) = false)
    (hbetween : between? source target true = some (route.andThen target true))
    (h : casting? source target.toBoxed true = some route) :
    RepeatsAll source (taken source (route.andThen target true).legs) := by
  have hboxed : target.toBoxed = ⟨target.kind, false, true⟩ := by simp [Ty.toBoxed, htarget]
  obtain hlegs | hlast := lastTy_of_casting? h
  · have hne' : source ≠ target := by
      rintro rfl
      rw [htarget] at hsource
      cases hsource
    exact repeatsAll_direct hne' hvoid hbetween (by rw [andThen, hlegs, List.nil_append])
  have hvoidBoxed : target.toBoxed.isVoid = false := by
    rw [hboxed]
    exact hvoid
  have hnumberBoxed : (source.isNumber && target.toBoxed.isNumber) = false := by
    rw [hboxed]
    exact hnumber
  have hbetweenBoxed : between? source target.toBoxed true = some route := by
    have hprimitive : target.toBoxed.primitive = false := by rw [hboxed]
    simp [between?, hne, hsource, hprimitive, betweenObjects?_eq_casting? hnumberBoxed, h]
  refine repeatsAll_andThen ?_ hvoid (fun _ => ?_)
  · obtain hall | ⟨_, -, -, hcast, -⟩ :=
      repeatsAll_of_casting? hsource hne hvoidSource hvoidBoxed (fun _ => rfl) hbetweenBoxed h
    · exact hall
    · cases hcast
  · rw [hlast]
    exact repeats_unboxing_toBoxed htarget

theorem repeatsAll_of_unboxing? {source target : Ty} {cast : Bool} {route : Route} (hsource : source.primitive = false)
    (htarget : target.primitive) (hvoidSource : source.isVoid = false) (hvoid : target.isVoid = false)
    (hbetween : between? source target cast = some route) (h : unboxing? source target cast = some route) :
    RepeatsAll source (taken source route.legs) := by
  have hne : source ≠ target := by
    rintro rfl
    rw [htarget] at hsource
    cases hsource
  cases unboxes_of_unboxing? h with
  | own | number | boxed => exact repeatsAll_direct hne hvoid hbetween rfl
  | throughOwn hpeer =>
    have hprimitive := Ty.toPrimitive_of_peer hpeer hsource
    have hnull : source.toPrimitive.kind ≠ .null := by
      rw [hprimitive]
      exact Ty.kind_ne_null_of_peer hpeer
    have hne' : source ≠ source.toPrimitive := by
      intro hsame
      rw [hsame, hprimitive] at hsource
      cases hsource
    refine repeatsAll_andThen ?_ hvoid (fun hother => ?_)
    · rw [direct, taken_singleton hne']
      exact repeatsAll_singleton (repeats_unboxing hsource hpeer) (by rw [hprimitive]; exact hvoidSource)
    · have hleg : Repeats source.toPrimitive ⟨target, cast⟩ :=
        repeats_betweenPrimitives (by rw [hprimitive]) htarget hvoid hother (fun h => absurd h hnull)
      exact hleg
  | casting _ hnumbers hcast hboxed hroute =>
    subst hcast
    exact repeatsAll_thenUnboxed hsource htarget hboxed hvoidSource hvoid hnumbers hbetween hroute

theorem lastTy_of_unboxing? {source target : Ty} {cast : Bool} {route : Route}
    (h : unboxing? source target cast = some route) : lastTy source route.legs = target := by
  cases unboxes_of_unboxing? h with
  | own | number | boxed => rfl
  | throughOwn => exact lastTy_append source _ target cast
  | casting => exact lastTy_append source _ target cast

theorem repeatsAll_of_betweenObjects? {source target : Ty} {cast : Bool} {route : Route}
    (hsource : source.primitive = false) (htarget : target.primitive = false) (hne : source ≠ target)
    (hvoidSource : source.isVoid = false) (hvoid : target.isVoid = false) (hnull : source.kind = .null → cast)
    (hbetween : between? source target cast = some route) (h : betweenObjects? source target cast = some route) :
    RepeatsAll source (taken source route.legs) ∨ PassesString source target cast route.legs := by
  unfold betweenObjects? at h
  split at h
  next => exact repeatsAll_of_casting? hsource hne hvoidSource hvoid hnull hbetween h
  next =>
    split at h
    next hnumber =>
      simp only [Bool.and_eq_true] at hnumber
      obtain ⟨⟨hnumberSource, hnumberTarget⟩, hpeer⟩ := hnumber
      split at h
      next =>
        obtain ⟨first, hfirst, rfl⟩ := Option.map_eq_some_iff.1 h
        rw [Ty.toPrimitive_of_peer hpeer htarget] at hfirst
        have hne' : source ≠ ⟨target.kind, true, true⟩ := by
          intro hsame
          rw [hsame] at hsource
          cases hsource
        have hbetween' : between? source ⟨target.kind, true, true⟩ true = some first := by
          simp [between?, hne', hsource, hfirst]
        have hvoid' : (⟨target.kind, true, true⟩ : Ty).isVoid = false := hvoid
        have hunboxed := repeatsAll_of_unboxing? hsource rfl hvoidSource hvoid' hbetween' hfirst
        refine .inl (repeatsAll_andThen hunboxed hvoid ?_)
        rw [lastTy_of_unboxing? hfirst]
        exact fun _ => repeats_boxing rfl htarget rfl (fun h => absurd h (Ty.kind_ne_null_of_peer hpeer))
      next =>
        cases h
        exact .inl (repeatsAll_direct hne hvoid hbetween rfl)
    next => exact repeatsAll_of_casting? hsource hne hvoidSource hvoid hnull hbetween h

/-- Every leg of a legal route repeats itself, unless an object of one form is to have the other without
    being cast. -/
theorem repeatsAll_of_between? {source target : Ty} {preferCast : Bool} {route : Route}
    (hvoidSource : source.isVoid = false) (hvoid : target.isVoid = false)
    (h : between? source target preferCast = some route) :
    RepeatsAll source (taken source route.legs) ∨ PassesString source target preferCast route.legs := by
  by_cases hne : source = target
  · rw [between?, if_pos hne] at h
    cases h
    exact .inl trivial
  have hnull : source.kind = .null → (preferCast || decide (source.kind = .null)) := by
    intro hkind
    simp [hkind]
  have hbetween := (between?_preferCast source target preferCast).trans h
  rw [between?, if_neg hne] at h
  simp only at h
  split at h
  next hsource htarget => exact .inl (repeatsAll_of_betweenPrimitives? hsource htarget hnull h)
  next hsource htarget => exact .inl (repeatsAll_of_boxing? hsource htarget hvoidSource hvoid hnull h)
  next hsource htarget => exact .inl (repeatsAll_of_unboxing? hsource htarget hvoidSource hvoid hbetween h)
  next hsource htarget =>
    obtain hall | ⟨nonNull, hsource, htarget, hcast, hlegs⟩ :=
      repeatsAll_of_betweenObjects? hsource htarget hne hvoidSource hvoid hnull hbetween h
    · exact .inl hall
    · exact .inr ⟨nonNull, hsource, htarget, by simp at hcast; exact hcast.1, hlegs⟩

end Route

end TemplateTree
