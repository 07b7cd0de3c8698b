import TemplateTree.Proofs.Chain.Replay
import TemplateTree.Proofs.Chain.Unboxing

namespace TemplateTree

namespace Route

theorem isSome_orString (target : Ty) (cast : Bool) : (orString target cast).isSome = target.acceptsString := by
  unfold orString
  split <;> simp_all

theorem isSome_betweenPrimitives?_eq (source target : Ty) (cast cast' : Bool) :
    (betweenPrimitives? source target cast).isSome = (betweenPrimitives? source target cast').isSome := by
  simp only [betweenPrimitives?, apply_ite Option.isSome, Option.isSome_some]

theorem isSome_boxing?_eq (source target : Ty) (cast cast' : Bool) :
    (boxing? source target cast).isSome = (boxing? source target cast').isSome := by
  simp only [boxing?, apply_ite Option.isSome, Option.isSome_some, Option.isSome_map, isSome_orString]

/-- A way down the class hierarchy is legal either way: without a preference for a cast it is the last resort. -/
theorem isSome_casting?_eq (source target : Ty) (cast cast' : Bool) :
    (casting? source target cast).isSome = (casting? source target cast').isSome := by
  simp only [casting?, apply_ite Option.isSome, Option.isSome_some, Option.isSome_or, isSome_orString, Bool.or_true,
    ite_self]

theorem isSome_betweenObjects?_eq (source target : Ty) (cast cast' : Bool) :
    (betweenObjects? source target cast).isSome = (betweenObjects? source target cast').isSome := by
  simp only [betweenObjects?, apply_ite Option.isSome, Option.isSome_some, Option.isSome_map]
  rw [isSome_casting?_eq source target cast cast']

/-- Only a cast can lead from `source` to `target`: an object that has no primitive form of its own, is no number that
    becomes another and is not null is to be primitive. -/
def needsCast (source target : Ty) : Bool :=
  !source.primitive && target.primitive && !source.hasPrimitivePeer && !(source.isNumber && target.isNumber) &&
    source.kind ≠ .null

theorem isSome_unboxing?_false (source target : Ty) :
    (unboxing? source target false).isSome =
      ((unboxing? source target true).isSome && (source.hasPrimitivePeer || source.isNumber && target.isNumber)) := by
  unfold unboxing?
  by_cases hpeer : source.hasPrimitivePeer
  · simp [hpeer, apply_ite Option.isSome]
  · by_cases hnumbers : source.isNumber && target.isNumber
    · simp [hpeer, hnumbers]
    · simp [hpeer, hnumbers]

/-- What is legal without a preference for a cast is what is legal with one and does not need it. -/
theorem isSome_between?_false (source target : Ty) :
    (between? source target false).isSome = ((between? source target true).isSome && !needsCast source target) := by
  by_cases hsame : source = target
  · subst hsame
    simp [between?, needsCast]
  by_cases hnull : source.kind = .null
  · have hneeds : needsCast source target = false := by simp [needsCast, hnull]
    simp [between?, hsame, hnull, hneeds]
  simp only [between?, if_neg hsame, hnull, decide_false, Bool.or_false]
  cases hsource : source.primitive with
  | true =>
    cases target.primitive with
    | true => simp [needsCast, hsource, isSome_betweenPrimitives?_eq source target false true]
    | false => simp [needsCast, hsource, isSome_boxing?_eq source target false true]
  | false =>
    cases htarget : target.primitive with
    | true =>
      have hneeds : (!needsCast source target) = (source.hasPrimitivePeer || source.isNumber && target.isNumber) := by
        simp [needsCast, hsource, htarget, hnull]
      simp only [hneeds, isSome_unboxing?_false]
    | false => simp [needsCast, htarget, isSome_betweenObjects?_eq source target false true]

end Route

namespace Chain

/-- Preferring a cast only ever makes more conversions legal, for every chain and every target. The ones that it makes
    legal are those from an object to a primitive type that is reached only by a cast. -/
theorem isSome_converted?_preferCast_iff (chain : Chain) (target : Ty) :
    ((chain.converted? target false).isSome → (chain.converted? target true).isSome) ∧
      ((chain.converted? target true).isSome →
        ((chain.converted? target false).isSome ↔
          ∀ source, chain.ty? = some source → Route.needsCast source target = false)) := by
  cases hty : chain.ty? with
  | none => simp [converted?, hty]
  | some source =>
    have hfalse := Route.isSome_between?_false source target
    simp only [converted?, hty, Option.isSome_map, hfalse]
    cases (Route.between? source target true).isSome <;> simp

/-- An object becomes an `int` only by a cast, while a `Number` needs none. -/
theorem object_isSome_converted?_preferCast :
    (ofTy .object).converted? .int false = none ∧ ((ofTy .object).converted? .int true).isSome ∧
      ((ofTy .number).converted? .int false).isSome ∧ ((ofTy .number).converted? .int true).isSome := by
  have hnumber : ((ofTy .number).converted? .int false).isSome := by decide
  exact ⟨by decide, by decide, hnumber, (isSome_converted?_preferCast_iff (ofTy .number) .int).1 hnumber⟩

end Chain

namespace Ty

/-- Void takes no value of another class, and no other class takes void. -/
theorem accepts_of_isVoid {source target : Ty} (hsource : source.isVoid = false) (htarget : target.isVoid) :
    source.accepts target = false ∧ target.accepts source = false := by
  obtain ⟨kind, _, _⟩ := source
  simp only [isVoid, decide_eq_true_eq] at htarget
  simp only [accepts, htarget]
  cases kind <;> simp_all [isVoid, Kind.accepts, Kind.widest, Kind.isNumber]

theorem isNumber_of_isVoid {ty : Ty} (h : ty.isVoid) : ty.isNumber = false := by
  simp only [isVoid, decide_eq_true_eq] at h
  simp [isNumber, h, Kind.isNumber]

theorem hasPrimitiveForm_of_isVoid {ty : Ty} (h : ty.isVoid) : ty.kind.hasPrimitiveForm := by
  simp only [isVoid, decide_eq_true_eq] at h
  simp [h, Kind.hasPrimitiveForm]

theorem hasPrimitivePeer_of_isVoid {ty : Ty} (h : ty.isVoid) : ty.hasPrimitivePeer = false := by
  simp [hasPrimitivePeer, h]

theorem isVoid_toBoxed (ty : Ty) : ty.toBoxed.isVoid = ty.isVoid := by
  unfold toBoxed
  split <;> rfl

end Ty

namespace Route

/-- A value that can be unboxed is asked to be void in its primitive form. -/
def unboxesToVoid (source target : Ty) : Bool :=
  !source.primitive && source.hasPrimitivePeer && target.primitive && target.isVoid

variable {source target : Ty} {cast : Bool}

theorem casting?_of_isVoid (hsource : source.isVoid = false) (htarget : target.isVoid) :
    casting? source target cast = none := by
  by_contra hlegal
  obtain ⟨route, hroute⟩ := Option.ne_none_iff_exists'.1 hlegal
  obtain haccepts | haccepts := accepts_of_casting? (Ty.hasPrimitiveForm_of_isVoid htarget) hroute
  · rw [(Ty.accepts_of_isVoid hsource htarget).1] at haccepts
    cases haccepts
  · rw [(Ty.accepts_of_isVoid hsource htarget).2] at haccepts
    cases haccepts

theorem betweenPrimitives?_of_isVoid (hne : source ≠ target) (htarget : target.isVoid) :
    betweenPrimitives? source target cast = none := by
  rw [betweenPrimitives?, if_neg hne, if_pos htarget]

theorem boxing?_of_isVoid (hsource : source.isVoid = false) (htarget : target.isVoid) :
    boxing? source target cast = none := by
  have hchar : target.kind ≠ .char := by
    simp only [Ty.isVoid, decide_eq_true_eq] at htarget
    simp [htarget]
  have hstring := Ty.acceptsString_of_form (Ty.hasPrimitiveForm_of_isVoid htarget)
  have haccepts := (Ty.accepts_of_isVoid hsource htarget).2
  simp [boxing?, orString, haccepts, Ty.hasPrimitivePeer_of_isVoid htarget, hchar, hstring]

theorem betweenObjects?_of_isVoid (hsource : source.isVoid = false) (htarget : target.isVoid) :
    betweenObjects? source target cast = none := by
  rw [betweenObjects?_eq_casting? (by rw [Ty.isNumber_of_isVoid htarget, Bool.and_false]),
    casting?_of_isVoid hsource htarget]

/-- Unboxing looks only at the source: it goes on to void like to any other primitive type. -/
theorem unboxing?_of_isVoid (hsource : source.isVoid = false) (htarget : target.isVoid) :
    unboxing? source target cast =
      if source.hasPrimitivePeer then some (((direct source.toPrimitive true).andThen target cast).unboxing source)
      else none := by
  have hkind : source.kind ≠ target.kind := by
    simp only [Ty.isVoid, decide_eq_true_eq, decide_eq_false_iff_not] at htarget hsource
    rwa [htarget]
  have hboxed : source ≠ target.toBoxed := by
    rintro rfl
    rw [Ty.isVoid_toBoxed, htarget] at hsource
    cases hsource
  have hcasting : casting? source target.toBoxed true = none :=
    casting?_of_isVoid hsource (by rwa [Ty.isVoid_toBoxed])
  simp [unboxing?, hkind, Ty.isNumber_of_isVoid htarget, hboxed, hcasting]

/-- From another type to void there is one route: a boxed value is unboxed on it. -/
theorem between?_of_isVoid {preferCast : Bool} (hsource : source.isVoid = false) (htarget : target.isVoid) :
    between? source target preferCast =
      if unboxesToVoid source target then
        some (((direct source.toPrimitive true).andThen target preferCast).unboxing source)
      else none := by
  have hne : source ≠ target := by
    rintro rfl
    rw [htarget] at hsource
    cases hsource
  simp only [between?, if_neg hne]
  cases hprimitive : source.primitive with
  | true =>
    cases target.primitive with
    | true => simp [unboxesToVoid, hprimitive, betweenPrimitives?_of_isVoid hne htarget]
    | false => simp [unboxesToVoid, hprimitive, boxing?_of_isVoid hsource htarget]
  | false =>
    cases hprimitive' : target.primitive with
    | true =>
      have hvoid : unboxesToVoid source target = source.hasPrimitivePeer := by
        simp [unboxesToVoid, hprimitive, hprimitive', htarget]
      by_cases hpeer : source.hasPrimitivePeer
      · simp [unboxing?_of_isVoid hsource htarget, hvoid, hpeer, Ty.kind_ne_null_of_peer hpeer]
      · simp [unboxing?_of_isVoid hsource htarget, hvoid, hpeer]
    | false => simp [unboxesToVoid, hprimitive', betweenObjects?_of_isVoid hsource htarget]

end Route

namespace Chain

/-- One of the conversions leads to void. -/
def ReachesVoid (steps : List Conversion) : Prop := ∃ step ∈ steps, step.target.isVoid

theorem reachesVoid_append {front back : List Conversion} :
    ReachesVoid (front ++ back) ↔ ReachesVoid front ∨ ReachesVoid back := by
  simp [ReachesVoid, or_and_right, exists_or]

theorem ReachesVoid.of_isPrefix {steps steps' : List Conversion} (h : ReachesVoid steps) (hkept : steps <+: steps') :
    ReachesVoid steps' := by
  obtain ⟨added, rfl⟩ := hkept
  exact reachesVoid_append.2 (.inl h)

theorem steps_isPrefix_request (chain : Chain) (request : Ty × Bool) :
    chain.steps <+: (chain.request request).steps := by
  change _ <+: ((chain.repeated? ⟨none, request.1, request.2⟩).getD chain).steps
  cases hrequest : chain.repeated? ⟨none, request.1, request.2⟩ with
  | none => exact List.prefix_rfl
  | some chain' => exact steps_isPrefix_of_repeated? hrequest

theorem steps_isPrefix_requestAll (chain : Chain) (requests : List (Ty × Bool)) :
    chain.steps <+: (chain.requestAll requests).steps := by
  induction requests generalizing chain with
  | nil => exact List.prefix_rfl
  | cons request rest ih => exact (chain.steps_isPrefix_request request).trans (ih _)

theorem ofRequests_append (ty : Ty) (before after : List (Ty × Bool)) :
    ofRequests ty (before ++ after) = (ofRequests ty before).requestAll after :=
  List.foldl_append

theorem exists_ty?_ofRequests (ty : Ty) (requests : List (Ty × Bool)) :
    ∃ source, (ofRequests ty requests).ty? = some source := by
  have hne : (ofRequests ty requests).steps ≠ [] :=
    ((ofTy ty).steps_isPrefix_requestAll requests).ne_nil (List.cons_ne_nil _ _)
  rw [ty?, List.getLast?_eq_some_getLast hne]
  exact ⟨_, rfl⟩

/-- A request for void is refused, or it is recorded as a boxed value that is unboxed and made void. -/
theorem request_of_isVoid {chain : Chain} {source target : Ty} {cast : Bool} (hty : chain.ty? = some source)
    (hsource : source.isVoid = false) (htarget : target.isVoid) :
    (chain.request (target, cast)).steps = chain.steps ++
      if Route.unboxesToVoid source target then
        [⟨some source, source.toPrimitive, true⟩, ⟨some source.toPrimitive, target, cast⟩]
      else [] := by
  simp only [request, converted?, hty, Route.between?_of_isVoid hsource htarget]
  split
  next hunboxes =>
    simp only [Route.unboxesToVoid, Bool.and_eq_true, Bool.not_eq_true'] at hunboxes
    obtain ⟨⟨⟨hprimitive, hpeer⟩, -⟩, -⟩ := hunboxes
    have hunboxed := Ty.toPrimitive_of_peer hpeer hprimitive
    have hne : source.toPrimitive ≠ source := by
      intro hsame
      rw [← hsame, hunboxed] at hprimitive
      cases hprimitive
    have hne' : target ≠ source.toPrimitive := by
      rintro rfl
      rw [hunboxed] at htarget
      exact Bool.false_ne_true (hsource.symm.trans htarget)
    have hsteps := along_steps hty [⟨source.toPrimitive, true⟩, ⟨target, cast⟩]
    rw [Route.taken, if_neg hne, Route.taken, if_neg hne'] at hsteps
    exact hsteps
  next => exact (List.append_nil _).symm

/-- Of a chain without void, a request leads to void exactly if a boxed value is asked to be void. -/
theorem request_reachesVoid_iff {chain : Chain} {source : Ty} (hproper : ¬ReachesVoid chain.steps)
    (hty : chain.ty? = some source) (target : Ty) (cast : Bool) :
    ReachesVoid (chain.request (target, cast)).steps ↔ Route.unboxesToVoid source target := by
  have hsource : source.isVoid = false := by
    obtain ⟨last, hlast, rfl⟩ := Option.map_eq_some_iff.1 hty
    exact Bool.eq_false_iff.2 fun hvoid => hproper ⟨last, List.mem_of_getLast? hlast, hvoid⟩
  cases htarget : target.isVoid with
  | true =>
    rw [request_of_isVoid hty hsource htarget, reachesVoid_append, or_iff_right hproper]
    split
    next hunboxes => exact iff_of_true ⟨_, List.mem_cons_of_mem _ List.mem_cons_self, htarget⟩ hunboxes
    next hunboxes => exact iff_of_false (by simp [ReachesVoid]) hunboxes
  | false =>
    obtain ⟨legs, hsteps, hnew⟩ := request_records hty hsource htarget
    rw [hsteps, reachesVoid_append, or_iff_right hproper]
    refine iff_of_false ?_ (by simp [Route.unboxesToVoid, htarget])
    rintro ⟨step, hstep, hvoid⟩
    exact Bool.false_ne_true ((hnew step hstep).2.symm.trans hvoid)

/-- When void becomes a target, for any natural type other than void and any requests: exactly if a value that can be
    unboxed was asked to be void in its primitive form. All other requests for void are refused. -/
theorem reachesVoid_iff (ty : Ty) (requests : List (Ty × Bool)) (hty : ty.isVoid = false) :
    ReachesVoid (ofRequests ty requests).steps ↔
      ∃ before request after source, requests = before ++ request :: after ∧
        (ofRequests ty before).ty? = some source ∧ Route.unboxesToVoid source request.1 := by
  constructor
  · induction requests using List.reverseRecOn with
    | nil =>
      rintro ⟨step, hstep, hvoid⟩
      rw [List.mem_singleton.1 hstep] at hvoid
      exact absurd (hty.symm.trans hvoid) Bool.false_ne_true
    | append_singleton requests request ih =>
      intro hvoid
      by_cases hearlier : ReachesVoid (ofRequests ty requests).steps
      · obtain ⟨before, request', after, source, rfl, hsource, hunboxes⟩ := ih hearlier
        exact ⟨before, request', after ++ [request], source, by simp, hsource, hunboxes⟩
      · obtain ⟨source, hsource⟩ := exists_ty?_ofRequests ty requests
        rw [ofRequests_append] at hvoid
        exact ⟨requests, request, [], source, rfl, hsource,
          (request_reachesVoid_iff hearlier hsource request.1 request.2).1 hvoid⟩
  · rintro ⟨before, request, after, source, rfl, hsource, hunboxes⟩
    rw [ofRequests_append]
    refine .of_isPrefix ?_ (((ofRequests ty before).request request).steps_isPrefix_requestAll after)
    by_cases hearlier : ReachesVoid (ofRequests ty before).steps
    · exact hearlier.of_isPrefix ((ofRequests ty before).steps_isPrefix_request request)
    · exact (request_reachesVoid_iff hearlier hsource request.1 request.2).2 hunboxes

/-- An `int` refuses to be void. Boxed as a `Long` it becomes void. -/
theorem boxedLong_reachesVoid :
    Ty.int.isVoid = false ∧
      ReachesVoid (ofRequests .int [(.void, true), (.ofKind .long, false), (.void, false)]).steps :=
  ⟨rfl, (reachesVoid_iff .int _ rfl).2
    ⟨[(.void, true), (.ofKind .long, false)], (.void, false), [], .ofKind .long, rfl, by decide, by decide⟩⟩

/-- A nullable `Integer` becomes void through its `int`, while an `int` is refused. -/
theorem integer_converted?_void :
    (ofTy (.ofKind .int)).converted? .void false =
        some ⟨⟨[⟨none, .ofKind .int, true⟩, ⟨some (.ofKind .int), .int, true⟩, ⟨some .int, .void, false⟩]⟩, true⟩ ∧
      (ofTy .int).converted? .void false = none ∧ (ofTy .int).converted? .void true = none := by
  decide

end Chain

end TemplateTree
