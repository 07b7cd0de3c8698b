import TemplateTree.Proofs.Chain.Recursion
import TemplateTree.Proofs.Chain.Replay

namespace TemplateTree

namespace Route

@[simp]
theorem length_legs_andThen (route : Route) (target : Ty) (cast : Bool) :
    (route.andThen target cast).legs.length = route.legs.length + 1 := by
  simp [andThen]

theorem length_legs_of_orString {target : Ty} {cast : Bool} {route : Route} (h : orString target cast = some route) :
    route.legs.length = 2 := by
  unfold orString at h
  split at h
  next =>
    cases h
    rfl
  next => cases h

theorem length_legs_of_betweenPrimitives? {source target : Ty} {cast : Bool} {route : Route}
    (h : betweenPrimitives? source target cast = some route) : route.legs.length ≤ 1 := by
  unfold betweenPrimitives? at h
  split at h
  next =>
    cases h
    exact Nat.zero_le 1
  next =>
    split at h
    next => cases h
    next =>
      cases h
      exact Nat.le_refl 1

theorem length_legs_of_boxing? {source target : Ty} {cast : Bool} {route : Route}
    (h : boxing? source target cast = some route) : route.legs.length ≤ 2 := by
  have hthrough {middle : Ty} (h : (betweenPrimitives? source middle true).map (·.andThen target cast) = some route) :
      route.legs.length ≤ 2 := by
    obtain ⟨first, hfirst, rfl⟩ := Option.map_eq_some_iff.1 h
    rw [length_legs_andThen]
    exact Nat.succ_le_succ (length_legs_of_betweenPrimitives? hfirst)
  unfold boxing? at h
  split at h
  next =>
    cases h
    exact Nat.le_succ 1
  next =>
    split at h
    next => exact hthrough h
    next =>
      split at h
      next => exact hthrough h
      next => exact Nat.le_of_eq (length_legs_of_orString h)

theorem length_legs_of_casting? {source target : Ty} {cast : Bool} {route : Route}
    (h : casting? source target cast = some route) : route.legs.length ≤ 2 := by
  obtain hlegs | hlegs | ⟨hstring, -⟩ := casting?_cases h
  · simp [hlegs]
  · simp [hlegs]
  · exact Nat.le_of_eq (length_legs_of_orString hstring)

/-- Only a value that is cast to the boxed form of the target can need three legs, and a number that is to be
    another one is not cast. -/
theorem length_legs_of_unboxing? {source target : Ty} {cast : Bool} {route : Route}
    (h : unboxing? source target cast = some route) :
    route.legs.length ≤ 3 ∧ (source.isNumber && target.isNumber → route.legs.length ≤ 2) := by
  cases unboxes_of_unboxing? h with
  | own | throughOwn | number | boxed => simp [direct, unboxing]
  | casting _ hnumbers _ _ hroute =>
    have hlength := length_legs_of_casting? hroute
    rw [length_legs_andThen, hnumbers]
    exact ⟨Nat.succ_le_succ hlength, fun h => absurd h Bool.false_ne_true⟩

theorem length_legs_of_betweenObjects? {source target : Ty} {cast : Bool} {route : Route}
    (h : betweenObjects? source target cast = some route) : route.legs.length ≤ 3 := by
  have hcasting (h : casting? source target cast = some route) : route.legs.length ≤ 3 :=
    Nat.le_succ_of_le (length_legs_of_casting? h)
  unfold betweenObjects? at h
  split at h
  next => exact hcasting h
  next =>
    split at h
    next hnumbers =>
      split at h
      next =>
        obtain ⟨first, hfirst, rfl⟩ := Option.map_eq_some_iff.1 h
        have hprimitive : target.toPrimitive.isNumber = target.isNumber := by
          unfold Ty.toPrimitive
          split <;> rfl
        have hlength : first.legs.length ≤ 2 := by
          refine (length_legs_of_unboxing? hfirst).2 ?_
          rw [hprimitive]
          simp only [Bool.and_eq_true] at hnumbers ⊢
          exact hnumbers.1
        rw [length_legs_andThen]
        exact Nat.succ_le_succ hlength
      next =>
        cases h
        exact Nat.le_add_left 1 2
    next => exact hcasting h

/-- A route has at most three legs, whatever the two types are. -/
theorem length_legs_of_between? {source target : Ty} {preferCast : Bool} {route : Route}
    (h : between? source target preferCast = some route) : route.legs.length ≤ 3 := by
  unfold between? at h
  split at h
  next =>
    cases h
    exact Nat.zero_le 3
  next =>
    simp only at h
    split at h
    next => exact (length_legs_of_betweenPrimitives? h).trans (by decide)
    next => exact (length_legs_of_boxing? h).trans (by decide)
    next => exact (length_legs_of_unboxing? h).1
    next => exact length_legs_of_betweenObjects? h

theorem length_taken_le (source : Ty) (legs : List Leg) : (taken source legs).length ≤ legs.length := by
  induction legs generalizing source with
  | nil => exact Nat.le_refl 0
  | cons leg rest ih =>
    rw [taken]
    split
    next => exact Nat.le_succ_of_le (ih source)
    next => exact Nat.succ_le_succ (ih leg.target)

end Route

namespace Chain

theorem length_recorded (source : Ty) (legs : List Leg) : (recorded source legs).length = legs.length := by
  induction legs generalizing source with
  | nil => rfl
  | cons leg rest ih => rw [recorded, List.length_cons, List.length_cons, ih]

theorem push_of_ty?_eq_none {chain : Chain} (h : chain.ty? = none) (target : Ty) (cast : Bool) :
    chain.push target cast = ⟨chain.steps ++ [⟨none, target, cast⟩]⟩ := by
  rw [push, if_neg (by simp [h]), h]

/-- A legal conversion leaves the steps of a chain as they are and adds at most three. -/
theorem converted?_adds {chain : Chain} {target : Ty} {preferCast : Bool} {converted : Converted}
    (h : chain.converted? target preferCast = some converted) :
    ∃ added, converted.chain.steps = chain.steps ++ added ∧ added.length ≤ 3 := by
  cases hty : chain.ty? with
  | none =>
    simp only [converted?, hty, Option.some.injEq] at h
    subst h
    rw [push_of_ty?_eq_none hty]
    exact ⟨_, rfl, Nat.le_add_left 1 2⟩
  | some source =>
    obtain ⟨route, hroute, hsteps⟩ := converted?_steps hty h
    refine ⟨_, hsteps, ?_⟩
    rw [length_recorded]
    exact (Route.length_taken_le source route.legs).trans (Route.length_legs_of_between? hroute)

/-- The conversions are linked, and each of them leads to another type than the one before it. -/
structure IsWellLinked (steps : List Conversion) : Prop where
  linked : IsLinked steps
  moves : steps.IsChain fun before after => before.target ≠ after.target

theorem IsWellLinked.singleton (target : Ty) (cast : Bool) : IsWellLinked [⟨none, target, cast⟩] :=
  ⟨⟨by simp, .singleton _⟩, .singleton _⟩

/-- A leg is pushed with the type that the chain ends in as its source, and not at all if it leads back there. -/
theorem IsWellLinked.push {chain : Chain} (h : IsWellLinked chain.steps) (target : Ty) (cast : Bool) :
    IsWellLinked (chain.push target cast).steps := by
  cases hty : chain.ty? with
  | none =>
    have hnil : chain.steps = [] := by simpa [ty?] using hty
    rw [push_of_ty?_eq_none hty, hnil]
    exact .singleton target cast
  | some source =>
    by_cases hsame : source = target
    · rw [Chain.push, if_pos (by rw [hty, hsame])]
      exact h
    · have hpush : (chain.push target cast).steps = chain.steps ++ recorded source [⟨target, cast⟩] := by
        rw [Chain.push, if_neg (by rw [hty]; exact fun h => hsame (Option.some.inj h)), hty]
        rfl
      obtain ⟨last, hlast, htarget⟩ := Option.map_eq_some_iff.1 hty
      rw [hpush]
      refine ⟨h.linked.append_recorded hty _, List.isChain_append.2 ⟨h.moves, .singleton _, ?_⟩⟩
      intro before hbefore after hafter
      rw [hlast, Option.mem_some_iff] at hbefore
      simp only [recorded, List.head?_cons, Option.mem_some_iff] at hafter
      rw [← hbefore, ← hafter, htarget]
      exact hsame

theorem IsWellLinked.along {chain : Chain} (h : IsWellLinked chain.steps) (legs : List Leg) :
    IsWellLinked (chain.along legs).steps := by
  induction legs generalizing chain with
  | nil => exact h
  | cons leg rest ih => exact ih (h.push leg.target leg.castPreferred)

theorem IsWellLinked.converted {chain : Chain} {target : Ty} {preferCast : Bool} {converted : Converted}
    (h : IsWellLinked chain.steps) (hconverted : chain.converted? target preferCast = some converted) :
    IsWellLinked converted.chain.steps := by
  unfold converted? at hconverted
  split at hconverted
  next =>
    cases hconverted
    exact h.push target preferCast
  next =>
    obtain ⟨route, -, rfl⟩ := Option.map_eq_some_iff.1 hconverted
    exact h.along route.legs

theorem IsWellLinked.reduced {chain : Chain} (h : IsWellLinked chain.steps) : IsWellLinked chain.reduced.steps :=
  ⟨chain.shortensTo_reduced.isLinked h.linked, (List.isChain_map Conversion.target).1 chain.nodup_reduced.isChain⟩

/-- The chains that can be built: from no type or a natural type, by legal conversions and reductions. -/
inductive Built : Chain → Prop
  | empty : Built .empty
  | ofTy (ty : Ty) : Built (.ofTy ty)
  | converted {chain : Chain} {target : Ty} {preferCast : Bool} {converted : Converted} (h : Built chain)
    (hconverted : chain.converted? target preferCast = some converted) : Built converted.chain
  | reduced {chain : Chain} (h : Built chain) : Built chain.reduced

theorem Built.isWellLinked {chain : Chain} (h : chain.Built) : IsWellLinked chain.steps := by
  induction h with
  | empty => exact ⟨⟨by simp [Chain.empty], .nil⟩, .nil⟩
  | ofTy ty => exact .singleton ty true
  | converted _ hconverted ih => exact ih.converted hconverted
  | reduced _ ih => exact ih.reduced

/-- Every chain that can be built is well linked: its first conversion starts from no type, every other one from
    the target of the one before it, and neighbouring targets differ. And every legal conversion, of any chain to
    any type, keeps the steps of the chain as they are and adds at most three. Conversion comes to an end also where
    it refers to itself: three times into itself the rule has given the route, and nothing below that is used. -/
theorem isChain_steps_of_built :
    (∀ chain : Chain, chain.Built →
        (∀ step ∈ chain.steps.head?, step.source = none) ∧
          (chain.steps.IsChain fun before after => after.source = some before.target) ∧
          chain.steps.IsChain fun before after => before.target ≠ after.target) ∧
      (∀ (chain : Chain) (target : Ty) (preferCast : Bool) (converted : Converted),
        chain.converted? target preferCast = some converted →
          ∃ added, converted.chain.steps = chain.steps ++ added ∧ added.length ≤ 3) ∧
      ∀ (castTo? : Ty → Option Route) (source : Ty) (depth : Nat) (target : Ty) (preferCast : Bool),
        Route.unfolded castTo? source (depth + 3) target preferCast = Route.between? source target preferCast := by
  refine ⟨fun chain hbuilt => ?_, fun chain target preferCast converted => converted?_adds, Route.unfolded_eq⟩
  have hlinked := hbuilt.isWellLinked
  exact ⟨hlinked.linked.start, hlinked.linked.follow, hlinked.moves⟩

/-- A non-null `Integer` becomes a non-null `Long` in three legs. What comes after its `int` is forgotten when it is
    made an `int` again and reduced. -/
theorem integerWay_isChain_steps :
    let boxed : Chain := ⟨[⟨none, Ty.int.toBoxed, true⟩, ⟨some Ty.int.toBoxed, .int, true⟩, ⟨some .int, .long, true⟩,
      ⟨some .long, Ty.long.toBoxed, false⟩]⟩
    let back : Chain := ⟨boxed.steps ++ [⟨some Ty.long.toBoxed, .long, true⟩, ⟨some .long, .int, false⟩]⟩
    (ofTy Ty.int.toBoxed).converted? Ty.long.toBoxed false = some ⟨boxed, false⟩ ∧
      (∃ added, boxed.steps = (ofTy Ty.int.toBoxed).steps ++ added ∧ added.length ≤ 3) ∧
      boxed.converted? .int false = some ⟨back, false⟩ ∧ back.reduced.Built ∧
      back.reduced.steps.IsChain fun before after => before.target ≠ after.target := by
  intro boxed back
  have hboxed : (ofTy Ty.int.toBoxed).converted? Ty.long.toBoxed false = some ⟨boxed, false⟩ := by decide
  have hback : boxed.converted? .int false = some ⟨back, false⟩ := by decide
  have hbuilt : back.reduced.Built := .reduced (.converted (.converted (.ofTy _) hboxed) hback)
  exact ⟨hboxed, isChain_steps_of_built.2.1 _ _ _ _ hboxed, hback, hbuilt, (isChain_steps_of_built.1 _ hbuilt).2.2⟩

end Chain

end TemplateTree
