import TemplateTree.Proofs.Chain.Reduced
import TemplateTree.Proofs.Chain.Repeat

namespace TemplateTree

/-- Asked for again where it starts, the conversion is made again. -/
def Conversion.Repeats (step : Conversion) : Prop :=
  ∀ source, step.source = some source → Route.Repeats source ⟨step.target, step.castPreferred⟩

/-- The conversion takes a string for an object of the same form. -/
def Conversion.WidensString (step : Conversion) : Prop :=
  ∃ nonNull, step = ⟨some (.stringForm nonNull), .objectForm nonNull, false⟩

instance : DecidablePred Conversion.WidensString :=
  fun step => inferInstanceAs (Decidable (∃ nonNull, step = ⟨some (.stringForm nonNull), .objectForm nonNull, false⟩))

/-- No leg is taken where a string is asked to be an object of the same form. -/
theorem Route.between?_stringForm_objectForm (nonNull : Bool) :
    between? (.stringForm nonNull) (.objectForm nonNull) false = some stay := by
  cases nonNull <;> decide

theorem Conversion.WidensString.not_repeats {step : Conversion} (h : step.WidensString) : ¬step.Repeats := by
  obtain ⟨nonNull, rfl⟩ := h
  intro hrepeats
  obtain ⟨route, hroute, htaken⟩ := hrepeats _ rfl
  rw [Route.between?_stringForm_objectForm] at hroute
  cases hroute
  cases htaken

namespace Chain

/-- The conversions that legs from a type record. -/
def recorded (source : Ty) : List Leg → List Conversion
  | [] => []
  | leg :: rest => ⟨some source, leg.target, leg.castPreferred⟩ :: recorded leg.target rest

theorem along_steps {chain : Chain} {source : Ty} (h : chain.ty? = some source) (legs : List Leg) :
    (chain.along legs).steps = chain.steps ++ recorded source (Route.taken source legs) := by
  induction legs generalizing chain source with
  | nil => exact (List.append_nil _).symm
  | cons leg rest ih =>
    have hpush : (chain.push leg.target leg.castPreferred).ty? = some leg.target := push_ty? _ _ _
    change ((chain.push leg.target leg.castPreferred).along rest).steps = _
    rw [ih hpush, Route.taken]
    by_cases hsame : leg.target = source
    · rw [if_pos hsame, push, if_pos (by rw [h, hsame]), hsame]
    · rw [if_neg hsame, push, if_neg (by rw [h]; exact fun h => hsame (Option.some.inj h).symm), h]
      simp [recorded]

/-- What a legal conversion adds to a chain that has a type. -/
theorem converted?_steps {chain : Chain} {source target : Ty} {cast : Bool} {converted : Converted}
    (hty : chain.ty? = some source) (h : chain.converted? target cast = some converted) :
    ∃ route, Route.between? source target cast = some route ∧
      converted.chain.steps = chain.steps ++ recorded source (Route.taken source route.legs) := by
  simp only [converted?, hty] at h
  obtain ⟨route, hroute, rfl⟩ := Option.map_eq_some_iff.1 h
  exact ⟨route, hroute, along_steps hty route.legs⟩

theorem isChain_recorded (source : Ty) (legs : List Leg) :
    (recorded source legs).IsChain fun before after => after.source = some before.target := by
  induction legs generalizing source with
  | nil => exact .nil
  | cons leg rest ih =>
    rw [recorded, List.isChain_cons]
    refine ⟨?_, ih leg.target⟩
    cases rest <;> simp [recorded]

theorem IsLinked.append_recorded {chain : Chain} {source : Ty} (h : IsLinked chain.steps)
    (hty : chain.ty? = some source) (legs : List Leg) : IsLinked (chain.steps ++ recorded source legs) := by
  obtain ⟨last, hlast, htarget⟩ := Option.map_eq_some_iff.1 hty
  refine ⟨?_, List.isChain_append.2 ⟨h.follow, isChain_recorded source legs, ?_⟩⟩
  · have hne : chain.steps ≠ [] := by
      intro hnil
      rw [hnil] at hlast
      cases hlast
    rw [List.head?_append_of_ne_nil _ hne]
    exact h.start
  · intro before hbefore after hafter
    rw [hlast, Option.mem_some_iff] at hbefore
    subst hbefore
    rw [htarget]
    cases legs with
    | nil => cases hafter
    | cons leg rest =>
      simp only [recorded, List.head?_cons, Option.mem_some_iff] at hafter
      rw [← hafter]

theorem repeats_of_mem_recorded {source : Ty} {legs : List Leg} (h : Route.RepeatsAll source legs) :
    ∀ step ∈ recorded source legs, step.Repeats ∧ step.target.isVoid = false := by
  induction legs generalizing source with
  | nil => exact nofun
  | cons leg rest ih =>
    rw [recorded, List.forall_mem_cons]
    refine ⟨⟨?_, h.1.2⟩, ih h.2⟩
    intro source' hsource'
    cases hsource'
    exact h.1.1

/-- The chain after a conversion was asked for: as before, if it is not legal. -/
def request (chain : Chain) (request : Ty × Bool) : Chain :=
  ((chain.converted? request.1 request.2).map Converted.chain).getD chain

/-- The chain after any number of requests. -/
def requestAll (chain : Chain) (requests : List (Ty × Bool)) : Chain := requests.foldl request chain

/-- The chain of a value of a type after any number of requests. -/
def ofRequests (ty : Ty) (requests : List (Ty × Bool)) : Chain := (ofTy ty).requestAll requests

/-- What holds of every chain that was built by requests. -/
structure Recorded (chain : Chain) : Prop where
  linked : IsLinked chain.steps
  typed : chain.steps ≠ []
  proper : ∀ step ∈ chain.steps, step.target.isVoid = false
  repeats : ∀ step ∈ chain.steps, step.Repeats ∨ step.WidensString

theorem recorded_ofTy {ty : Ty} (h : ty.isVoid = false) : Recorded (ofTy ty) where
  linked := ⟨by simp [ofTy], .singleton _⟩
  typed := List.cons_ne_nil _ _
  proper := by simpa [ofTy] using h
  repeats := by
    intro step hstep
    rw [ofTy, List.mem_singleton] at hstep
    subst hstep
    exact .inl nofun

theorem Recorded.exists_ty? {chain : Chain} (h : chain.Recorded) :
    ∃ source, chain.ty? = some source ∧ source.isVoid = false := by
  have hlast := List.getLast?_eq_some_getLast h.typed
  exact ⟨(chain.steps.getLast h.typed).target, by rw [ty?, hlast]; rfl, h.proper _ (List.getLast_mem _)⟩

/-- A request adds conversions that repeat themselves, or it is the one that passes the string class. -/
theorem request_steps {chain : Chain} {source target : Ty} {cast : Bool} (hty : chain.ty? = some source)
    (hvoidSource : source.isVoid = false) (hvoid : target.isVoid = false) :
    ∃ legs, (chain.request (target, cast)).steps = chain.steps ++ recorded source legs ∧
      (Route.RepeatsAll source legs ∨ Route.PassesString source target cast legs) := by
  unfold request
  cases hconverted : chain.converted? target cast with
  | none => exact ⟨[], (List.append_nil _).symm, .inl trivial⟩
  | some converted =>
    obtain ⟨route, hroute, hsteps⟩ := converted?_steps hty hconverted
    refine ⟨Route.taken source route.legs, hsteps, ?_⟩
    obtain hall | hpasses := Route.repeatsAll_of_between? hvoidSource hvoid hroute
    · exact .inl hall
    · obtain ⟨nonNull, rfl, rfl, hcast, hlegs⟩ := hpasses
      refine .inr ⟨nonNull, rfl, rfl, hcast, ?_⟩
      rw [hlegs]
      cases nonNull <;> decide

/-- The conversions that a request records when it passes the string class. -/
theorem mem_recorded_of_passesString {source target : Ty} {cast : Bool} {legs : List Leg}
    (h : Route.PassesString source target cast legs) :
    ∀ step ∈ recorded source legs, (step.Repeats ∨ step.WidensString) ∧ step.target.isVoid = false := by
  obtain ⟨nonNull, rfl, -, -, rfl⟩ := h
  simp only [recorded, List.forall_mem_cons]
  refine ⟨⟨.inl ?_, rfl⟩, ⟨.inr ⟨nonNull, rfl⟩, rfl⟩, nofun⟩
  intro source hsource
  cases hsource
  exact Route.repeats_toString nofun nofun

/-- What a request adds repeats itself or takes a string for an object, and none of it leads to void. -/
theorem request_records {chain : Chain} {source target : Ty} {cast : Bool} (hty : chain.ty? = some source)
    (hvoidSource : source.isVoid = false) (hvoid : target.isVoid = false) :
    ∃ legs, (chain.request (target, cast)).steps = chain.steps ++ recorded source legs ∧
      ∀ step ∈ recorded source legs, (step.Repeats ∨ step.WidensString) ∧ step.target.isVoid = false := by
  obtain ⟨legs, hsteps, hlegs⟩ := request_steps hty hvoidSource hvoid
  refine ⟨legs, hsteps, ?_⟩
  obtain hall | hpasses := hlegs
  · intro step hstep
    obtain ⟨hrepeats, hproper⟩ := repeats_of_mem_recorded hall step hstep
    exact ⟨.inl hrepeats, hproper⟩
  · exact mem_recorded_of_passesString hpasses

theorem Recorded.request {chain : Chain} {target : Ty} (h : chain.Recorded) (hvoid : target.isVoid = false)
    (cast : Bool) : (chain.request (target, cast)).Recorded := by
  obtain ⟨source, hty, hvoidSource⟩ := h.exists_ty?
  obtain ⟨legs, hsteps, hnew⟩ := request_records hty hvoidSource hvoid
  constructor
  · rw [hsteps]
    exact h.linked.append_recorded hty legs
  · rw [hsteps]
    exact List.append_ne_nil_of_left_ne_nil h.typed _
  · rw [hsteps, List.forall_mem_append]
    exact ⟨h.proper, fun step hstep => (hnew step hstep).2⟩
  · rw [hsteps, List.forall_mem_append]
    exact ⟨h.repeats, fun step hstep => (hnew step hstep).1⟩

theorem Recorded.requestAll {chain : Chain} (h : chain.Recorded) {requests : List (Ty × Bool)}
    (hvoid : ∀ request ∈ requests, request.1.isVoid = false) : (chain.requestAll requests).Recorded := by
  induction requests generalizing chain with
  | nil => exact h
  | cons request rest ih =>
    rw [List.forall_mem_cons] at hvoid
    exact ih (h.request hvoid.1 request.2) hvoid.2

/-- A string is taken for an object only where an object of one form was asked to have the other without
    a cast. -/
theorem origin_of_widensString {chain : Chain} (h : chain.Recorded) (hnone : ∀ step ∈ chain.steps, ¬step.WidensString)
    {requests : List (Ty × Bool)} (hvoid : ∀ request ∈ requests, request.1.isVoid = false) :
    ∀ step ∈ (chain.requestAll requests).steps, step.WidensString →
      ∃ before after nonNull, requests = before ++ (.objectForm nonNull, false) :: after ∧
        (chain.requestAll before).ty? = some (.objectForm !nonNull) := by
  induction requests using List.reverseRecOn with
  | nil => exact fun step hstep hwidens => absurd hwidens (hnone step hstep)
  | append_singleton requests request ih =>
    rw [List.forall_mem_append, List.forall_mem_singleton] at hvoid
    intro step hstep hwidens
    rw [Chain.requestAll, List.foldl_append] at hstep
    change step ∈ ((chain.requestAll requests).request request).steps at hstep
    obtain ⟨source, hty, hvoidSource⟩ := (h.requestAll hvoid.1).exists_ty?
    obtain ⟨legs, hsteps, hlegs⟩ := request_steps hty hvoidSource hvoid.2
    rw [hsteps, List.mem_append] at hstep
    obtain hold | hnew := hstep
    · obtain ⟨before, after, nonNull, rfl, hbefore⟩ := ih hvoid.1 step hold hwidens
      exact ⟨before, after ++ [request], nonNull, by simp, hbefore⟩
    · obtain hall | ⟨nonNull, hsource, htarget, hcast, -⟩ := hlegs
      · exact absurd (repeats_of_mem_recorded hall step hnew).1 hwidens.not_repeats
      · refine ⟨requests, [], nonNull, ?_, hsource ▸ hty⟩
        rw [← htarget, ← hcast]

/-- Asks for the target of a conversion again. -/
def repeated? (chain : Chain) (step : Conversion) : Option Chain :=
  (chain.converted? step.target step.castPreferred).map Converted.chain

/-- The chain that asking for the targets of some conversions again gives, starting from nothing. -/
def replayed? (steps : List Conversion) : Option Chain := steps.foldlM repeated? .empty

theorem IsLinked.source_eq {front : List Conversion} {step : Conversion} (h : IsLinked (front ++ [step])) :
    step.source = (Chain.mk front).ty? := by
  cases hlast : front.getLast? with
  | none =>
    rw [List.getLast?_eq_none_iff] at hlast
    subst hlast
    exact h.start step rfl
  | some last =>
    have hfollow := (List.isChain_append.1 h.follow).2.2 last hlast step rfl
    simp [ty?, hlast, hfollow]

theorem IsLinked.of_append {front back : List Conversion} (h : IsLinked (front ++ back)) : IsLinked front := by
  refine ⟨?_, (List.isChain_append.1 h.follow).1⟩
  cases front with
  | nil => exact nofun
  | cons step rest => exact h.start

theorem repeated?_of_repeats {front : List Conversion} {step : Conversion} (hlinked : IsLinked (front ++ [step]))
    (h : step.Repeats) : (Chain.mk front).repeated? step = some ⟨front ++ [step]⟩ := by
  obtain ⟨source?, target, cast⟩ := step
  have hsource : source? = (Chain.mk front).ty? := hlinked.source_eq
  cases source? with
  | none => simp [repeated?, converted?, push, ← hsource]
  | some source =>
    obtain ⟨route, hroute, htaken⟩ := h source rfl
    have hsteps := along_steps hsource.symm route.legs
    rw [htaken] at hsteps
    simp only [repeated?, converted?, ← hsource, hroute, Option.map_some]
    exact congrArg (fun steps => some (Chain.mk steps)) hsteps

/-- Conversions that repeat themselves are all made again. -/
theorem replayed?_of_repeats {steps : List Conversion} (hlinked : IsLinked steps) (h : ∀ step ∈ steps, step.Repeats) :
    replayed? steps = some ⟨steps⟩ := by
  induction steps using List.reverseRecOn with
  | nil => rfl
  | append_singleton front step ih =>
    rw [List.forall_mem_append, List.forall_mem_singleton] at h
    have hfront := ih hlinked.of_append h.1
    rw [replayed?, List.foldlM_append]
    change (replayed? front >>= fun chain => [step].foldlM repeated? chain) = _
    rw [hfront]
    simp [repeated?_of_repeats hlinked h.2]

theorem repeated?_steps {chain chain' : Chain} {source : Ty} {step : Conversion} (hty : chain.ty? = some source)
    (h : chain.repeated? step = some chain') :
    ∃ route, Route.between? source step.target step.castPreferred = some route ∧
      chain'.steps = chain.steps ++ recorded source (Route.taken source route.legs) := by
  obtain ⟨converted, hconverted, rfl⟩ := Option.map_eq_some_iff.1 h
  exact converted?_steps hty hconverted

theorem steps_isPrefix_of_repeated? {chain chain' : Chain} {step : Conversion} (h : chain.repeated? step = some chain') :
    chain.steps <+: chain'.steps := by
  cases hty : chain.ty? with
  | none =>
    simp only [repeated?, converted?, hty, Option.map_some, Option.some.injEq] at h
    rw [← h, push, if_neg (by simp [hty])]
    exact List.prefix_append _ _
  | some source =>
    obtain ⟨route, -, hsteps⟩ := repeated?_steps hty h
    rw [hsteps]
    exact List.prefix_append _ _

/-- Replaying only ever adds to a chain. -/
theorem steps_isPrefix_of_foldlM {chain chain' : Chain} {steps : List Conversion}
    (h : steps.foldlM repeated? chain = some chain') : chain.steps <+: chain'.steps := by
  induction steps generalizing chain with
  | nil =>
    cases h
    exact List.prefix_rfl
  | cons step rest ih =>
    rw [List.foldlM_cons] at h
    obtain ⟨next, hnext, hrest⟩ := Option.bind_eq_some_iff.1 h
    exact (steps_isPrefix_of_repeated? hnext).trans (ih hrest)

/-- From a string no request records that the string is taken for an object of the same form. -/
theorem not_isPrefix_of_foldlM {chain chain' : Chain} {nonNull : Bool} {steps : List Conversion}
    (hty : chain.ty? = some (.stringForm nonNull)) (hvoid : ∀ step ∈ steps, step.target.isVoid = false)
    (h : steps.foldlM repeated? chain = some chain') :
    ¬chain.steps ++ [⟨some (.stringForm nonNull), .objectForm nonNull, false⟩] <+: chain'.steps := by
  induction steps with
  | nil =>
    cases h
    intro hstarts
    have hlength := hstarts.length_le
    rw [List.length_append, List.length_singleton] at hlength
    omega
  | cons step rest ih =>
    rw [List.forall_mem_cons] at hvoid
    rw [List.foldlM_cons] at h
    obtain ⟨next, hnext, hrest⟩ := Option.bind_eq_some_iff.1 h
    obtain ⟨route, hroute, hsteps⟩ := repeated?_steps hty hnext
    obtain hall | ⟨_, hsource, -⟩ := Route.repeatsAll_of_between? rfl hvoid.1 hroute
    · cases htaken : Route.taken (.stringForm nonNull) route.legs with
      | nil =>
        rw [htaken, recorded, List.append_nil] at hsteps
        have hsame : next = chain := congrArg Chain.mk hsteps
        exact ih hvoid.2 (hsame ▸ hrest)
      | cons leg more =>
        rw [htaken] at hsteps hall
        intro hstarts
        have hnew : chain.steps ++ [⟨some (.stringForm nonNull), leg.target, leg.castPreferred⟩] <+: chain'.steps := by
          refine List.IsPrefix.trans ?_ (steps_isPrefix_of_foldlM hrest)
          rw [hsteps, recorded]
          exact (List.prefix_append_right_inj _).2 ⟨_, rfl⟩
        have hboth := (List.prefix_of_prefix_length_le hnew hstarts (by simp)).eq_of_length (by simp)
        have hstep := List.append_cancel_left hboth
        have hleg : leg = ⟨.objectForm nonNull, false⟩ := by
          simp only [List.cons.injEq, Conversion.mk.injEq, true_and, and_true] at hstep
          obtain ⟨target, cast⟩ := leg
          simpa using hstep
        have hwidens : Conversion.WidensString ⟨some (.stringForm nonNull), .objectForm nonNull, false⟩ := ⟨nonNull, rfl⟩
        refine hwidens.not_repeats ?_
        intro source hsource
        cases hsource
        exact hleg ▸ hall.1.1
    · cases hsource

theorem not_widensString_of_replayed? {steps : List Conversion} (hlinked : IsLinked steps)
    (hvoid : ∀ step ∈ steps, step.target.isVoid = false) (h : ∀ step ∈ steps, step.Repeats ∨ step.WidensString)
    (hreplayed : replayed? steps = some ⟨steps⟩) (front back : List Conversion) (hsteps : steps = front ++ back) :
    ∀ step ∈ front, ¬step.WidensString := by
  induction front using List.reverseRecOn generalizing back with
  | nil => exact nofun
  | append_singleton front step ih =>
    have hsteps' : steps = front ++ (step :: back) := by rw [hsteps, List.append_assoc, List.singleton_append]
    have hfront := ih (step :: back) hsteps'
    rw [List.forall_mem_append, List.forall_mem_singleton]
    refine ⟨hfront, ?_⟩
    rintro ⟨nonNull, rfl⟩
    have hlinked' : IsLinked (front ++ [⟨some (.stringForm nonNull), .objectForm nonNull, false⟩]) := by
      rw [hsteps] at hlinked
      exact hlinked.of_append
    have hrepeats : ∀ step ∈ front, step.Repeats := by
      intro step hstep
      have hmem : step ∈ steps := hsteps' ▸ List.mem_append_left _ hstep
      exact (h step hmem).resolve_right (hfront step hstep)
    have hback := hreplayed
    nth_rewrite 1 [hsteps'] at hback
    rw [replayed?, List.foldlM_append] at hback
    change (replayed? front >>= _) = _ at hback
    rw [replayed?_of_repeats hlinked'.of_append hrepeats] at hback
    refine not_isPrefix_of_foldlM hlinked'.source_eq.symm ?_ hback ⟨back, hsteps.symm⟩
    intro step hstep
    exact hvoid step (hsteps' ▸ List.mem_append_right _ hstep)

/-- Conversions are all made again exactly if no string is taken for an object among them. -/
theorem replayed?_eq_iff {steps : List Conversion} (hlinked : IsLinked steps)
    (hvoid : ∀ step ∈ steps, step.target.isVoid = false) (h : ∀ step ∈ steps, step.Repeats ∨ step.WidensString) :
    replayed? steps = some ⟨steps⟩ ↔ ∀ step ∈ steps, ¬step.WidensString := by
  constructor
  · intro hreplayed
    exact not_widensString_of_replayed? hlinked hvoid h hreplayed steps [] (List.append_nil steps).symm
  · intro hnone
    exact replayed?_of_repeats hlinked fun step hstep => (h step hstep).resolve_right (hnone step hstep)

/-- A conversion that a reduction leaves was there before, or it makes a string of a primitive value. -/
theorem Shortens.mem {steps steps' : List Conversion} (h : Shortens steps steps') :
    ∀ step ∈ steps', step ∈ steps ∨
      ∃ source nonNull, source.primitive ∧ step = ⟨some source, .stringForm nonNull, false⟩ := by
  intro step hstep
  cases h with
  | detour front first way last rest hsame =>
    left
    simp only [List.mem_append, List.mem_cons] at hstep ⊢
    tauto
  | boxing front first boxed last rest hboxes =>
    obtain ⟨hprimitive, -, hstring, hlast⟩ := boxesForString_iff.1 hboxes
    simp only [List.mem_append, List.mem_cons] at hstep ⊢
    obtain hstep | hstep | hstep | hstep := hstep
    · tauto
    · tauto
    · exact .inr ⟨first.target, last.target.nonNull, hprimitive, by rw [hstep, ← Ty.eq_stringForm hstring hlast]⟩
    · tauto

theorem Recorded.shortens {steps steps' : List Conversion} (hstep : Shortens steps steps')
    (h : (Chain.mk steps).Recorded) : (Chain.mk steps').Recorded := by
  have hlinked : IsLinked steps' := hstep.isLinked h.linked
  refine ⟨hlinked, ShortensTo.ne_nil (.single hstep) h.typed, fun step hmem => ?_, fun step hmem => ?_⟩
  · obtain hmem | ⟨source, nonNull, -, rfl⟩ := hstep.mem step hmem
    · exact h.proper step hmem
    · rfl
  · obtain hmem | ⟨source, nonNull, hprimitive, rfl⟩ := hstep.mem step hmem
    · exact h.repeats step hmem
    · refine .inl fun source' hsource' => ?_
      cases hsource'
      have hne : source ≠ .stringForm nonNull := by
        rintro rfl
        cases hprimitive
      exact Route.repeats_toString hne (fun _ => hprimitive)

theorem Shortens.mem_of_widensString {steps steps' : List Conversion} (h : Shortens steps steps') {step : Conversion}
    (hmem : step ∈ steps') (hwidens : step.WidensString) : step ∈ steps := by
  obtain hmem | ⟨source, nonNull, -, rfl⟩ := h.mem step hmem
  · exact hmem
  · obtain ⟨_, hwidens⟩ := hwidens
    cases hwidens

theorem Recorded.shortensTo {steps steps' : List Conversion} (hsteps : ShortensTo steps steps')
    (h : (Chain.mk steps).Recorded) : (Chain.mk steps').Recorded := by
  induction hsteps with
  | refl => exact h
  | tail _ hstep ih => exact ih.shortens hstep

theorem ShortensTo.mem_of_widensString {steps steps' : List Conversion} (h : ShortensTo steps steps')
    {step : Conversion} (hmem : step ∈ steps') (hwidens : step.WidensString) : step ∈ steps := by
  induction h with
  | refl => exact hmem
  | tail _ hstep ih => exact ih (hstep.mem_of_widensString hmem hwidens)

/-- Which recorded chains can be replayed, for any natural type other than void and any requests for types
    other than void. Replaying the reduced chain makes the same conversions again exactly if it does not
    take a string for an object. It takes one only after an object was asked for in its other form without
    a cast: without such a request replaying succeeds at every step and ends in the type of the chain. -/
theorem replayed?_reduced_iff (ty : Ty) (requests : List (Ty × Bool)) (hty : ty.isVoid = false)
    (hrequests : ∀ request ∈ requests, request.1.isVoid = false) :
    (replayed? (ofRequests ty requests).reduced.steps = some (ofRequests ty requests).reduced ↔
        ∀ step ∈ (ofRequests ty requests).reduced.steps, ¬step.WidensString) ∧
      ((∀ before after nonNull, requests = before ++ (.objectForm nonNull, false) :: after →
          (ofRequests ty before).ty? ≠ some (.objectForm !nonNull)) →
        ∃ replayed, replayed? (ofRequests ty requests).reduced.steps = some replayed ∧
          replayed.ty? = (ofRequests ty requests).ty?) := by
  have hofTy : (ofTy ty).Recorded := recorded_ofTy hty
  have hrecorded : (ofRequests ty requests).Recorded := hofTy.requestAll hrequests
  have hshort := (ofRequests ty requests).shortensTo_reduced
  have hreduced := hrecorded.shortensTo hshort
  have hiff := replayed?_eq_iff hreduced.linked hreduced.proper hreduced.repeats
  refine ⟨hiff, fun hother => ⟨_, hiff.2 fun step hstep hwidens => ?_, reduced_ty? _⟩⟩
  have hnone : ∀ step ∈ (ofTy ty).steps, ¬step.WidensString := by
    rintro step hstep ⟨nonNull, rfl⟩
    rw [ofTy, List.mem_singleton] at hstep
    cases hstep
  have hmem := hshort.mem_of_widensString hstep hwidens
  obtain ⟨before, after, nonNull, hsplit, hbefore⟩ := origin_of_widensString hofTy hnone hrequests step hmem hwidens
  exact hother before after nonNull hsplit hbefore

/-- An integer is boxed as a long, unboxed and made a double: all but the boxing, which is a detour, is
    replayed. -/
theorem integer_replayed?_reduced :
    (∀ request ∈ [(Ty.ofKind .long, false), (Ty.long, true), (Ty.double, false)], request.1.isVoid = false) ∧
      replayed? (ofRequests .int [(Ty.ofKind .long, false), (Ty.long, true), (Ty.double, false)]).reduced.steps =
        some ⟨[⟨none, .int, true⟩, ⟨some .int, .long, true⟩, ⟨some .long, .double, false⟩]⟩ :=
  ⟨by decide, ((replayed?_reduced_iff .int _ rfl (by decide)).1.2 (by decide)).trans (by decide)⟩

/-- A nullable object that was asked to be a non-null one ends as a non-null string when it is replayed,
    and when it was cast to some class after that, replaying it fails. -/
theorem nonNullObject_replayed?_reduced_ne :
    (ofRequests .object [(.objectForm true, false)]).ty? = some (.objectForm true) ∧
      (replayed? (ofRequests .object [(.objectForm true, false)]).reduced.steps).bind ty? = some .nonNullString ∧
      (ofRequests .object [(.objectForm true, false), (.named "Row", true)]).ty? = some (.named "Row") ∧
      replayed? (ofRequests .object [(.objectForm true, false), (.named "Row", true)]).reduced.steps = none := by
  decide

end Chain

end TemplateTree
