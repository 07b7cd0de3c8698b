import TemplateTree.Proofs.Chain.Reduced

namespace TemplateTree.Chain

theorem visit_cons (first : Conversion) (path : List Conversion) (step : Conversion) :
    visit (first :: path) step = if first.target = step.target then [first] else first :: visit path step := by
  by_cases h : first.target = step.target
  · simp [visit, List.findIdx?_cons, h]
  · cases hfound : path.findIdx? fun earlier => earlier.target = step.target <;>
      simp [visit, List.findIdx?_cons, h, hfound]

/-- The start of a path is never left. -/
theorem exists_foldl_visit_eq_cons (first : Conversion) (path steps : List Conversion) :
    ∃ path', steps.foldl visit (first :: path) = first :: path' := by
  induction steps generalizing path with
  | nil => exact ⟨path, rfl⟩
  | cons step rest ih =>
    rw [List.foldl_cons, visit_cons]
    split
    · exact ih []
    · exact ih (visit path step)

theorem withoutDetours_cons_of_not_mem {first : Conversion} {steps : List Conversion}
    (h : first.target ∉ steps.map Conversion.target) :
    withoutDetours (first :: steps) = first :: withoutDetours steps := by
  have hfold (path : List Conversion) : steps.foldl visit (first :: path) = first :: steps.foldl visit path := by
    induction steps generalizing path with
    | nil => rfl
    | cons step rest ih =>
      rw [List.map_cons, List.mem_cons, not_or] at h
      rw [List.foldl_cons, visit_cons, if_neg h.1, ih h.2, List.foldl_cons]
  exact hfold []

/-- The way from the first step back to its target makes no difference. -/
theorem withoutDetours_of_same_target {first last : Conversion} (h : first.target = last.target)
    (way rest : List Conversion) :
    withoutDetours (first :: (way ++ last :: rest)) = withoutDetours (first :: rest) := by
  obtain ⟨path, hpath⟩ := exists_foldl_visit_eq_cons first [] way
  calc withoutDetours (first :: (way ++ last :: rest)) = (way ++ last :: rest).foldl visit [first] := rfl
    _ = (last :: rest).foldl visit (first :: path) := by rw [List.foldl_append, hpath]
    _ = rest.foldl visit [first] := by rw [List.foldl_cons, visit_cons, if_pos h]
    _ = withoutDetours (first :: rest) := rfl

/-- Neither does it further on, if none of the steps before leads to a target that is reached again. -/
theorem withoutDetours_of_detour {front : List Conversion} {first last : Conversion} (way rest : List Conversion)
    (hfront : front.Pairwise fun before after => before.target ≠ after.target)
    (hnew : ∀ before ∈ front, ∀ after ∈ first :: (way ++ last :: rest), before.target ≠ after.target)
    (hsame : first.target = last.target) :
    withoutDetours (front ++ first :: (way ++ last :: rest)) = withoutDetours (front ++ first :: rest) := by
  induction front with
  | nil => exact withoutDetours_of_same_target hsame way rest
  | cons before front ih =>
    obtain ⟨hbefore, hfront⟩ := List.pairwise_cons.1 hfront
    obtain ⟨hnew, hrest⟩ := List.forall_mem_cons.1 hnew
    have hlong : before.target ∉ (front ++ first :: (way ++ last :: rest)).map Conversion.target := by
      intro hmem
      obtain ⟨after, hafter, htarget⟩ := List.mem_map.1 hmem
      obtain hafter | hafter := List.mem_append.1 hafter
      · exact hbefore after hafter htarget.symm
      · exact hnew after hafter htarget.symm
    have hshort : before.target ∉ (front ++ first :: rest).map Conversion.target := by
      refine fun hmem => hlong (List.Sublist.subset (List.Sublist.map _ ?_) hmem)
      have hrest : rest.Sublist (way ++ last :: rest) :=
        (List.sublist_cons_self last rest).trans (List.sublist_append_right way _)
      exact .append_left (.cons_cons first hrest) front
    rw [List.cons_append, List.cons_append, withoutDetours_cons_of_not_mem hlong, withoutDetours_cons_of_not_mem hshort,
      ih hfront hrest]

theorem target_ne_of_find?_eq_none {steps : List Conversion} {start stop : Nat} (hless : start < stop)
    (hstop : stop < steps.length)
    (h : (List.range' (start + 1) (steps.length - (start + 1))).find? (fun stop =>
      steps[start]?.map Conversion.target = steps[stop]?.map Conversion.target) = none) :
    (steps.get ⟨start, by omega⟩).target ≠ (steps.get ⟨stop, hstop⟩).target := by
  have hmem : stop ∈ List.range' (start + 1) (steps.length - (start + 1)) := List.mem_range'_1.2 (by omega)
  have hne := List.find?_eq_none.1 h stop hmem
  have hstart : start < steps.length := by omega
  simpa [hstart, hstop] using hne

theorem nodup_of_repeat?_eq_none {steps : List Conversion} (h : repeat? steps = none) :
    (steps.map Conversion.target).Nodup := by
  rw [repeat?, List.findSome?_eq_none_iff] at h
  rw [List.Nodup, List.pairwise_map, List.pairwise_iff_getElem]
  intro start stop hstart hstop hless
  exact target_ne_of_find?_eq_none hless hstop (Option.map_eq_none_iff.1 (h start (List.mem_range.2 hstart)))

/-- The places that are found, and what is known of those before them. -/
theorem repeat?_eq_some {steps : List Conversion} {start stop : Nat} (h : repeat? steps = some (start, stop)) :
    ∃ (hless : start < stop) (hstop : stop < steps.length),
      (steps.get ⟨start, by omega⟩).target = (steps.get ⟨stop, hstop⟩).target ∧
      ∀ (before after : Nat) (_ : before < start) (_ : before < after) (hlast : after < steps.length),
        (steps.get ⟨before, by omega⟩).target ≠ (steps.get ⟨after, hlast⟩).target := by
  obtain ⟨hless, hstop⟩ := repeat?_bounds h
  obtain ⟨earlier, start', later, hrange, hstart, hearlier⟩ := List.findSome?_eq_some_iff.1 h
  obtain ⟨stop', hfound, heq⟩ := Option.map_eq_some_iff.1 hstart
  obtain ⟨rfl, rfl⟩ := Prod.mk.inj heq
  have hlength : earlier.length = start' := by
    have hget : (List.range steps.length)[earlier.length]? = some start' := by simp [hrange]
    obtain ⟨hbound, hvalue⟩ := List.getElem?_eq_some_iff.1 hget
    rwa [List.getElem_range] at hvalue
  refine ⟨hless, hstop, ?_, fun before after hbefore hafter hlast => ?_⟩
  · have hsame := List.find?_some hfound
    have hstart : start' < steps.length := by omega
    simpa [hstart, hstop] using hsame
  · have hget : (List.range steps.length)[before]? = some before := List.getElem?_range (by omega)
    rw [hrange, List.getElem?_append_left (by omega)] at hget
    have hnone := hearlier before (List.mem_of_getElem? hget)
    exact target_ne_of_find?_eq_none hafter hlast (Option.map_eq_none_iff.1 hnone)

/-- The two steps that are found, with what lies around them. -/
theorem exists_of_repeat?_eq_some {steps : List Conversion} {start stop : Nat}
    (h : repeat? steps = some (start, stop)) :
    ∃ front first way last rest, steps = front ++ first :: (way ++ last :: rest) ∧
      drained steps start stop = front ++ first :: rest ∧ first.target = last.target ∧
      front.Pairwise (fun before after => before.target ≠ after.target) ∧
      ∀ before ∈ front, ∀ after ∈ first :: (way ++ last :: rest), before.target ≠ after.target := by
  obtain ⟨hless, hstop, hsame, hnew⟩ := repeat?_eq_some h
  have hstart : start < steps.length := by omega
  have hfirst : steps.drop start = steps[start] :: steps.drop (start + 1) := List.drop_eq_getElem_cons hstart
  have hway : steps.drop (start + 1) = (steps.drop (start + 1)).take (stop - (start + 1)) ++ steps[stop] ::
      steps.drop (stop + 1) := by
    rw [← List.drop_eq_getElem_cons hstop]
    conv_lhs => rw [← List.take_append_drop (stop - (start + 1)) (steps.drop (start + 1)), List.drop_drop]
    rw [show start + 1 + (stop - (start + 1)) = stop by omega]
  refine ⟨steps.take start, steps[start], (steps.drop (start + 1)).take (stop - (start + 1)), steps[stop],
    steps.drop (stop + 1), ?_, ?_, hsame, ?_, ?_⟩
  · rw [← hway, ← hfirst, List.take_append_drop]
  · rw [drained, List.take_succ_eq_append_getElem hstart, List.append_assoc, List.singleton_append]
  · rw [List.pairwise_iff_getElem]
    intro before after hbefore hafter horder
    rw [List.length_take] at hbefore hafter
    rw [List.getElem_take, List.getElem_take]
    exact hnew before after (by omega) horder (by omega)
  · rw [← hway, ← hfirst]
    intro before hbefore after hafter
    obtain ⟨i, hi, rfl⟩ := List.mem_iff_getElem.1 hbefore
    obtain ⟨j, hj, rfl⟩ := List.mem_iff_getElem.1 hafter
    rw [List.length_take] at hi
    rw [List.length_drop] at hj
    rw [List.getElem_take, List.getElem_drop]
    exact hnew i (start + j) (by omega) (by omega) (by omega)

theorem cancelDetours_eq (steps : List Conversion) : cancelDetours steps = withoutDetours steps := by
  fun_induction cancelDetours steps with
  | case1 steps hnone => exact (withoutDetours_of_nodup (nodup_of_repeat?_eq_none hnone)).symm
  | case2 steps start stop hsome ih =>
    obtain ⟨front, first, way, last, rest, rfl, hdrained, hsame, hfront, hnew⟩ := exists_of_repeat?_eq_some hsome
    rw [ih, hdrained, withoutDetours_of_detour way rest hfront hnew hsame]

/-- What follows a value of the given type in a list without boxing for strings. -/
def withoutBoxingAfter (ty : Ty) : List Conversion → List Conversion
  | boxed :: last :: rest =>
    if boxesForString ty boxed.target last.target then ⟨some ty, last.target, false⟩ :: withoutBoxing rest
    else withoutBoxing (boxed :: last :: rest)
  | steps => steps

theorem withoutBoxing_cons (first : Conversion) (steps : List Conversion) :
    withoutBoxing (first :: steps) = first :: withoutBoxingAfter first.target steps := by
  obtain _ | ⟨boxed, _ | ⟨last, rest⟩⟩ := steps
  · rfl
  · rfl
  · rw [withoutBoxing, withoutBoxingAfter]
    split <;> rfl

/-- Where the next type is not the boxed one, nothing depends on the type before it. -/
theorem withoutBoxingAfter_eq {ty : Ty} {steps : List Conversion}
    (h : ty.primitive → ∀ next ∈ steps.head?, next.target ≠ ty.toBoxed) :
    withoutBoxingAfter ty steps = withoutBoxing steps := by
  obtain _ | ⟨boxed, _ | ⟨last, rest⟩⟩ := steps
  · rfl
  · rfl
  · have hnot : boxesForString ty boxed.target last.target = false := by
      rw [Bool.eq_false_iff]
      intro hboxes
      obtain ⟨hprimitive, hboxed, -⟩ := boxesForString_iff.1 hboxes
      exact h hprimitive boxed rfl hboxed
    rw [withoutBoxingAfter, hnot]
    rfl

theorem spliceFrom_of_not_primitive {ty : Ty} (h : ty.primitive = false) (steps : List Conversion) (cursor : Nat) :
    spliceFrom steps cursor ty = (steps, cursor) := by
  rw [spliceFrom, dif_neg (by simp [h])]

/-- The inner loop at a step of the list, by what comes next. -/
theorem spliceFrom_append_cons {ty : Ty} (hprimitive : ty.primitive) (front : List Conversion) (next : Conversion)
    (steps : List Conversion) (h : next.target ≠ ty.toBoxed ∨ steps = []) :
    spliceFrom (front ++ next :: steps) front.length ty =
      spliceFrom (front ++ [next] ++ steps) (front ++ [next]).length next.target := by
  have hbranch : ty.toBoxed ≠ next.target ∨ (front ++ next :: steps).length ≤ front.length + 1 := by
    obtain hne | rfl := h
    · exact .inl hne.symm
    · exact .inr (by simp)
  rw [spliceFrom, dif_pos ⟨hprimitive, by simp⟩]
  simp only [List.getElem_append_right (Nat.le_refl _), Nat.sub_self, List.getElem_cons_zero]
  rw [dif_pos hbranch]
  simp

theorem spliceFrom_append_cons_cons {ty : Ty} (hprimitive : ty.primitive) (front : List Conversion)
    {next : Conversion} (hnext : next.target = ty.toBoxed) (third : Conversion) (steps : List Conversion) :
    spliceFrom (front ++ next :: third :: steps) front.length ty =
      if third.target.isString && !third.target.primitive then
        spliceFrom (front ++ [⟨some ty, third.target, false⟩] ++ steps)
          (front ++ [(⟨some ty, third.target, false⟩ : Conversion)]).length ty
      else spliceFrom (front ++ [next, third] ++ steps) (front ++ [next, third]).length third.target := by
  have hbranch : ¬ (ty.toBoxed ≠ next.target ∨ (front ++ next :: third :: steps).length ≤ front.length + 1) := by
    simp [hnext]
  rw [spliceFrom, dif_pos ⟨hprimitive, by simp⟩]
  simp only [List.getElem_append_right (Nat.le_refl _), Nat.sub_self, List.getElem_cons_zero]
  rw [dif_neg hbranch]
  simp

/-- From the end of `front` the inner loop looks at some steps and leaves the others as they are. -/
def Splices (front steps : List Conversion) (ty : Ty) : Prop :=
  ∃ seen rest, spliceFrom (front ++ steps) front.length ty = (front ++ seen ++ rest, (front ++ seen).length) ∧
    withoutBoxingAfter ty steps = seen ++ withoutBoxing rest ∧ rest <:+ steps

theorem Splices.of_step {front done steps steps' : List Conversion} {ty ty' : Ty}
    (hstep : spliceFrom (front ++ steps) front.length ty =
      spliceFrom (front ++ done ++ steps') (front ++ done).length ty')
    (hafter : withoutBoxingAfter ty steps = done ++ withoutBoxingAfter ty' steps') (hsuffix : steps' <:+ steps)
    (h : Splices (front ++ done) steps' ty') : Splices front steps ty := by
  obtain ⟨seen, rest, hsplice, hseen, hrest⟩ := h
  refine ⟨done ++ seen, rest, ?_, ?_, hrest.trans hsuffix⟩
  · rw [hstep, hsplice, ← List.append_assoc front done seen]
  · rw [hafter, hseen, List.append_assoc]

theorem splices_of_not_primitive {ty : Ty} (h : ty.primitive = false) (front steps : List Conversion) :
    Splices front steps ty := by
  refine ⟨[], steps, ?_, withoutBoxingAfter_eq ?_, List.suffix_refl _⟩
  · rw [spliceFrom_of_not_primitive h, List.append_nil]
  · exact fun hprimitive => absurd hprimitive (Bool.eq_false_iff.1 h)

/-- A step that does not box is left behind. -/
theorem withoutBoxingAfter_cons {ty : Ty} {next : Conversion} {steps : List Conversion}
    (h : next.target ≠ ty.toBoxed ∨ steps = []) :
    withoutBoxingAfter ty (next :: steps) = next :: withoutBoxingAfter next.target steps := by
  obtain hne | rfl := h
  · rw [withoutBoxingAfter_eq fun _ => by simpa using hne, withoutBoxing_cons]
  · rfl

/-- A step to a string from what was boxed takes both their places. The type stays the one that was
    boxed, which makes no difference since it is not boxed again. -/
theorem withoutBoxingAfter_of_boxes {ty : Ty} {next third : Conversion} {steps : List Conversion}
    (h : boxesForString ty next.target third.target)
    (hnew : next.target ∉ (third :: steps).map Conversion.target) :
    withoutBoxingAfter ty (next :: third :: steps) =
      ⟨some ty, third.target, false⟩ :: withoutBoxingAfter ty steps := by
  have hstale : withoutBoxingAfter ty steps = withoutBoxing steps := by
    refine withoutBoxingAfter_eq fun _ after hafter htarget => hnew ?_
    rw [(boxesForString_iff.1 h).2.1, ← htarget]
    exact List.mem_cons_of_mem _ (List.mem_map_of_mem (List.mem_of_mem_head? hafter))
  rw [withoutBoxingAfter, if_pos h, hstale]

theorem withoutBoxingAfter_of_not_boxes {ty : Ty} {next third : Conversion} {steps : List Conversion}
    (h : boxesForString ty next.target third.target = false) (hobject : next.target.primitive = false) :
    withoutBoxingAfter ty (next :: third :: steps) = next :: third :: withoutBoxingAfter third.target steps := by
  rw [withoutBoxingAfter, if_neg (by simp [h]), withoutBoxing_cons_of_not_primitive hobject, withoutBoxing_cons]

theorem splices (front steps : List Conversion) (ty : Ty) (h : (steps.map Conversion.target).Nodup) :
    Splices front steps ty := by
  induction hlength : steps.length using Nat.strong_induction_on generalizing front steps ty with
  | h n ih =>
    by_cases hprimitive : ty.primitive
    swap
    · exact splices_of_not_primitive (Bool.eq_false_iff.2 hprimitive) front steps
    obtain _ | ⟨next, steps⟩ := steps
    · refine ⟨[], [], ?_, rfl, List.suffix_refl _⟩
      rw [spliceFrom, dif_neg (by simp), List.append_nil, List.append_nil]
    rw [List.map_cons, List.nodup_cons] at h
    rw [List.length_cons] at hlength
    by_cases hnext : next.target ≠ ty.toBoxed ∨ steps = []
    · exact .of_step (spliceFrom_append_cons hprimitive front next steps hnext) (withoutBoxingAfter_cons hnext)
        (List.suffix_cons next steps) (ih steps.length (by omega) _ steps next.target h.2 rfl)
    · obtain ⟨hboxed, hsome⟩ := not_or.1 hnext
      rw [not_not] at hboxed
      obtain ⟨third, steps, rfl⟩ := List.exists_cons_of_ne_nil hsome
      obtain ⟨hnew, hrest⟩ := h
      rw [List.map_cons, List.nodup_cons] at hrest
      rw [List.length_cons] at hlength
      have hsuffix : steps <:+ next :: third :: steps := (List.suffix_cons third steps).trans (List.suffix_cons next _)
      have hstep := spliceFrom_append_cons_cons hprimitive front hboxed third steps
      by_cases hstring : third.target.isString && !third.target.primitive
      · have hboxes : boxesForString ty next.target third.target := by
          simpa [boxesForString, hprimitive, hboxed] using hstring
        rw [if_pos hstring] at hstep
        exact .of_step hstep (withoutBoxingAfter_of_boxes hboxes hnew) hsuffix
          (ih steps.length (by omega) _ steps ty hrest.2 rfl)
      · have hnot : boxesForString ty next.target third.target = false := by
          simpa [boxesForString, hprimitive, hboxed] using hstring
        have hobject : next.target.primitive = false := by rw [hboxed, Ty.toBoxed, if_pos hprimitive]
        rw [if_neg hstring] at hstep
        exact .of_step hstep (withoutBoxingAfter_of_not_boxes hnot hobject) hsuffix
          (ih steps.length (by omega) _ steps third.target hrest.2 rfl)

theorem spliceBoxing_eq (front steps : List Conversion) (h : (steps.map Conversion.target).Nodup) :
    spliceBoxing (front ++ steps) front.length = front ++ withoutBoxing steps := by
  induction hlength : steps.length using Nat.strong_induction_on generalizing front steps with
  | h n ih =>
    obtain _ | ⟨first, steps⟩ := steps
    · rw [spliceBoxing, dif_neg (by simp)]
      rfl
    · rw [List.map_cons, List.nodup_cons] at h
      obtain ⟨seen, rest, hsplice, hafter, hsuffix⟩ := splices (front ++ [first]) steps first.target h.2
      have hrest : (rest.map Conversion.target).Nodup := h.2.sublist (hsuffix.sublist.map _)
      have hless : rest.length < n := by
        have := hsuffix.length_le
        simp only [List.length_cons] at hlength
        omega
      rw [List.append_assoc, List.singleton_append, List.length_append, List.length_singleton] at hsplice
      rw [spliceBoxing, dif_pos (by simp)]
      simp only [List.getElem_append_right (Nat.le_refl _), Nat.sub_self, List.getElem_cons_zero, hsplice]
      rw [ih rest.length hless _ rest hrest rfl, withoutBoxing_cons, hafter]
      simp

/-- Reducing in place gives the reduced chain. -/
theorem reducedInPlace_eq (chain : Chain) : chain.reducedInPlace = chain.reduced := by
  have hsplice := spliceBoxing_eq [] _ (nodup_withoutDetours chain.steps)
  rw [reducedInPlace, cancelDetours_eq, reduced]
  exact congrArg Chain.mk hsplice

end TemplateTree.Chain
