import Mathlib.Data.List.Chain
import Mathlib.Data.List.Infix
import Mathlib.Data.List.Nodup
import Mathlib.Logic.Relation
import TemplateTree.Proofs.Chain.Fits

namespace TemplateTree.Chain

/-- One step of the reduction of a list of conversions. -/
inductive Shortens : List Conversion → List Conversion → Prop where
  /-- The way from a type back to itself is forgotten. -/
  | detour (front : List Conversion) (first : Conversion) (way : List Conversion) (last : Conversion)
      (rest : List Conversion) (hsame : first.target = last.target) :
      Shortens (front ++ first :: (way ++ last :: rest)) (front ++ first :: rest)
  /-- A primitive value becomes a string without being boxed. -/
  | boxing (front : List Conversion) (first boxed last : Conversion) (rest : List Conversion)
      (hboxes : boxesForString first.target boxed.target last.target) :
      Shortens (front ++ first :: boxed :: last :: rest)
        (front ++ first :: ⟨some first.target, last.target, false⟩ :: rest)

/-- A list is reduced to another in any number of steps. -/
abbrev ShortensTo : List Conversion → List Conversion → Prop := Relation.ReflTransGen Shortens

theorem boxesForString_iff {first boxed last : Ty} :
    boxesForString first boxed last ↔
      first.primitive ∧ boxed = first.toBoxed ∧ last.isString ∧ last.primitive = false := by
  simp [boxesForString, and_assoc]

theorem visit_of_mem {path : List Conversion} {step : Conversion} (h : step.target ∈ path.map Conversion.target) :
    ∃ front first way, path = front ++ first :: way ∧ first.target = step.target ∧
      visit path step = front ++ [first] := by
  obtain ⟨earlier, hearlier, hsame⟩ := List.mem_map.1 h
  cases hfound : path.findIdx? (·.target = step.target) with
  | none =>
    rw [List.findIdx?_eq_none_iff] at hfound
    simpa [hsame] using hfound earlier hearlier
  | some index =>
    obtain ⟨hlt, htarget, -⟩ := List.findIdx?_eq_some_iff_getElem.1 hfound
    refine ⟨path.take index, path[index], path.drop (index + 1), ?_, by simpa using htarget, ?_⟩
    · rw [List.cons_getElem_drop_succ, List.take_append_drop]
    · simp only [visit, hfound]
      exact (List.take_append_getElem hlt).symm

theorem visit_of_not_mem {path : List Conversion} {step : Conversion}
    (h : step.target ∉ path.map Conversion.target) : visit path step = path ++ [step] := by
  have hfound : path.findIdx? (·.target = step.target) = none := by
    rw [List.findIdx?_eq_none_iff]
    intro earlier hearlier
    have hne : earlier.target ≠ step.target := fun hsame => h (List.mem_map.2 ⟨earlier, hearlier, hsame⟩)
    simpa using hne
  simp only [visit, hfound]

theorem shortensTo_foldl_visit (path steps : List Conversion) : ShortensTo (path ++ steps) (steps.foldl visit path) := by
  induction steps generalizing path with
  | nil =>
    rw [List.append_nil]
    exact .refl
  | cons step rest ih =>
    by_cases hmem : step.target ∈ path.map Conversion.target
    · obtain ⟨front, first, way, rfl, hsame, hvisit⟩ := visit_of_mem hmem
      have hstep : Shortens ((front ++ first :: way) ++ step :: rest) ((front ++ [first]) ++ rest) := by
        simpa using Shortens.detour front first way step rest hsame
      rw [List.foldl_cons, hvisit]
      exact .head hstep (ih _)
    · rw [List.foldl_cons, visit_of_not_mem hmem]
      simpa using ih (path ++ [step])

theorem shortensTo_withoutBoxing (front steps : List Conversion) :
    ShortensTo (front ++ steps) (front ++ withoutBoxing steps) := by
  fun_induction withoutBoxing steps generalizing front with
  | case1 first boxed last rest hboxes ih =>
    have hstep := Shortens.boxing front first boxed last rest hboxes
    have hrest := ih (front ++ [first, ⟨some first.target, last.target, false⟩])
    simp only [List.append_assoc, List.cons_append, List.nil_append] at hrest
    exact .head hstep hrest
  | case2 first boxed last rest _ ih => simpa using ih (front ++ [first])
  | case3 => exact .refl

/-- The reduced chain is reached from the chain by forgetting detours and boxing, and by nothing else. -/
theorem shortensTo_reduced (chain : Chain) : ShortensTo chain.steps chain.reduced.steps :=
  (shortensTo_foldl_visit [] chain.steps).trans (shortensTo_withoutBoxing [] _)

/-- Each step leaves fewer conversions, so that there is an end to every sequence of them. -/
theorem Shortens.length_lt {steps steps' : List Conversion} (h : Shortens steps steps') :
    steps'.length < steps.length := by
  cases h with
  | detour front first way last rest =>
    simp only [List.length_append, List.length_cons]
    omega
  | boxing front first boxed last rest =>
    simp only [List.length_append, List.length_cons]
    omega

theorem Shortens.head?_eq {steps steps' : List Conversion} (h : Shortens steps steps') :
    steps'.head? = steps.head? := by
  cases h with
  | detour front => cases front <;> rfl
  | boxing front => cases front <;> rfl

/-- Each step leaves some of the targets in their order. -/
theorem Shortens.targets_sublist {steps steps' : List Conversion} (h : Shortens steps steps') :
    (steps'.map Conversion.target).Sublist (steps.map Conversion.target) := by
  cases h with
  | detour front first way last rest =>
    have hrest : rest.Sublist (way ++ last :: rest) :=
      (List.sublist_cons_self last rest).trans (List.sublist_append_right way _)
    exact ((hrest.cons_cons first).append_left front).map _
  | boxing front first boxed last rest =>
    simp only [List.map_append, List.map_cons]
    exact (((List.sublist_cons_self boxed.target _)).cons_cons first.target).append_left _

/-- Every conversion starts from the type that the one before it leads to, and the first from no type. -/
structure IsLinked (steps : List Conversion) : Prop where
  start : ∀ step ∈ steps.head?, step.source = none
  follow : steps.IsChain fun before after => after.source = some before.target

theorem Shortens.isLinked {steps steps' : List Conversion} (h : Shortens steps steps') (hlinked : IsLinked steps) :
    IsLinked steps' := by
  refine ⟨h.head?_eq ▸ hlinked.start, ?_⟩
  have hfollow := hlinked.follow
  cases h with
  | detour front first way last rest hsame =>
    rw [List.isChain_append] at hfollow ⊢
    obtain ⟨hfront, hback, hjoin⟩ := hfollow
    refine ⟨hfront, ?_, hjoin⟩
    rw [← List.cons_append, List.isChain_append] at hback
    have hrest := hback.2.1
    rw [List.isChain_cons] at hrest ⊢
    rwa [hsame]
  | boxing front first boxed last rest =>
    rw [List.isChain_append] at hfollow ⊢
    obtain ⟨hfront, hback, hjoin⟩ := hfollow
    refine ⟨hfront, ?_, hjoin⟩
    rw [List.isChain_cons_cons] at hback ⊢
    refine ⟨rfl, ?_⟩
    have hrest := (List.isChain_cons_cons.1 hback.2).2
    rw [List.isChain_cons] at hrest ⊢
    exact hrest

theorem ShortensTo.length_le {steps steps' : List Conversion} (h : ShortensTo steps steps') :
    steps'.length ≤ steps.length := by
  induction h with
  | refl => exact Nat.le_refl _
  | tail _ hstep ih => exact (Nat.le_of_lt hstep.length_lt).trans ih

theorem ShortensTo.head?_eq {steps steps' : List Conversion} (h : ShortensTo steps steps') :
    steps'.head? = steps.head? := by
  induction h with
  | refl => rfl
  | tail _ hstep ih => exact hstep.head?_eq.trans ih

theorem ShortensTo.targets_sublist {steps steps' : List Conversion} (h : ShortensTo steps steps') :
    (steps'.map Conversion.target).Sublist (steps.map Conversion.target) := by
  induction h with
  | refl => exact .refl _
  | tail _ hstep ih => exact hstep.targets_sublist.trans ih

theorem ShortensTo.ne_nil {steps steps' : List Conversion} (h : ShortensTo steps steps') (hne : steps ≠ []) :
    steps' ≠ [] := by
  intro hnil
  have hhead := h.head?_eq
  rw [hnil, List.head?_nil, eq_comm, List.head?_eq_none_iff] at hhead
  exact hne hhead

theorem ShortensTo.isLinked {steps steps' : List Conversion} (h : ShortensTo steps steps') (hlinked : IsLinked steps) :
    IsLinked steps' := by
  induction h with
  | refl => exact hlinked
  | tail _ hstep ih => exact hstep.isLinked ih

theorem nodup_visit {path : List Conversion} {step : Conversion} (h : (path.map Conversion.target).Nodup) :
    ((visit path step).map Conversion.target).Nodup := by
  by_cases hmem : step.target ∈ path.map Conversion.target
  · obtain ⟨front, first, way, rfl, -, hvisit⟩ := visit_of_mem hmem
    have hsublist : (front ++ [first]).Sublist (front ++ first :: way) :=
      .append_left (List.cons_sublist_cons.2 (List.nil_sublist way)) front
    rw [hvisit]
    exact h.sublist (hsublist.map _)
  · rw [visit_of_not_mem hmem, List.map_append]
    exact h.append (List.nodup_singleton _) (by simpa using hmem)

theorem nodup_foldl_visit (path steps : List Conversion) (h : (path.map Conversion.target).Nodup) :
    ((steps.foldl visit path).map Conversion.target).Nodup := by
  induction steps generalizing path with
  | nil => exact h
  | cons step rest ih => exact ih _ (nodup_visit h)

/-- Without detours no type is reached twice. -/
theorem nodup_withoutDetours (steps : List Conversion) : ((withoutDetours steps).map Conversion.target).Nodup :=
  nodup_foldl_visit [] steps List.nodup_nil

theorem foldl_visit_of_nodup (path steps : List Conversion) (h : ((path ++ steps).map Conversion.target).Nodup) :
    steps.foldl visit path = path ++ steps := by
  induction steps generalizing path with
  | nil => simp
  | cons step rest ih =>
    have hnew : step.target ∉ path.map Conversion.target := by
      rw [List.map_append, List.map_cons] at h
      exact fun hmem => (List.disjoint_of_nodup_append h) hmem List.mem_cons_self
    rw [List.foldl_cons, visit_of_not_mem hnew, ih _ (by simpa using h), List.append_assoc, List.singleton_append]

theorem withoutDetours_of_nodup {steps : List Conversion} (h : (steps.map Conversion.target).Nodup) :
    withoutDetours steps = steps :=
  foldl_visit_of_nodup [] steps h

/-- No primitive value is boxed only to become a string. -/
def NoBoxing (steps : List Conversion) : Prop :=
  ∀ first boxed last, [first, boxed, last] <:+: steps →
    boxesForString first.target boxed.target last.target = false

theorem NoBoxing.tail {step : Conversion} {steps : List Conversion} (h : NoBoxing (step :: steps)) : NoBoxing steps :=
  fun first boxed last hpart => h first boxed last (hpart.trans (List.suffix_cons step steps).isInfix)

/-- A list has the property if its first three conversions and the list after the first one have it. -/
theorem noBoxing_cons {step : Conversion} {steps : List Conversion}
    (hhead : ∀ boxed last rest, steps = boxed :: last :: rest →
      boxesForString step.target boxed.target last.target = false)
    (htail : NoBoxing steps) : NoBoxing (step :: steps) := by
  intro first boxed last hpart
  obtain hprefix | hpart := List.infix_cons_iff.1 hpart
  · obtain ⟨rest, hrest⟩ := hprefix
    simp only [List.cons_append, List.nil_append, List.cons.injEq] at hrest
    obtain ⟨rfl, hsteps⟩ := hrest
    exact hhead boxed last rest hsteps.symm
  · exact htail first boxed last hpart

theorem withoutBoxing_of_noBoxing {steps : List Conversion} (h : NoBoxing steps) : withoutBoxing steps = steps := by
  fun_induction withoutBoxing steps with
  | case1 first boxed last rest hboxes =>
    have hnot := h first boxed last ⟨[], rest, rfl⟩
    rw [hboxes] at hnot
    cases hnot
  | case2 first boxed last rest _ ih => rw [ih h.tail]
  | case3 => rfl

/-- What `withoutBoxing` does with a list that starts with a value that is not primitive. -/
theorem withoutBoxing_cons_of_not_primitive {step : Conversion} (h : step.target.primitive = false)
    (steps : List Conversion) : withoutBoxing (step :: steps) = step :: withoutBoxing steps := by
  cases steps with
  | nil => rfl
  | cons boxed steps =>
    cases steps with
    | nil => rfl
    | cons last rest =>
      have hnot : boxesForString step.target boxed.target last.target = false := by simp [boxesForString, h]
      rw [withoutBoxing, hnot]
      rfl

theorem noBoxing_withoutBoxing {steps : List Conversion} (h : (steps.map Conversion.target).Nodup) :
    NoBoxing (withoutBoxing steps) := by
  fun_induction withoutBoxing steps with
  | case1 first boxed last rest hboxes ih =>
    obtain ⟨-, hboxed, -, hlast⟩ := boxesForString_iff.1 hboxes
    simp only [List.map_cons, List.nodup_cons, List.mem_cons, not_or] at h
    refine noBoxing_cons ?_ (noBoxing_cons ?_ (ih h.2.2.2))
    · rintro _ _ _ hsteps
      obtain ⟨rfl, -⟩ := List.cons.inj hsteps
      have hne : last.target ≠ first.target.toBoxed := hboxed ▸ Ne.symm h.2.1.1
      simp [boxesForString, hne]
    · rintro _ _ _ -
      simp [boxesForString, hlast]
  | case2 first boxed last rest hboxes ih =>
    refine noBoxing_cons ?_ (ih (List.nodup_cons.1 h).2)
    rintro boxed' last' rest' hsteps
    rw [Bool.eq_false_iff]
    intro hboxes'
    obtain ⟨hprimitive, hboxed', -, -⟩ := boxesForString_iff.1 hboxes'
    have hhead := (shortensTo_withoutBoxing [] (boxed :: last :: rest)).head?_eq
    have hsame : boxed' = boxed := by simpa [hsteps] using hhead
    have hnot : boxed.target.primitive = false := by
      rw [← hsame, hboxed', Ty.toBoxed, if_pos hprimitive]
    rw [withoutBoxing_cons_of_not_primitive hnot] at hsteps
    have hlast := (shortensTo_withoutBoxing [] (last :: rest)).head?_eq
    have hsame' : last' = last := by simpa [(List.cons.inj hsteps).2] using hlast
    exact hboxes (hsame ▸ hsame' ▸ hboxes')
  | case3 steps hshort =>
    intro first boxed last hpart
    have hlength := hpart.length_le
    obtain _ | ⟨a, _ | ⟨b, _ | ⟨c, rest⟩⟩⟩ := steps
    · simp at hlength
    · simp at hlength
    · simp at hlength
    · exact absurd rfl (hshort a b c rest)

theorem nodup_reduced (chain : Chain) : (chain.reduced.steps.map Conversion.target).Nodup :=
  (nodup_withoutDetours chain.steps).sublist (shortensTo_withoutBoxing [] _).targets_sublist

theorem noBoxing_reduced (chain : Chain) : NoBoxing chain.reduced.steps :=
  noBoxing_withoutBoxing (nodup_withoutDetours chain.steps)

/-- A reduced chain cannot be reduced further. -/
theorem reduced_reduced (chain : Chain) : chain.reduced.reduced = chain.reduced := by
  have hsteps : chain.reduced.reduced.steps = chain.reduced.steps := by
    change withoutBoxing (withoutDetours chain.reduced.steps) = chain.reduced.steps
    rw [withoutDetours_of_nodup chain.nodup_reduced, withoutBoxing_of_noBoxing chain.noBoxing_reduced]
  exact congrArg Chain.mk hsteps

/-- Reduction is a normalisation of every chain, whatever its types and flags are and whether it is
    linked or not. The reduced chain is reached by forgetting detours and boxing for strings, each of which
    leaves fewer conversions; it has nothing of either left, and reducing it again changes nothing. It
    starts with the same conversion and ends in the same type, and it is linked where the chain is. -/
theorem shortensTo_reduced_and_nodup_targets (chain : Chain) :
    ShortensTo chain.steps chain.reduced.steps ∧
      (chain.reduced.steps.map Conversion.target).Nodup ∧
      (∀ first boxed last, [first, boxed, last] <:+: chain.reduced.steps → first.target.primitive →
        boxed.target = first.target.toBoxed → ¬(last.target.isString ∧ last.target.primitive = false)) ∧
      chain.reduced.ty? = chain.ty? ∧ chain.reduced.initialTy? = chain.initialTy? ∧
      chain.reduced.steps.head? = chain.steps.head? ∧
      chain.reduced.steps.length ≤ chain.steps.length ∧
      (IsLinked chain.steps → IsLinked chain.reduced.steps) ∧
      chain.reduced.reduced = chain.reduced := by
  have hshort := chain.shortensTo_reduced
  refine ⟨hshort, chain.nodup_reduced, ?_, chain.reduced_ty?, ?_, hshort.head?_eq, hshort.length_le, hshort.isLinked,
    chain.reduced_reduced⟩
  · intro first boxed last hpart hprimitive hboxed hstring
    have hboxes : boxesForString first.target boxed.target last.target :=
      boxesForString_iff.2 ⟨hprimitive, hboxed, hstring⟩
    rw [chain.noBoxing_reduced first boxed last hpart] at hboxes
    cases hboxes
  · exact congrArg (Option.map Conversion.target) hshort.head?_eq

/-- The way over `long` is a detour, and the boxed integer is only made for the string. -/
example :
    (⟨[⟨none, .int, true⟩, ⟨some .int, .long, true⟩, ⟨some .long, .int, true⟩, ⟨some .int, Ty.int.toBoxed, true⟩,
        ⟨some Ty.int.toBoxed, .string, false⟩]⟩ : Chain).reduced =
      ⟨[⟨none, .int, true⟩, ⟨some .int, .string, false⟩]⟩ := by
  decide

end TemplateTree.Chain
