import TemplateTree.Chain

namespace TemplateTree.Chain

/-- Appends a step to a list of steps, or goes back to where its target was reached before. -/
def visit (path : List Conversion) (step : Conversion) : List Conversion :=
  match path.findIdx? (·.target = step.target) with
  | some index => path.take (index + 1)
  | none => path ++ [step]

/-- The steps without the detours between two visits of one type. -/
def withoutDetours (steps : List Conversion) : List Conversion := steps.foldl visit []

/-- The steps `first`, `boxed`, `last` only box a primitive value to make it a string. -/
def boxesForString (first boxed last : Ty) : Bool :=
  first.primitive && boxed = first.toBoxed && last.isString && !last.primitive

/-- The steps with every primitive value made a string without being boxed. -/
def withoutBoxing : List Conversion → List Conversion
  | first :: boxed :: last :: rest =>
    if boxesForString first.target boxed.target last.target then
      first :: ⟨some first.target, last.target, false⟩ :: withoutBoxing rest
    else first :: withoutBoxing (boxed :: last :: rest)
  | steps => steps

/-- The chain without detours and without boxing for strings. Both leave its start and its end as they
    are; a way over other types that never comes back to one is kept. -/
def reduced (chain : Chain) : Chain := ⟨withoutBoxing (withoutDetours chain.steps)⟩

/-- The first two places in a list whose steps have one target: the least first place, and for it the
    least second one. -/
def repeat? (steps : List Conversion) : Option (Nat × Nat) :=
  (List.range steps.length).findSome? fun start =>
    ((List.range' (start + 1) (steps.length - (start + 1))).find? fun stop =>
      steps[start]?.map Conversion.target = steps[stop]?.map Conversion.target).map fun stop => (start, stop)

/-- Removes the steps after one place up to another. -/
def drained (steps : List Conversion) (start stop : Nat) : List Conversion :=
  steps.take (start + 1) ++ steps.drop (stop + 1)

theorem repeat?_bounds {steps : List Conversion} {start stop : Nat} (h : repeat? steps = some (start, stop)) :
    start < stop ∧ stop < steps.length := by
  obtain ⟨start', -, hstart⟩ := List.exists_of_findSome?_eq_some h
  obtain ⟨stop', hstop, heq⟩ := Option.map_eq_some_iff.1 hstart
  obtain ⟨rfl, rfl⟩ := Prod.mk.inj heq
  have hmem := List.mem_range'_1.1 (List.mem_of_find?_eq_some hstop)
  omega

theorem length_drained_lt {steps : List Conversion} {start stop : Nat} (h : start < stop ∧ stop < steps.length) :
    (drained steps start stop).length < steps.length := by
  rw [drained, List.length_append, List.length_take, List.length_drop]
  omega

/-- Removes what lies between two steps with one target as long as there are any. -/
def cancelDetours (steps : List Conversion) : List Conversion :=
  match _h : repeat? steps with
  | none => steps
  | some (start, stop) => cancelDetours (drained steps start stop)
termination_by steps.length
decreasing_by exact length_drained_lt (repeat?_bounds _h)

/-- Goes on from a value of the given type at the place of the next step, as long as the value is
    primitive, and makes it a string at once where it would be boxed first. After that the type is
    still the one from which the string was made. The result has the place of the first step that was
    not looked at. -/
def spliceFrom (steps : List Conversion) (cursor : Nat) (ty : Ty) : List Conversion × Nat :=
  if h : ty.primitive ∧ cursor < steps.length then
    let next := steps[cursor].target
    if hlast : ty.toBoxed ≠ next ∨ steps.length ≤ cursor + 1 then spliceFrom steps (cursor + 1) next
    else
      let third := (steps.get ⟨cursor + 1, by omega⟩).target
      if third.isString && !third.primitive then
        spliceFrom (steps.take cursor ++ ⟨some ty, third, false⟩ :: steps.drop (cursor + 2)) (cursor + 1) ty
      else spliceFrom steps (cursor + 2) third
  else (steps, cursor)
termination_by steps.length - cursor
decreasing_by
  · omega
  · simp only [List.length_append, List.length_take, List.length_cons, List.length_drop]
    omega
  · omega

theorem spliceFrom_le (steps : List Conversion) (cursor : Nat) (ty : Ty) :
    (spliceFrom steps cursor ty).1.length - (spliceFrom steps cursor ty).2 ≤ steps.length - cursor := by
  fun_induction spliceFrom steps cursor ty with
  | case1 => omega
  | case2 =>
    simp only [List.length_append, List.length_take, List.length_cons, List.length_drop] at *
    omega
  | case3 => omega
  | case4 => exact Nat.le_refl _

/-- Looks for primitive values from a place on. -/
def spliceBoxing (steps : List Conversion) (cursor : Nat) : List Conversion :=
  if h : cursor < steps.length then
    let next := spliceFrom steps (cursor + 1) steps[cursor].target
    spliceBoxing next.1 next.2
  else steps
termination_by steps.length - cursor
decreasing_by
  have := spliceFrom_le steps (cursor + 1) steps[cursor].target
  omega

/-- The chain as it is reduced in place, by places in its list of steps. -/
def reducedInPlace (chain : Chain) : Chain := ⟨spliceBoxing (cancelDetours chain.steps) 0⟩

end TemplateTree.Chain
