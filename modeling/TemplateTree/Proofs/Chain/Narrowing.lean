import TemplateTree.Proofs.Chain.Replay
import TemplateTree.Proofs.Meaning.Width

namespace TemplateTree

namespace Number

/-- The number read in the width of an integer type. Other types leave it alone. -/
def readIn (n : Number) (ty : Ty) : Number :=
  match ty.kind with
  | .int => .int n.toInt32
  | .long => .long n.toInt64
  | _ => n

/-- What is left of a number in the width of `int`. -/
def narrowed (n : Number) : Number := .int n.toInt32

/-- The number can be written as an `int`. -/
def FitsInt (n : Number) : Prop := -2 ^ 31 ≤ n.toInt64.toInt ∧ n.toInt64.toInt < 2 ^ 31

theorem readIn_of_int {ty : Ty} (h : ty.kind = .int) (n : Number) : n.readIn ty = n.narrowed := by
  simp only [readIn, h, narrowed]

theorem readIn_of_long {ty : Ty} (h : ty.kind = .long) (n : Number) : n.readIn ty = .long n.toInt64 := by
  simp only [readIn, h]

theorem narrowed_narrowed (n : Number) : n.narrowed.narrowed = n.narrowed := rfl

/-- Widening keeps the lower half of an integer. -/
theorem toInt32_long_toInt64 {n : Number} (hn : n.isInteger) : (Number.long n.toInt64).toInt32 = n.toInt32 := by
  cases n with
  | int a => exact a.toInt32_toInt64
  | long a => rfl
  | float | double => cases hn

/-- Reading twice is reading once, of what the first reading leaves. -/
theorem readIn_readIn {n : Number} (hn : n.isInteger) {first second : Ty}
    (hfirst : first.kind = .int ∨ first.kind = .long) (hsecond : second.kind = .int ∨ second.kind = .long) :
    (n.readIn first).readIn second = (if first.kind = .int then n.narrowed else n).readIn second := by
  obtain hfirst | hfirst := hfirst
  · rw [if_pos hfirst, readIn_of_int hfirst]
  · rw [if_neg (by simp [hfirst]), readIn_of_long hfirst]
    obtain hsecond | hsecond := hsecond
    · rw [readIn_of_int hsecond, readIn_of_int hsecond, narrowed, narrowed, toInt32_long_toInt64 hn]
    · rw [readIn_of_long hsecond, readIn_of_long hsecond]
      rfl

theorem toInt_narrowed (n : Number) : n.narrowed.toInt64.toInt = n.toInt32.toInt := n.toInt32.toInt_toInt64

/-- Nothing of a number is lost by narrowing it exactly if it fits. -/
theorem toInt64_narrowed_eq_iff {n : Number} (hn : n.isInteger) : n.narrowed.toInt64 = n.toInt64 ↔ n.FitsInt := by
  unfold FitsInt
  constructor
  · intro hsame
    rw [← hsame, toInt_narrowed]
    exact ⟨n.toInt32.le_toInt, n.toInt32.toInt_lt⟩
  · rintro ⟨hlow, hhigh⟩
    cases n with
    | int a => rfl
    | long a =>
      rw [← Int64.toInt_inj, toInt_narrowed]
      exact a.toInt_toInt32.trans (Width.int_wrap_eq_self hlow hhigh)
    | float | double => cases hn

end Number

namespace Chain

/-- The number that some conversions lead to: each target in turn reads what the one before it left. -/
def readThrough (steps : List Conversion) (n : Number) : Number :=
  steps.foldl (fun n step => n.readIn step.target) n

/-- The number that a chain leads to. -/
def read (chain : Chain) (n : Number) : Number := readThrough chain.steps n

/-- One of the conversions reads the number as an `int`. -/
def Narrows (steps : List Conversion) : Prop := ∃ step ∈ steps, step.target.kind = .int

instance (steps : List Conversion) : Decidable (Narrows steps) :=
  inferInstanceAs (Decidable (∃ step ∈ steps, step.target.kind = .int))

/-- What is left of a number on the way through some conversions, before the last of them reads it. -/
def leftover (steps : List Conversion) (n : Number) : Number := if Narrows steps then n.narrowed else n

theorem isInteger_leftover {n : Number} (hn : n.isInteger) (steps : List Conversion) :
    (leftover steps n).isInteger := by
  unfold leftover
  split
  next => rfl
  next => exact hn

theorem Narrows.ne_nil {steps : List Conversion} (h : Narrows steps) : steps ≠ [] := by
  obtain ⟨step, hstep, -⟩ := h
  exact List.ne_nil_of_mem hstep

theorem narrows_concat {steps : List Conversion} {step : Conversion} :
    Narrows (steps ++ [step]) ↔ Narrows steps ∨ step.target.kind = .int := by
  simp [Narrows, or_and_right, exists_or]

theorem exists_mem_of_lastTarget? {steps : List Conversion} {ty : Ty} (h : lastTarget? steps = some ty) :
    ∃ step ∈ steps, step.target = ty := by
  obtain ⟨step, hstep, rfl⟩ := Option.map_eq_some_iff.1 h
  exact ⟨step, List.mem_of_getLast? hstep, rfl⟩

/-- The last reading narrows by itself, so that it does not matter whether it counts among those before it. -/
theorem readIn_leftover_concat (steps : List Conversion) (step : Conversion) (n : Number) :
    (leftover (steps ++ [step]) n).readIn step.target = (leftover steps n).readIn step.target := by
  unfold leftover
  by_cases hnarrows : Narrows steps
  · rw [if_pos hnarrows, if_pos (narrows_concat.2 (.inl hnarrows))]
  · by_cases hint : step.target.kind = .int
    · rw [if_neg hnarrows, if_pos (narrows_concat.2 (.inr hint)), Number.readIn_of_int hint, Number.readIn_of_int hint,
        Number.narrowed_narrowed]
    · rw [if_neg hnarrows, if_neg (by rw [narrows_concat]; exact not_or.2 ⟨hnarrows, hint⟩)]

/-- Of a way through integer types, the number that it leads to shows whether it narrows and where it ends. -/
theorem readThrough_eq {n : Number} (hn : n.isInteger) {steps : List Conversion}
    (hsteps : ∀ step ∈ steps, step.target.kind = .int ∨ step.target.kind = .long) :
    readThrough steps n = ((lastTarget? steps).map (leftover steps n).readIn).getD n := by
  induction steps using List.reverseRecOn with
  | nil => rfl
  | append_singleton steps step ih =>
    rw [List.forall_mem_append, List.forall_mem_singleton] at hsteps
    have hlast : lastTarget? (steps ++ [step]) = some step.target := by simp [lastTarget?]
    rw [readThrough, List.foldl_append, hlast, Option.map_some, Option.getD_some, readIn_leftover_concat]
    change (readThrough steps n).readIn step.target = _
    rw [ih hsteps.1]
    cases hbefore : lastTarget? steps with
    | none =>
      have hnil : steps = [] := by simpa [lastTarget?] using hbefore
      subst hnil
      rfl
    | some ty =>
      obtain ⟨before, hmem, rfl⟩ := exists_mem_of_lastTarget? hbefore
      rw [Option.map_some, Option.getD_some,
        Number.readIn_readIn (isInteger_leftover hn steps) (hsteps.1 before hmem) hsteps.2]
      by_cases hint : before.target.kind = .int
      · have hnarrows : Narrows steps := ⟨before, hmem, hint⟩
        rw [if_pos hint, leftover, if_pos hnarrows, Number.narrowed_narrowed]
      · rw [if_neg hint]

/-- Reduction adds no targets. -/
theorem exists_mem_of_mem_reduced {chain : Chain} {step : Conversion} (h : step ∈ chain.reduced.steps) :
    ∃ step' ∈ chain.steps, step'.target = step.target :=
  List.mem_map.1 (chain.shortensTo_reduced.targets_sublist.subset (List.mem_map_of_mem h))

theorem Narrows.of_reduced {chain : Chain} (h : Narrows chain.reduced.steps) : Narrows chain.steps := by
  obtain ⟨step, hstep, hint⟩ := h
  obtain ⟨step', hstep', hsame⟩ := exists_mem_of_mem_reduced hstep
  exact ⟨step', hstep', by rw [hsame, hint]⟩

/-- A way without narrowing ends in a `long`. -/
theorem kind_of_not_narrows {steps : List Conversion} {ty : Ty} (h : lastTarget? steps = some ty)
    (hsteps : ∀ step ∈ steps, step.target.kind = .int ∨ step.target.kind = .long) (hnarrows : ¬Narrows steps) :
    ty.kind = .long := by
  obtain ⟨step, hstep, rfl⟩ := exists_mem_of_lastTarget? h
  exact (hsteps step hstep).resolve_left fun hint => hnarrows ⟨step, hstep, hint⟩

/-- A reduced chain leads to the same number if it narrows where the chain does, and otherwise exactly for the
    numbers that narrowing does not change. -/
theorem read_reduced_eq_iff {chain : Chain} {n : Number} (hn : n.isInteger)
    (hsteps : ∀ step ∈ chain.steps, step.target.kind = .int ∨ step.target.kind = .long) :
    chain.reduced.read n = chain.read n ↔ n.FitsInt ∨ (Narrows chain.steps → Narrows chain.reduced.steps) := by
  have hreduced : ∀ step ∈ chain.reduced.steps, step.target.kind = .int ∨ step.target.kind = .long := by
    intro step hstep
    obtain ⟨step', hstep', hsame⟩ := exists_mem_of_mem_reduced hstep
    exact hsame ▸ hsteps step' hstep'
  have hlast : lastTarget? chain.reduced.steps = lastTarget? chain.steps := chain.reduced_ty?
  rw [read, read, readThrough_eq hn hsteps, readThrough_eq hn hreduced, hlast]
  by_cases hlost : Narrows chain.steps → Narrows chain.reduced.steps
  · have hleftover : leftover chain.reduced.steps n = leftover chain.steps n := by
      have hiff : Narrows chain.reduced.steps ↔ Narrows chain.steps := ⟨.of_reduced, hlost⟩
      simp only [leftover, hiff]
    rw [hleftover]
    exact iff_of_true rfl (.inr hlost)
  · obtain ⟨hnarrows, hnot⟩ := Classical.not_imp.1 hlost
    obtain ⟨ty, hty⟩ : ∃ ty, lastTarget? chain.steps = some ty := by
      rw [lastTarget?, List.getLast?_eq_some_getLast hnarrows.ne_nil]
      exact ⟨_, rfl⟩
    have hlong := kind_of_not_narrows (hlast.trans hty) hreduced hnot
    rw [hty, Option.map_some, Option.map_some, Option.getD_some, Option.getD_some, leftover, leftover, if_neg hnot,
      if_pos hnarrows, Number.readIn_of_long hlong, Number.readIn_of_long hlong, Number.long.injEq, eq_comm,
      Number.toInt64_narrowed_eq_iff hn]
    exact ⟨.inl, fun h => h.resolve_right hlost⟩

/-- Distinct members with the same first and last have just one. -/
theorem eq_singleton_of_nodup {α : Type} {as : List α} {a : α} (hnodup : as.Nodup) (hhead : as.head? = some a)
    (hlast : as.getLast? = some a) : as = [a] := by
  cases as with
  | nil => cases hhead
  | cons b rest =>
    cases hhead
    rw [List.getLast?_cons] at hlast
    cases hrest : rest.getLast? with
    | none => rw [List.getLast?_eq_none_iff.1 hrest]
    | some c =>
      rw [hrest, Option.getD_some, Option.some.injEq] at hlast
      subst hlast
      exact absurd (List.mem_of_getLast? hrest) (List.nodup_cons.1 hnodup).1

/-- A chain through `int` and `long` loses its narrowing exactly if it starts and ends in `long`: all of it is one
    detour then. -/
theorem keeps_narrowing_iff {chain : Chain} (hsteps : ∀ step ∈ chain.steps, step.target = .int ∨ step.target = .long) :
    (Narrows chain.steps → Narrows chain.reduced.steps) ↔
      ¬(Narrows chain.steps ∧ chain.initialTy? = some .long ∧ chain.ty? = some .long) := by
  have hhead : (chain.reduced.steps.map Conversion.target).head? = chain.initialTy? := by
    rw [List.head?_map, chain.shortensTo_reduced.head?_eq, initialTy?]
  have hlast : (chain.reduced.steps.map Conversion.target).getLast? = chain.ty? := by
    rw [List.getLast?_map]
    exact chain.reduced_ty?
  constructor
  · rintro hkeeps ⟨hnarrows, hinitial, hty⟩
    have htargets := eq_singleton_of_nodup chain.nodup_reduced (hhead.trans hinitial) (hlast.trans hty)
    obtain ⟨step, hstep, hint⟩ := hkeeps hnarrows
    have hlong : step.target = .long := by
      rw [← List.mem_singleton, ← htargets]
      exact List.mem_map_of_mem hstep
    rw [hlong] at hint
    cases hint
  · intro hends hnarrows
    by_contra hnot
    have hlong : ∀ ty ∈ chain.reduced.steps.map Conversion.target, ty = .long := by
      intro ty hty
      obtain ⟨step, hstep, rfl⟩ := List.mem_map.1 hty
      obtain ⟨step', hstep', hsame⟩ := exists_mem_of_mem_reduced hstep
      refine (hsame ▸ hsteps step' hstep').resolve_left fun hint => hnot ⟨step, hstep, ?_⟩
      rw [hint]
      rfl
    have hne : chain.reduced.steps.map Conversion.target ≠ [] := by
      rw [ne_eq, List.map_eq_nil_iff]
      exact chain.shortensTo_reduced.ne_nil hnarrows.ne_nil
    refine hends ⟨hnarrows, ?_, ?_⟩
    · rw [← hhead, List.head?_eq_some_head hne, hlong _ (List.head_mem hne)]
    · rw [← hlast, List.getLast?_eq_some_getLast hne, hlong _ (List.getLast_mem hne)]

/-- When a reduced chain leads to the same number, for every chain through integer types and every integer: the number
    fits into an `int`, or the reduced chain narrows it if the chain does. With `int` and `long` in their
    primitive form only chains that start and end in `long` and narrow the number in between lose that. -/
theorem read_reduced_eq_iff_narrows {chain : Chain} {n : Number} (hn : n.isInteger)
    (hsteps : ∀ step ∈ chain.steps, step.target.kind = .int ∨ step.target.kind = .long) :
    (chain.reduced.read n = chain.read n ↔ n.FitsInt ∨ (Narrows chain.steps → Narrows chain.reduced.steps)) ∧
      ((∀ step ∈ chain.steps, step.target = .int ∨ step.target = .long) →
        (chain.reduced.read n = chain.read n ↔
          n.FitsInt ∨ ¬(Narrows chain.steps ∧ chain.initialTy? = some .long ∧ chain.ty? = some .long))) := by
  have hreads := read_reduced_eq_iff hn hsteps
  refine ⟨hreads, fun hplain => ?_⟩
  rw [hreads, keeps_narrowing_iff hplain]

/-- A way from `long` to `int` and back. -/
def narrowingWay : Chain := ⟨[⟨none, .long, true⟩, ⟨some .long, .int, true⟩, ⟨some .int, .long, true⟩]⟩

/-- The least `int` passes it unchanged, and the reduced chain as well. -/
theorem narrowingWay_read_reduced_eq :
    (Number.long (-2147483648)).FitsInt ∧
      narrowingWay.reduced.read (.long (-2147483648)) = narrowingWay.read (.long (-2147483648)) := by
  have hsteps : ∀ step ∈ narrowingWay.steps, step.target.kind = .int ∨ step.target.kind = .long := by decide
  have hfits : (Number.long (-2147483648)).FitsInt := by
    unfold Number.FitsInt
    decide
  exact ⟨hfits, (read_reduced_eq_iff_narrows rfl hsteps).1.2 (.inl hfits)⟩

/-- Of a larger number it leaves the lower half, while the reduced chain leaves it as it is. -/
theorem narrowingWay_read_reduced_ne :
    ofRequests .long [(.int, true), (.long, true)] = narrowingWay ∧
      narrowingWay.read (.long 4294967297) = .long 1 ∧
      narrowingWay.reduced.read (.long 4294967297) = .long 4294967297 := by
  decide

end Chain

end TemplateTree
