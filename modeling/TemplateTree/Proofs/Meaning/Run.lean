import TemplateTree.Proofs.Meaning.Plain

namespace TemplateTree

/-- Where a run has got to: what each variable holds, and what happened. -/
structure State (κ : Type) where
  store : κ → Value
  trace : Trace

/-- A run, which changes variables and adds to the trace. -/
abbrev Run (κ : Type) := Machine (State κ)

variable {κ : Type}

/-- The value of each reference, given which variable it stands for. -/
def State.env (key : VarRef → κ) (state : State κ) : Env := fun ref => state.store (key ref)

/-- How a statement ends when nothing goes wrong. -/
inductive Signal where
  | next
  | broke
  | returned (value : Option Value)

namespace Run

variable (key : VarRef → κ)

/-- Evaluates something in the variables as they are. -/
def evaluate {α : Type} (x : Env → Eval α) : Run κ α :=
  ExceptT.mk fun state =>
    let (result, trace) := (x (state.env key)).runFrom state.trace
    (result, ⟨state.store, trace⟩)

/-- Gives the variable of a reference a value. -/
def assign [DecidableEq κ] (target : VarRef) (value : Value) : Run κ Unit :=
  modify fun state =>
    ⟨fun other => if other = key target then value else state.store other,
      state.trace ++ [.assign target value]⟩

/-- Leaves a mark where the block of a caller goes. -/
def substitute : Run κ Unit := modify fun state => ⟨state.store, state.trace ++ [.substitute]⟩

/-- Runs the second part unless the first one broke off or returned. -/
def andThen (x y : Run κ Signal) : Run κ Signal := do
  match ← x with
  | .next => y
  | signal => return signal

/-- Runs the replacement exactly if the guarded part faults. What the guarded part did up to there
    stays done. -/
def rescue (x replacement : Run κ Signal) : Run κ Signal :=
  tryCatch x fun abort =>
    match abort with
    | .fault => replacement
    | .stuck => throw .stuck

/-- The integers from the first to the last. -/
def ascending (first last : Int32) : List Int32 :=
  (List.range (last.toInt - first.toInt + 1).toNat).map fun k => Int32.ofInt (first.toInt + k)

variable [DecidableEq κ]

/-- Runs a loop body once for each value. A break ends the loop. -/
def forEach (loopVar : VarRef) (body : Run κ Signal) : List Int32 → Run κ Signal
  | [] => return .next
  | n :: rest => do
    assign key loopVar (.number (.int n))
    match ← body with
    | .next => forEach loopVar body rest
    | .broke => return .next
    | .returned value => return .returned value

/-- A loop over an integer range, upward or, in reverse, downward. Over an empty range the body does
    not run, but the loop variable still gets the value that it would start with. -/
def overRange (loopVar : VarRef) (reverse : Bool) (body : Run κ Signal) (first last : Int32) : Run κ Signal :=
  if last < first then do
    assign key loopVar (.number (.int (if reverse then last else first)))
    return .next
  else forEach key loopVar body (if reverse then (ascending first last).reverse else ascending first last)

end Run

section

variable [DecidableEq κ] (key : VarRef → κ) (oracle : Oracle)

mutual

/-- Runs a statement. -/
def Stmt.run : Stmt → Run κ Signal
  | .empty _ => return .next
  | .list _ statements => runAll statements
  | .block b => b.run
  | .assign _ target e => do
    Run.assign key target (← Run.evaluate key fun env => e.eval env oracle)
    return .next
  | .breakLoop _ => return .broke
  | .forEach _ loopVar range rangeEnd reverse initializer body =>
    match rangeEnd with
    | none => throw .stuck
    | some rangeEnd => do
      let first ← Run.evaluate key fun env => range.eval env oracle
      let last ← Run.evaluate key fun env => rangeEnd.eval env oracle
      match first, last with
      | .number (.int first), .number (.int last) =>
        Run.andThen (runOptional initializer) (Run.overRange key loopVar reverse (runPart body) first last)
      | _, _ => throw .stuck
  | .cond _ condition thenPart elsePart _ => do
    match ← Run.evaluate key fun env => condition.eval env oracle with
    | .boolean true => runPart thenPart
    | .boolean false => runPart elsePart
    | _ => throw .stuck
  | .substitution _ => do
    Run.substitute
    return .next
  | .eval _ e => do
    let _ ← Run.evaluate key fun env => e.eval env oracle
    return .next
  | .ret _ value =>
    match value with
    | none => return .returned none
    | some e => do return .returned (some (← Run.evaluate key fun env => e.eval env oracle))
  | .guarded _ guarded replacement => Run.rescue (runOptional guarded) (runOptional replacement)

/-- Runs statements one after another. -/
def runAll : List Stmt → Run κ Signal
  | [] => return .next
  | s :: rest => Run.andThen s.run (runAll rest)

/-- Runs a statement that may be missing. -/
def runOptional : Option Stmt → Run κ Signal
  | none => return .next
  | some s => s.run

/-- Runs a block: its initializer, its statements, its finalizer. -/
def Block.run : Block → Run κ Signal
  | ⟨_, statements, initializer, finalizer⟩ =>
    Run.andThen (runOptional initializer) (Run.andThen (runAll statements) (runOptional finalizer))

/-- Runs a block that may be missing. -/
def runPart : Option Block → Run κ Signal
  | none => return .next
  | some b => b.run

end

end

attribute [local simp] Stmt.run Block.run runAll runOptional runPart

namespace Machine

variable {σ α β : Type} {I : σ → Prop} {P : α → Prop} {Q : β → Prop}

/-- From every state that satisfies the invariant the two computations do the same. They keep the
    invariant, and they fault or end with a result that satisfies `P`. -/
def Matches (I : σ → Prop) (P : α → Prop) (x y : Machine σ α) : Prop :=
  ∀ state, I state → y.runFrom state = x.runFrom state ∧ I (x.runFrom state).2 ∧
    match (x.runFrom state).1 with
    | .ok a => P a
    | .error abort => abort = .fault

theorem matches_pure {a : α} (h : P a) : Matches I P (pure a) (pure a) := fun _ hstate => ⟨rfl, hstate, h⟩

theorem Matches.bind {x y : Machine σ α} {f g : α → Machine σ β} (hxy : Matches I P x y)
    (hfg : ∀ a, P a → Matches I Q (f a) (g a)) : Matches I Q (x >>= f) (y >>= g) := by
  intro state hstate
  obtain ⟨hsame, hinvariant, hresult⟩ := hxy state hstate
  rw [runFrom_bind, runFrom_bind, hsame]
  rcases hrun : x.runFrom state with ⟨result, rest⟩
  rw [hrun] at hinvariant hresult
  cases result with
  | error abort => exact ⟨rfl, hinvariant, hresult⟩
  | ok a => exact hfg a hresult rest hinvariant

end Machine

namespace Run

open Machine (Matches matches_pure)

/-- The variables of a state have values within a scope. -/
def Within (scope : κ → Value → Prop) (state : State κ) : Prop := ∀ k, scope k (state.store k)

variable {key : VarRef → κ} {scope : κ → Value → Prop} {α : Type} {P : α → Prop}

theorem Within.env_respects {state : State κ} (h : Within scope state) :
    (state.env key).Respects fun ref => scope (key ref) :=
  fun ref => h (key ref)

theorem runFrom_evaluate (x : Env → Eval α) (state : State κ) :
    (evaluate key x).runFrom state =
      (((x (state.env key)).runFrom state.trace).1, ⟨state.store, ((x (state.env key)).runFrom state.trace).2⟩) := rfl

theorem evaluate_pure (a : α) : evaluate key (fun _ => pure a) = pure a := rfl

theorem evaluate_bind {β : Type} (x : Env → Eval α) (f : α → Eval β) :
    evaluate key (fun env => x env >>= f) = evaluate key x >>= fun a => evaluate key fun _ => f a := by
  apply Machine.runFrom_injective
  intro state
  rw [Machine.runFrom_bind, runFrom_evaluate, runFrom_evaluate, Machine.runFrom_bind]
  rcases (x (state.env key)).runFrom state.trace with ⟨result, trace⟩
  cases result <;> rfl

/-- Evaluations that agree within the scope match. -/
theorem matches_evaluate {x y : Env → Eval α}
    (hsame : ∀ env, env.Respects (fun ref => scope (key ref)) → y env = x env)
    (hyields : ∀ env, env.Respects (fun ref => scope (key ref)) → (x env).Yields P) :
    Matches (Within scope) P (evaluate key x) (evaluate key y) := by
  intro state hstate
  rw [runFrom_evaluate, runFrom_evaluate, hsame _ hstate.env_respects]
  exact ⟨rfl, hstate, hyields _ hstate.env_respects state.trace⟩

theorem matches_substitute : Matches (Within scope) (fun _ => True) substitute substitute :=
  fun _ hstate => ⟨rfl, hstate, trivial⟩

/-- Two statements do the same wherever the variables are within the scope. -/
abbrev Same (scope : κ → Value → Prop) (x y : Run κ Signal) : Prop := Matches (Within scope) (fun _ => True) x y

theorem andThen_next (x : Run κ Signal) : andThen x (pure .next) = x := by
  have hsignal : ∀ signal : Signal, (match signal with
      | .next => pure .next
      | signal => pure signal : Run κ Signal) = pure signal := by
    intro signal
    cases signal <;> rfl
  unfold andThen
  simp only [hsignal, bind_pure]

theorem Same.andThen {x x' y y' : Run κ Signal} (hx : Same scope x x') (hy : Same scope y y') :
    Same scope (andThen x y) (andThen x' y') := by
  refine hx.bind fun signal _ => ?_
  cases signal with
  | next => exact hy
  | broke => exact matches_pure trivial
  | returned value => exact matches_pure trivial

theorem runFrom_rescue (x replacement : Run κ Signal) (state : State κ) :
    (rescue x replacement).runFrom state =
      match x.runFrom state with
      | (.error .fault, state) => replacement.runFrom state
      | ended => ended := by
  unfold rescue Machine.runFrom ExceptT.run StateT.run
  simp only [tryCatch, tryCatchThe, MonadExceptOf.tryCatch, ExceptT.tryCatch, ExceptT.mk, bind, StateT.bind]
  rcases x state with ⟨result, rest⟩
  rcases result with abort | signal
  · cases abort <;> rfl
  · rfl

theorem Same.rescue {x x' y y' : Run κ Signal} (hx : Same scope x x') (hy : Same scope y y') :
    Same scope (rescue x y) (rescue x' y') := by
  intro state hstate
  obtain ⟨hsame, hinvariant, hresult⟩ := hx state hstate
  rw [runFrom_rescue, runFrom_rescue, hsame]
  rcases hrun : x.runFrom state with ⟨result, rest⟩
  rw [hrun] at hinvariant hresult
  rcases result with abort | signal
  · cases hresult
    exact hy rest hinvariant
  · exact ⟨rfl, hinvariant, trivial⟩

variable [DecidableEq κ]

theorem matches_assign {target : VarRef} {value : Value} (h : scope (key target) value) :
    Matches (Within scope) (fun _ => True) (assign key target value) (assign key target value) := by
  intro state hstate
  refine ⟨rfl, ?_, trivial⟩
  intro other
  change scope other (if other = key target then value else state.store other)
  split
  next hother => exact hother ▸ h
  next => exact hstate other

theorem Same.forEach {loopVar : VarRef} {body body' : Run κ Signal}
    (hloopVar : ∀ n, scope (key loopVar) (.number (.int n))) (hbody : Same scope body body') (values : List Int32) :
    Same scope (forEach key loopVar body values) (forEach key loopVar body' values) := by
  induction values with
  | nil => exact matches_pure trivial
  | cons n rest ih =>
    refine (matches_assign (hloopVar n)).bind fun _ _ => hbody.bind fun signal _ => ?_
    cases signal with
    | next => exact ih
    | broke => exact matches_pure trivial
    | returned value => exact matches_pure trivial

theorem Same.overRange {loopVar : VarRef} {reverse : Bool} {body body' : Run κ Signal} {first last : Int32}
    (hloopVar : ∀ n, scope (key loopVar) (.number (.int n))) (hbody : ¬ last < first → Same scope body body') :
    Same scope (overRange key loopVar reverse body first last) (overRange key loopVar reverse body' first last) := by
  unfold Run.overRange
  split
  next => exact (matches_assign (hloopVar _)).bind fun _ _ => matches_pure trivial
  next hrange => exact Same.forEach hloopVar (hbody hrange) _

end Run

end TemplateTree
