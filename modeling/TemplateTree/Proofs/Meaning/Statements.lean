import TemplateTree.Proofs.Meaning.Fold
import TemplateTree.Proofs.Meaning.Run

namespace TemplateTree

/-- Statements over plain expressions. Conditions are truth values, and loops run over integers. -/
inductive Stmt.Plain : Stmt → Prop
  | empty {span : Span} : Plain (.empty span)
  | list {span : Span} {statements : List Stmt} (hstatements : ∀ s ∈ statements, Plain s) :
    Plain (.list span statements)
  | block {span : Span} {statements : List Stmt} {initializer finalizer : Option Stmt}
    (hinitializer : ∀ s, initializer = some s → Plain s) (hstatements : ∀ s ∈ statements, Plain s)
    (hfinalizer : ∀ s, finalizer = some s → Plain s) : Plain (.block ⟨span, statements, initializer, finalizer⟩)
  | assign {span : Span} {target : VarRef} {e : Expr} {ty : Ty} (he : e.Plain ty) : Plain (.assign span target e)
  | breakLoop {span : Span} : Plain (.breakLoop span)
  | forEach {span : Span} {loopVar : VarRef} {range rangeEnd : Expr} {reverse : Bool} {initializer : Option Stmt}
    {body : Option Block} (hrange : range.Plain .int) (hrangeEnd : rangeEnd.Plain .int)
    (hinitializer : ∀ s, initializer = some s → Plain s) (hbody : ∀ b, body = some b → Plain (.block b)) :
    Plain (.forEach span loopVar range (some rangeEnd) reverse initializer body)
  | cond {span : Span} {condition : Expr} {thenPart elsePart : Option Block} {merged : Option (List Variable)}
    (hcondition : condition.Plain .boolean) (hthen : ∀ b, thenPart = some b → Plain (.block b))
    (helse : ∀ b, elsePart = some b → Plain (.block b)) : Plain (.cond span condition thenPart elsePart merged)
  | substitution {span : Span} : Plain (.substitution span)
  | eval {span : Span} {e : Expr} {ty : Ty} (he : e.Plain ty) : Plain (.eval span e)
  | ret {span : Span} {value : Option Expr} (hvalue : ∀ e, value = some e → ∃ ty, e.Plain ty) :
    Plain (.ret span value)
  | guarded {span : Span} {part replacement : Option Stmt} (hpart : ∀ s, part = some s → Plain s)
    (hreplacement : ∀ s, replacement = some s → Plain s) : Plain (.guarded span part replacement)

/-- The types in a statement agree with a scope. -/
def Stmt.InScope (s : Stmt) (scope : Scope) : Prop := s.Every (Node.InScope scope)

/-- The types in a block agree with a scope. -/
def Block.InScope (b : Block) (scope : Scope) : Prop := b.Every (Node.InScope scope)

variable {κ : Type} {key : VarRef → κ}

/-- Whatever calls return, `y` does what `x` does wherever the variables are within a scope that is as
    asked. -/
structure RunsAs (key : VarRef → κ) (asked : Scope → Prop) (x y : Oracle → Run κ Signal) : Prop where
  same {scope : κ → Value → Prop} {oracle : Oracle} :
    asked (fun ref => scope (key ref)) → oracle.Respects → Run.Same scope (x oracle) (y oracle)

theorem RunsAs.trans_eq {asked : Scope → Prop} {x y z : Oracle → Run κ Signal} (h : RunsAs key asked x y)
    (heq : ∀ oracle, z oracle = y oracle) : RunsAs key asked x z where
  same {_ oracle} hasked horacle := by
    rw [heq oracle]
    exact h.same hasked horacle

open Machine (matches_pure)

namespace Expr

/-- A plain expression can be evaluated in place of one of the same meaning. -/
theorem Plain.matches_evaluate {e e' : Expr} {ty : Ty} {scope : κ → Value → Prop} {oracle : Oracle}
    (h : e.Plain ty) (hmeaning : SameMeaning e e') (hscope : e.InScope fun ref => scope (key ref))
    (horacle : oracle.Respects) :
    Machine.Matches (Run.Within scope) ty.Holds (Run.evaluate key fun env => e.eval env oracle)
      (Run.evaluate key fun env => e'.eval env oracle) :=
  Run.matches_evaluate (fun _ henv => hmeaning.eval_eq hscope henv horacle)
    fun _ henv => h.yields hscope henv horacle

end Expr

variable [DecidableEq κ]

namespace Folding

/-- The pass succeeds on a statement, and what is left runs the same. -/
def KeepsRun (key : VarRef → κ) (s : Stmt) : Prop :=
  ∃ s'?, s.fold.result = .ok s'? ∧
    RunsAs key s.InScope (fun oracle => s.run key oracle) fun oracle => runOptional key oracle s'?

theorem foldOptionalStmt_runsAs {s? : Option Stmt} (h : ∀ s, s? = some s → KeepsRun key s) :
    ∃ s'?, (foldOptionalStmt s?).result = .ok s'? ∧
      RunsAs key (fun scope => ∀ s, s? = some s → s.InScope scope) (fun oracle => runOptional key oracle s?)
        fun oracle => runOptional key oracle s'? := by
  cases s? with
  | none => exact ⟨none, rfl, ⟨fun _ _ => matches_pure trivial⟩⟩
  | some s =>
    obtain ⟨s'?, hfold, hruns⟩ := h s rfl
    exact ⟨s'?, hfold, ⟨fun hscope horacle => hruns.same (hscope s rfl) horacle⟩⟩

theorem foldStmts_runsAs {ss : List Stmt} (h : ∀ s ∈ ss, KeepsRun key s) :
    ∃ ss', (foldStmts ss).result = .ok ss' ∧
      RunsAs key (fun scope => ∀ s ∈ ss, s.InScope scope) (fun oracle => runAll key oracle ss)
        fun oracle => runAll key oracle ss' := by
  induction ss with
  | nil => exact ⟨[], rfl, ⟨fun _ _ => matches_pure trivial⟩⟩
  | cons s rest ih =>
    obtain ⟨s'?, hfold, hruns⟩ := h s List.mem_cons_self
    obtain ⟨rest', hfoldRest, hrunsRest⟩ := ih fun s hs => h s (List.mem_cons_of_mem _ hs)
    have hboth : RunsAs key (fun scope => ∀ member ∈ s :: rest, member.InScope scope)
        (fun oracle => runAll key oracle (s :: rest))
        fun oracle => Run.andThen (runOptional key oracle s'?) (runAll key oracle rest') := by
      refine ⟨fun hscope horacle => ?_⟩
      obtain ⟨hs, hrest⟩ := List.forall_mem_cons.1 hscope
      exact (hruns.same hs horacle).andThen (hrunsRest.same hrest horacle)
    rw [foldStmts, Logged.bind_result_of_ok hfold, Logged.bind_result_of_ok hfoldRest]
    cases s'? with
    | some s' => exact ⟨s' :: rest', rfl, hboth⟩
    | none => exact ⟨rest', rfl, hboth⟩

/-- A block that stands as a statement is folded like any other. -/
theorem block_runsAs {b : Block} (h : KeepsRun key (.block b)) :
    ∃ b'?, b.fold.result = .ok b'? ∧
      RunsAs key b.InScope (fun oracle => b.run key oracle) fun oracle => runPart key oracle b'? := by
  obtain ⟨s'?, hfold, hruns⟩ := h
  rw [Stmt.fold, Logged.bind_result_eq_ok_iff] at hfold
  obtain ⟨b'?, hfold, hs⟩ := hfold
  cases hs
  refine ⟨b'?, hfold, ⟨fun hscope horacle => ?_⟩⟩
  have hsame := hruns.same (Stmt.every_block.2 ⟨trivial, hscope⟩) horacle
  cases b'? with
  | none => exact hsame
  | some b' => exact hsame

theorem foldPart_runsAs {b? : Option Block} (h : ∀ b, b? = some b → KeepsRun key (.block b)) :
    ∃ b'?, (foldPart b?).result = .ok b'? ∧
      RunsAs key (fun scope => ∀ b, b? = some b → b.InScope scope) (fun oracle => runPart key oracle b?)
        fun oracle => runPart key oracle b'? := by
  cases b? with
  | none => exact ⟨none, rfl, ⟨fun _ _ => matches_pure trivial⟩⟩
  | some b =>
    obtain ⟨b'?, hfold, hruns⟩ := block_runsAs (h b rfl)
    exact ⟨b'?, hfold, ⟨fun hscope horacle => hruns.same (hscope b rfl) horacle⟩⟩

theorem foldOptionalBody_runsAs {b? : Option Block} (h : ∀ b, b? = some b → KeepsRun key (.block b)) :
    ∃ b'?, (foldOptionalBody b?).result = .ok b'? ∧
      RunsAs key (fun scope => ∀ b, b? = some b → b.InScope scope) (fun oracle => runPart key oracle b?)
        fun oracle => runPart key oracle b'? := by
  cases b? with
  | none => exact ⟨none, rfl, ⟨fun _ _ => matches_pure trivial⟩⟩
  | some b =>
    obtain ⟨b'?, hfold, hruns⟩ := block_runsAs (h b rfl)
    refine ⟨some (b'?.getD (.empty b.span)), ?_, ⟨fun hscope horacle => ?_⟩⟩
    · rw [foldOptionalBody, Logged.bind_result_of_ok hfold]
      rfl
    · have hsame := hruns.same (hscope b rfl) horacle
      cases b'? with
      | some b' => exact hsame
      | none => exact hsame

/-- A list of statements runs the same when it is cut down to what it needs. -/
theorem foldList_run (key : VarRef → κ) (span : Span) (statements : List Stmt) :
    ∃ s'?, (Stmt.foldList span statements).result = .ok s'? ∧
      ∀ oracle, runOptional key oracle s'? = runAll key oracle statements := by
  rcases statements with _ | ⟨s, _ | ⟨s', rest⟩⟩
  · exact ⟨none, rfl, fun _ => rfl⟩
  · exact ⟨some s, rfl, fun oracle => (Run.andThen_next (s.run key oracle)).symm⟩
  · exact ⟨_, rfl, fun _ => rfl⟩

/-- A block of nothing can be left out. -/
theorem foldEmpty_run (key : VarRef → κ) (b : Block) :
    ∃ b'?, b.foldEmpty.result = .ok b'? ∧ ∀ oracle, runPart key oracle b'? = b.run key oracle := by
  obtain ⟨span, statements, initializer, finalizer⟩ := b
  unfold Block.foldEmpty
  split
  next hempty =>
    simp only [Block.isEmpty, Bool.and_eq_true, List.isEmpty_iff, Option.isNone_iff_eq_none] at hempty
    obtain ⟨⟨rfl, rfl⟩, rfl⟩ := hempty
    exact ⟨none, rfl, fun _ => rfl⟩
  next => exact ⟨_, rfl, fun _ => rfl⟩

theorem block_keepsRun {span : Span} {statements : List Stmt} {initializer finalizer : Option Stmt}
    (hinitializer : ∀ s, initializer = some s → KeepsRun key s) (hstatements : ∀ s ∈ statements, KeepsRun key s)
    (hfinalizer : ∀ s, finalizer = some s → KeepsRun key s) :
    KeepsRun key (.block ⟨span, statements, initializer, finalizer⟩) := by
  obtain ⟨initializer', hfoldFirst, hrunsFirst⟩ := foldOptionalStmt_runsAs hinitializer
  obtain ⟨statements', hfold, hruns⟩ := foldStmts_runsAs hstatements
  obtain ⟨finalizer', hfoldLast, hrunsLast⟩ := foldOptionalStmt_runsAs hfinalizer
  obtain ⟨b'?, hempty, hrun⟩ := foldEmpty_run key ⟨span, statements', initializer', finalizer'⟩
  have hsame : RunsAs key (Stmt.block ⟨span, statements, initializer, finalizer⟩).InScope
      (fun oracle => (Stmt.block ⟨span, statements, initializer, finalizer⟩).run key oracle)
      fun oracle => (Block.mk span statements' initializer' finalizer').run key oracle := by
    refine ⟨fun hscope horacle => ?_⟩
    obtain ⟨-, hfirst, hmiddle, hlast⟩ := Block.every_mk.1 (Stmt.every_block.1 hscope).2
    exact (hrunsFirst.same hfirst horacle).andThen ((hruns.same hmiddle horacle).andThen (hrunsLast.same hlast horacle))
  refine ⟨b'?.map .block, ?_, hsame.trans_eq fun oracle => ?_⟩
  · rw [Stmt.fold, Block.fold, Logged.bind_result_of_ok (a := b'?)]
    · rfl
    · rw [Logged.bind_result_of_ok hfoldFirst, Logged.bind_result_of_ok hfold, Logged.bind_result_of_ok hfoldLast,
        hempty]
  · rw [← hrun oracle]
    cases b'? <;> rfl

theorem list_keepsRun {span : Span} {statements : List Stmt} (hstatements : ∀ s ∈ statements, KeepsRun key s) :
    KeepsRun key (.list span statements) := by
  obtain ⟨statements', hfold, hruns⟩ := foldStmts_runsAs hstatements
  obtain ⟨s'?, hlist, hrun⟩ := foldList_run key span statements'
  have hsame : RunsAs key (Stmt.list span statements).InScope (fun oracle => (Stmt.list span statements).run key oracle)
      fun oracle => runAll key oracle statements' :=
    ⟨fun hscope horacle => hruns.same (Stmt.every_list.1 hscope).2 horacle⟩
  refine ⟨s'?, ?_, hsame.trans_eq hrun⟩
  rw [Stmt.fold, Logged.bind_result_of_ok hfold, hlist]

theorem guarded_keepsRun {span : Span} {part replacement : Option Stmt} (hpart : ∀ s, part = some s → KeepsRun key s)
    (hreplacement : ∀ s, replacement = some s → KeepsRun key s) : KeepsRun key (.guarded span part replacement) := by
  obtain ⟨part', hfold, hruns⟩ := foldOptionalStmt_runsAs hpart
  obtain ⟨replacement', hfoldOther, hrunsOther⟩ := foldOptionalStmt_runsAs hreplacement
  refine ⟨some (.guarded span part' replacement'), ?_, ⟨fun hscope horacle => ?_⟩⟩
  · rw [Stmt.fold, Logged.bind_result_of_ok hfold, Logged.bind_result_of_ok hfoldOther]
    rfl
  · obtain ⟨-, hpart, hreplacement⟩ := Stmt.every_guarded.1 hscope
    exact (hruns.same hpart horacle).rescue (hrunsOther.same hreplacement horacle)

/-- A condition that is known leaves one part of a conditional. -/
theorem cond_run_of_known {oracle : Oracle} {span : Span} {condition : Expr} {thenPart elsePart : Option Block}
    {merged : Option (List Variable)} {b : Bool} (hplain : condition.Plain .boolean)
    (hknown : condition.knownBoolean? = some b) :
    (Stmt.cond span condition thenPart elsePart merged).run key oracle =
      runPart key oracle (if b then thenPart else elsePart) := by
  have heval : ∀ env, condition.eval env oracle = pure (.boolean b) := fun env =>
    hplain.eval_of_known (Expr.knownBoolean?_eq_some_iff.1 hknown)
  rw [Stmt.run]
  simp only [heval, Run.evaluate_pure, pure_bind]
  cases b <;> rfl

/-- A conditional with just a second part runs the same turned around. -/
theorem cond_run_turned (oracle : Oracle) (span : Span) (head : Head) (condition : Expr) (part : Block)
    (merged : Option (List Variable)) :
    (Stmt.cond span (.unary head .not condition) (some part) none merged).run key oracle =
      (Stmt.cond span condition none (some part) merged).run key oracle := by
  rw [Stmt.run, Stmt.run]
  simp only [Expr.eval_not, Run.evaluate_bind, bind_assoc]
  congr 1
  funext value
  rcases value with _ | b | _ | _
  · rfl
  · cases b <;> rfl
  · rfl
  · rfl

theorem cond_keepsRun {span : Span} {condition : Expr} {thenPart elsePart : Option Block}
    {merged : Option (List Variable)} (hcondition : condition.Plain .boolean)
    (hthen : ∀ b, thenPart = some b → KeepsRun key (.block b))
    (helse : ∀ b, elsePart = some b → KeepsRun key (.block b)) :
    KeepsRun key (.cond span condition thenPart elsePart merged) := by
  obtain ⟨condition', hfold, hplain, hmeaning⟩ := hcondition.fold_refined.keepingTy hcondition
  obtain ⟨thenPart', hfoldThen, hrunsThen⟩ := foldPart_runsAs hthen
  obtain ⟨elsePart', hfoldElse, hrunsElse⟩ := foldPart_runsAs helse
  have hsame : RunsAs key (Stmt.cond span condition thenPart elsePart merged).InScope
      (fun oracle => (Stmt.cond span condition thenPart elsePart merged).run key oracle)
      fun oracle => (Stmt.cond span condition' thenPart' elsePart' merged).run key oracle := by
    refine ⟨fun hscope horacle => ?_⟩
    obtain ⟨-, hscopeCondition, hscopeThen, hscopeElse⟩ := Stmt.every_cond.1 hscope
    refine (hcondition.matches_evaluate hmeaning hscopeCondition horacle).bind fun value hvalue => ?_
    cases hvalue with
    | boolean b =>
      cases b with
      | true => exact hrunsThen.same hscopeThen horacle
      | false => exact hrunsElse.same hscopeElse horacle
  unfold KeepsRun
  rw [Stmt.fold, Logged.bind_result_of_ok hfold]
  cases hdecided : Stmt.decided? condition' with
  | some b =>
    have hknown : condition'.knownBoolean? = some b := by
      unfold Stmt.decided? at hdecided
      split at hdecided
      next => exact hdecided
      next => cases hdecided
    cases b with
    | true =>
      refine ⟨thenPart'.map .block, ?_, hsame.trans_eq fun oracle => ?_⟩
      · rw [applied_bind_result, Logged.bind_result_of_ok hfoldThen]
        rfl
      · rw [cond_run_of_known hplain hknown]
        cases thenPart' <;> rfl
    | false =>
      refine ⟨elsePart'.map .block, ?_, hsame.trans_eq fun oracle => ?_⟩
      · rw [applied_bind_result, Logged.bind_result_of_ok hfoldElse]
        rfl
      · rw [cond_run_of_known hplain hknown]
        cases elsePart' <;> rfl
  | none =>
    rw [Logged.bind_result_of_ok hfoldThen, Logged.bind_result_of_ok hfoldElse]
    cases thenPart' with
    | some part => exact ⟨_, rfl, hsame⟩
    | none =>
      cases elsePart' with
      | none => exact ⟨_, rfl, hsame⟩
      | some part =>
        rw [Logged.bind_result_of_ok (a := .cond span (.unary (.natural condition'.span .boolean) .not condition')
          (some part) none merged)]
        · exact ⟨_, rfl, hsame.trans_eq fun oracle => cond_run_turned oracle span _ condition' part merged⟩
        · rw [Stmt.foldCond, applied_bind_result, negated_plain hplain]
          rfl

/-- The bounds of a range that is known to be empty. -/
theorem eval_of_isEmptyRange {range rangeEnd : Expr} (hrange : range.Plain .int) (hrangeEnd : rangeEnd.Plain .int)
    (h : Stmt.isEmptyRange range (some rangeEnd)) :
    ∃ first last : Int32, last < first ∧ ∀ env oracle, range.eval env oracle = pure (.number (.int first)) ∧
      rangeEnd.eval env oracle = pure (.number (.int last)) := by
  unfold Stmt.isEmptyRange at h
  split at h
  next first last hfirst hlast =>
    have hfirst := Expr.knownNumber?_eq_some_iff.1 hfirst
    have hlast := Expr.knownNumber?_eq_some_iff.1 hlast
    have hfirstHolds := (hrange.holds_of_known hfirst).2
    have hlastHolds := (hrangeEnd.holds_of_known hlast).2
    cases hfirstHolds with
    | int first =>
      cases hlastHolds with
      | int last =>
        exact ⟨first, last, of_decide_eq_true h, fun env oracle =>
          ⟨hrange.eval_of_known hfirst, hrangeEnd.eval_of_known hlast⟩⟩
  next => cases h

/-- The body of a loop over an empty range does not matter. -/
theorem forEach_run_of_isEmptyRange {oracle : Oracle} {span : Span} {loopVar : VarRef} {range rangeEnd : Expr}
    {reverse : Bool} {initializer : Option Stmt} (body body' : Option Block) (hrange : range.Plain .int)
    (hrangeEnd : rangeEnd.Plain .int) (h : Stmt.isEmptyRange range (some rangeEnd)) :
    (Stmt.forEach span loopVar range (some rangeEnd) reverse initializer body').run key oracle =
      (Stmt.forEach span loopVar range (some rangeEnd) reverse initializer body).run key oracle := by
  obtain ⟨first, last, hempty, heval⟩ := eval_of_isEmptyRange hrange hrangeEnd h
  have hfirst : ∀ env, range.eval env oracle = pure (.number (.int first)) := fun env => (heval env oracle).1
  have hlast : ∀ env, rangeEnd.eval env oracle = pure (.number (.int last)) := fun env => (heval env oracle).2
  rw [Stmt.run, Stmt.run]
  simp only [hfirst, hlast, Run.evaluate_pure, pure_bind, Run.overRange, if_pos hempty]

theorem forEach_keepsRun {span : Span} {loopVar : VarRef} {range rangeEnd : Expr} {reverse : Bool}
    {initializer : Option Stmt} {body : Option Block} (hrange : range.Plain .int) (hrangeEnd : rangeEnd.Plain .int)
    (hinitializer : ∀ s, initializer = some s → KeepsRun key s) (hbody : ∀ b, body = some b → KeepsRun key (.block b)) :
    KeepsRun key (.forEach span loopVar range (some rangeEnd) reverse initializer body) := by
  obtain ⟨range', hfoldRange, hplain, hmeaning⟩ := hrange.fold_refined.keepingTy hrange
  obtain ⟨rangeEnd', hfoldEnd, hplainEnd, hmeaningEnd⟩ := hrangeEnd.fold_refined.keepingTy hrangeEnd
  obtain ⟨initializer', hfoldFirst, hrunsFirst⟩ := foldOptionalStmt_runsAs hinitializer
  obtain ⟨body', hfoldBody, hrunsBody⟩ := foldOptionalBody_runsAs hbody
  have hsame : RunsAs key (Stmt.forEach span loopVar range (some rangeEnd) reverse initializer body).InScope
      (fun oracle => (Stmt.forEach span loopVar range (some rangeEnd) reverse initializer body).run key oracle)
      fun oracle => (Stmt.forEach span loopVar range' (some rangeEnd') reverse initializer' body').run key oracle := by
    refine ⟨fun hscope horacle => ?_⟩
    obtain ⟨hname, -, hscopeRange, hscopeEnd, hscopeFirst, hscopeBody⟩ := Stmt.every_forEach.1 hscope
    refine (hrange.matches_evaluate hmeaning hscopeRange horacle).bind fun first hfirst => ?_
    refine (hrangeEnd.matches_evaluate hmeaningEnd (hscopeEnd _ rfl) horacle).bind fun last hlast => ?_
    cases hfirst with
    | int first =>
      cases hlast with
      | int last =>
        have hinitializer := hrunsFirst.same hscopeFirst horacle
        exact hinitializer.andThen (.overRange hname fun _ => hrunsBody.same hscopeBody horacle)
  unfold KeepsRun
  rw [Stmt.fold, Logged.bind_result_of_ok hfoldRange, foldOptionalExpr, bind_assoc, Logged.bind_result_of_ok hfoldEnd,
    pure_bind, Logged.bind_result_of_ok hfoldFirst, Logged.bind_result_of_ok hfoldBody]
  split
  next hempty =>
    exact ⟨_, rfl, hsame.trans_eq fun oracle => forEach_run_of_isEmptyRange body' none hplain hplainEnd hempty⟩
  next => exact ⟨_, rfl, hsame⟩

theorem assign_keepsRun {span : Span} {target : VarRef} {e : Expr} {ty : Ty} (he : e.Plain ty) :
    KeepsRun key (.assign span target e) := by
  obtain ⟨e', hfold, -, hmeaning⟩ := he.fold_refined.keepingTy he
  refine ⟨some (.assign span target e'), ?_, ⟨fun hscope horacle => ?_⟩⟩
  · rw [Stmt.fold, Logged.bind_result_of_ok hfold]
    rfl
  · obtain ⟨htarget, -, hscopeValue⟩ := Stmt.every_assign.1 hscope
    refine (he.matches_evaluate hmeaning hscopeValue horacle).bind fun value hvalue => ?_
    exact (Run.matches_assign (htarget ty he.ty?_eq value hvalue)).bind fun _ _ => matches_pure trivial

theorem eval_keepsRun {span : Span} {e : Expr} {ty : Ty} (he : e.Plain ty) : KeepsRun key (.eval span e) := by
  obtain ⟨e', hfold, -, hmeaning⟩ := he.fold_refined.keepingTy he
  refine ⟨some (.eval span e'), ?_, ⟨fun hscope horacle => ?_⟩⟩
  · rw [Stmt.fold, Logged.bind_result_of_ok hfold]
    rfl
  · exact (he.matches_evaluate hmeaning (Stmt.every_eval.1 hscope).2 horacle).bind fun _ _ => matches_pure trivial

theorem ret_keepsRun {span : Span} {value : Option Expr} (hvalue : ∀ e, value = some e → ∃ ty, e.Plain ty) :
    KeepsRun key (.ret span value) := by
  cases value with
  | none => exact ⟨some (.ret span none), rfl, ⟨fun _ _ => matches_pure trivial⟩⟩
  | some e =>
    obtain ⟨ty, he⟩ := hvalue e rfl
    obtain ⟨e', hfold, -, hmeaning⟩ := he.fold_refined.keepingTy he
    refine ⟨some (.ret span (some e')), ?_, ⟨fun hscope horacle => ?_⟩⟩
    · rw [Stmt.fold, foldOptionalExpr, bind_assoc, Logged.bind_result_of_ok hfold]
      rfl
    · have hscopeValue := (Stmt.every_ret.1 hscope).2 e rfl
      exact (he.matches_evaluate hmeaning hscopeValue horacle).bind fun _ _ => matches_pure trivial

end Folding

/-- The pass succeeds on a plain statement, and what is left of it runs the same. -/
theorem Stmt.Plain.keepsRun {s : Stmt} (h : s.Plain) : Folding.KeepsRun key s := by
  induction h with
  | empty => exact ⟨none, rfl, ⟨fun _ _ => matches_pure trivial⟩⟩
  | list _ ih => exact Folding.list_keepsRun ih
  | block _ _ _ ihInitializer ihStatements ihFinalizer =>
    exact Folding.block_keepsRun ihInitializer ihStatements ihFinalizer
  | assign he => exact Folding.assign_keepsRun he
  | @breakLoop span => exact ⟨some (.breakLoop span), rfl, ⟨fun _ _ => matches_pure trivial⟩⟩
  | forEach hrange hrangeEnd _ _ ihInitializer ihBody =>
    exact Folding.forEach_keepsRun hrange hrangeEnd ihInitializer ihBody
  | cond hcondition _ _ ihThen ihElse => exact Folding.cond_keepsRun hcondition ihThen ihElse
  | @substitution span =>
    exact ⟨some (.substitution span), rfl,
      ⟨fun _ _ => Run.matches_substitute.bind fun _ _ => matches_pure trivial⟩⟩
  | eval he => exact Folding.eval_keepsRun he
  | ret hvalue => exact Folding.ret_keepsRun hvalue
  | guarded _ _ ihPart ihReplacement => exact Folding.guarded_keepsRun ihPart ihReplacement

namespace Template

/-- The body of the template is plain. -/
def Plain (t : Template) : Prop := ∀ s, t.body = some s → s.Plain

/-- The types in the body of the template agree with a scope. -/
def InScope (t : Template) (scope : Scope) : Prop := ∀ s, t.body = some s → s.InScope scope

/-- Runs the body of the template, given which variable each reference stands for. -/
def run (key : VarRef → κ) (oracle : Oracle) (t : Template) : Run κ Signal := runOptional key oracle t.body

/-- Folding a plain template succeeds. Whichever variable each reference stands for, from every state in
    which the variables have values of their types, and whatever values of their types calls return, what
    is left of the template runs as the template does: it ends the same way, normally, at a break, at a
    return of the same value or with a fault, and it leaves the same variables and the same trace. Neither
    is ever stuck. -/
theorem Plain.runFrom_run_fold {t : Template} (h : t.Plain) (key : VarRef → κ) :
    ∃ t', t.fold.result = .ok t' ∧
      ∀ (scope : κ → Value → Prop) (oracle : Oracle) (state : State κ), t.InScope (fun ref => scope (key ref)) →
        Run.Within scope state → oracle.Respects →
        (t'.run key oracle).runFrom state = (t.run key oracle).runFrom state ∧
          ((t.run key oracle).runFrom state).1 ≠ .error .stuck := by
  have hbody : ∀ s, t.body = some s → Folding.KeepsRun key s := fun s hs => (h s hs).keepsRun
  obtain ⟨body', hfold, hruns⟩ := Folding.foldOptionalStmt_runsAs hbody
  refine ⟨{ t with body := body' }, ?_, fun scope oracle state hscope hstate horacle => ?_⟩
  · rw [fold, Logged.bind_result_of_ok hfold]
    rfl
  · obtain ⟨hsame, -, hresult⟩ := hruns.same hscope horacle state hstate
    refine ⟨hsame, fun hstuck => ?_⟩
    change ((runOptional key oracle t.body).runFrom state).1 = .error .stuck at hstuck
    rw [hstuck] at hresult
    cases hresult

/-- The template `foreach (i in 1..limit) { if (ready(i)) { } else { break } } return 10 / i`. -/
def firstUnready : Template :=
  let integer (name : String) : Expr := .varRef (.natural default .int) ⟨⟨default, name⟩, none⟩
  let ready : Expr := .call (.natural default .boolean) .function ⟨⟨default, "ready"⟩, false, none⟩ default
    [integer "i"] none none
  let body : Block := ⟨default,
    [.cond default ready (some ⟨default, [.empty default], none, none⟩)
      (some ⟨default, [.breakLoop default], none, none⟩) none], none, none⟩
  let loop : Stmt := .forEach default ⟨⟨default, "i"⟩, none⟩ (.ofNumber default (.int 1)) (some (integer "limit"))
    false none (some body)
  let result : Expr := .binary (.natural default .int) .arithmetic ⟨.div, default⟩ (.ofNumber default (.int 10))
    (integer "i")
  ⟨default, default, [], false, some (.list default [loop, .ret default (some result)]), none⟩

theorem plain_firstUnready : firstUnready.Plain := by
  have hnumber : ∀ n, (Expr.ofNumber default (.int n)).Plain .int := fun n => .literal (.int n)
  have hinteger : ∀ ref, (Expr.varRef (.natural default .int) ref).Plain .int := fun ref => .varRef (by decide)
  intro s hs
  obtain rfl := Option.some.inj hs
  refine .list (List.forall_mem_cons.2 ⟨.forEach (hnumber 1) (hinteger _) (by simp) ?_, ?_⟩)
  · intro b hb
    obtain rfl := Option.some.inj hb
    refine .block (by simp) (List.forall_mem_singleton.2 (.cond ?_ ?_ ?_)) (by simp)
    · exact Expr.call_plain (by decide) (List.forall_mem_singleton.2 ⟨.int, hinteger _⟩)
    · intro b hb
      obtain rfl := Option.some.inj hb
      exact .block (by simp) (List.forall_mem_singleton.2 .empty) (by simp)
    · intro b hb
      obtain rfl := Option.some.inj hb
      exact .block (by simp) (List.forall_mem_singleton.2 .breakLoop) (by simp)
  · refine List.forall_mem_singleton.2 (.ret ?_)
    intro e he
    obtain rfl := Option.some.inj he
    exact ⟨.int, .arithmetic (by decide) rfl (hnumber 10) (hinteger _)⟩

theorem inScope_firstUnready : firstUnready.InScope .integers := by
  intro s hs
  obtain rfl := Option.some.inj hs
  refine Stmt.every_list.2 ⟨trivial, List.forall_mem_cons.2 ⟨Stmt.every_forEach.2 ?_, ?_⟩⟩
  · refine ⟨fun n => ⟨n, rfl⟩, VarRef.inScope_nodes _, Expr.inScope_ofValue, ?_, (by simp), ?_⟩
    · intro e he
      obtain rfl := Option.some.inj he
      exact Expr.inScope_integer
    · intro b hb
      obtain rfl := Option.some.inj hb
      refine Block.every_mk.2 ⟨trivial, (by simp), List.forall_mem_singleton.2 ?_, (by simp)⟩
      refine Stmt.every_cond.2 ⟨trivial, ?_, ?_, ?_⟩
      · exact Expr.inScope_call.2 (List.forall_mem_singleton.2 Expr.inScope_integer)
      · intro b hb
        obtain rfl := Option.some.inj hb
        exact Block.every_mk.2
          ⟨trivial, (by simp), List.forall_mem_singleton.2 (Stmt.every_empty.2 trivial), (by simp)⟩
      · intro b hb
        obtain rfl := Option.some.inj hb
        exact Block.every_mk.2
          ⟨trivial, (by simp), List.forall_mem_singleton.2 (Stmt.every_breakLoop.2 trivial), (by simp)⟩
  · refine List.forall_mem_singleton.2 (Stmt.every_ret.2 ⟨trivial, ?_⟩)
    intro e he
    obtain rfl := Option.some.inj he
    exact Expr.inScope_binary.2 ⟨Expr.inScope_ofValue, Expr.inScope_integer⟩

/-- A reference to the variable `x` of a type. -/
def localRef (ty : Ty) : VarRef := ⟨⟨default, "x"⟩, some ⟨default, "x", default, some ty, false, false, false⟩⟩

/-- The block `{ x = value; show(x) }` with a variable of its own. -/
def localPart (ty : Ty) (value : Expr) : Block :=
  let shown : Expr := .call (.natural default .boolean) .function ⟨⟨default, "show"⟩, false, none⟩ default
    [.varRef (.natural default ty) (localRef ty)] none none
  ⟨default, [.assign default (localRef ty) value, .eval default shown], none, none⟩

/-- The template `if (ready()) { x = 1 + 2; show(x) } else { x = "no"; show(x) }`. The variables of the two
    parts have one name and different types. -/
def branchLocals : Template :=
  let ready : Expr := .call (.natural default .boolean) .function ⟨⟨default, "ready"⟩, false, none⟩ default [] none none
  let sum : Expr := .binary (.natural default .int) .arithmetic ⟨.plus, default⟩ (.ofNumber default (.int 1))
    (.ofNumber default (.int 2))
  ⟨default, default, [], false, some (.cond default ready (some (localPart .int sum))
    (some (localPart .nonNullString (.ofString default "no"))) none), none⟩

/-- A variable has just the values of its type. -/
def Admits (v? : Option Variable) (value : Value) : Prop :=
  ∀ v ty, v? = some v → v.ty? = some ty → ty ∈ Ty.declared → ty.Holds value

theorem plain_localPart {ty : Ty} {value : Expr} (hty : ty ∈ Ty.declared) (hvalue : value.Plain ty) :
    Stmt.Plain (.block (localPart ty value)) := by
  refine .block (by simp) (List.forall_mem_cons.2 ⟨.assign hvalue, List.forall_mem_singleton.2 ?_⟩) (by simp)
  exact .eval (Expr.call_plain (by decide) (List.forall_mem_singleton.2 ⟨ty, .varRef hty⟩))

theorem inScope_localPart {ty : Ty} {value : Expr} (hty : ty ∈ Ty.declared) (hvalueTy : value.ty? = some ty)
    (hvalue : value.InScope fun ref => Admits ref.bound?) :
    (localPart ty value).InScope fun ref => Admits ref.bound? := by
  refine Block.every_mk.2 ⟨trivial, (by simp), List.forall_mem_cons.2 ⟨Stmt.every_assign.2 ?_, ?_⟩, (by simp)⟩
  · refine ⟨fun valueTy hvalueTy' v hv => ?_, VarRef.inScope_nodes _, hvalue⟩
    obtain rfl := Option.some.inj (hvalueTy.symm.trans hvalueTy')
    rintro v _ ⟨⟩ ⟨⟩ -
    exact hv
  · refine List.forall_mem_singleton.2 (Stmt.every_eval.2 ⟨trivial, Expr.inScope_call.2 ?_⟩)
    refine List.forall_mem_singleton.2 (Expr.inScope_varRef.2 ?_)
    rintro _ ⟨⟩ v hv
    exact hv _ ty rfl rfl hty

theorem plain_branchLocals : branchLocals.Plain := by
  intro s hs
  obtain rfl := Option.some.inj hs
  refine .cond (Expr.call_plain (by decide) (by simp)) ?_ ?_
  · intro b hb
    obtain rfl := Option.some.inj hb
    exact plain_localPart (by decide) (.arithmetic (by decide) rfl (.literal (.int 1)) (.literal (.int 2)))
  · intro b hb
    obtain rfl := Option.some.inj hb
    exact plain_localPart (by decide) (.literal (.nonNullString "no"))

theorem inScope_branchLocals : branchLocals.InScope fun ref => Admits ref.bound? := by
  intro s hs
  obtain rfl := Option.some.inj hs
  refine Stmt.every_cond.2 ⟨trivial, Expr.inScope_call.2 (by simp), ?_, ?_⟩
  · intro b hb
    obtain rfl := Option.some.inj hb
    exact inScope_localPart (by decide) rfl (Expr.inScope_binary.2 ⟨Expr.inScope_ofValue, Expr.inScope_ofValue⟩)
  · intro b hb
    obtain rfl := Option.some.inj hb
    exact inScope_localPart (by decide) rfl Expr.inScope_ofValue

/-- The state in which each variable has a value of its type. -/
def sampleState (answer : Bool) (trace : Trace) : State (Option Variable) :=
  ⟨fun v? => ((v?.bind (·.ty?)).getD .null).sample answer, trace⟩

theorem within_sampleState (answer : Bool) (trace : Trace) : Run.Within Admits (sampleState answer trace) := by
  rintro v? v ty rfl hty hdeclared
  simp only [sampleState, Option.bind_some, hty, Option.getD_some]
  exact Ty.holds_sample answer hdeclared

/-- The first template calls `ready` once for each value up to the first that is not ready, and so does
    what it folds to, where the conditional is turned around. In the second one references stand for the
    variables that they are bound to. -/
theorem firstUnready_runFrom_run_fold :
    (firstUnready.Plain ∧ ∃ t', firstUnready.fold.result = .ok t' ∧
      ∀ (limit : Int32) (answer : Bool) (trace : Trace),
        (t'.run (·.name.name) (.constant answer)).runFrom ⟨fun _ => .number (.int limit), trace⟩ =
          (firstUnready.run (·.name.name) (.constant answer)).runFrom ⟨fun _ => .number (.int limit), trace⟩) ∧
    (branchLocals.Plain ∧ ∃ t', branchLocals.fold.result = .ok t' ∧
      ∀ (answer : Bool) (trace : Trace),
        (t'.run VarRef.bound? (.constant answer)).runFrom (sampleState answer trace) =
          (branchLocals.run VarRef.bound? (.constant answer)).runFrom (sampleState answer trace)) := by
  constructor
  · obtain ⟨t', hfold, hruns⟩ := plain_firstUnready.runFrom_run_fold (·.name.name)
    refine ⟨plain_firstUnready, t', hfold, fun limit answer trace => ?_⟩
    exact (hruns (fun _ value => ∃ n, value = .number (.int n)) _ _ inScope_firstUnready (fun _ => ⟨limit, rfl⟩)
      (Oracle.constant_respects answer)).1
  · obtain ⟨t', hfold, hruns⟩ := plain_branchLocals.runFrom_run_fold VarRef.bound?
    refine ⟨plain_branchLocals, t', hfold, fun answer trace => ?_⟩
    exact (hruns Admits _ _ inScope_branchLocals (within_sampleState answer trace) (Oracle.constant_respects answer)).1

end Template

end TemplateTree
