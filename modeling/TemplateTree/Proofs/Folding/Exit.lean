import TemplateTree.Exit
import TemplateTree.Proofs.Folding.Induction

namespace TemplateTree

open TemplateTree.Folding

variable {exit : Exit}

/-- The last statement of a longer list is the last of what follows the first. -/
theorem lastExits_cons_of_ne_nil (s : Stmt) {rest : List Stmt} (h : rest ≠ []) :
    lastExits exit (s :: rest) = lastExits exit rest := by
  cases rest with
  | nil => exact absurd rfl h
  | cons => rfl

theorem ne_nil_of_lastExits {ss : List Stmt} (h : lastExits exit ss = true) : ss ≠ [] := by
  intro hnil
  subst hnil
  cases h

/-- If control always leaves the statement in some way, then something is left of it, and control always
    leaves that in the same way. -/
def Stmt.KeepsExit (s : Stmt) (s'? : Option Stmt) : Prop :=
  ∀ exit, s.exits exit = true → ∃ s', s'? = some s' ∧ s'.exits exit = true

/-- If control always leaves the block in some way, then it always leaves what is left of the block in the
    same way. -/
def Block.KeepsExit (b : Block) (b'? : Option Block) : Prop := ∀ exit, b.exits exit = true → partExits exit b'? = true

namespace Folding

/-- What is left of a list leaves in the same way: its last statement is not dropped. -/
theorem lastExits_of_left {ss ss' : List Stmt} (h : Left Stmt.KeepsExit ss ss') (hss : lastExits exit ss = true) :
    lastExits exit ss' = true := by
  obtain ⟨left?, hleft, rfl⟩ := h
  induction hleft with
  | nil => exact hss
  | @cons s s'? rest rest'? hs hrest ih =>
    by_cases hlast : rest = []
    · subst hlast
      cases hrest
      obtain ⟨s', rfl, hs'⟩ := hs exit hss
      exact hs'
    · rw [lastExits_cons_of_ne_nil s hlast] at hss
      have hkept := ih hss
      cases s'? with
      | none => exact hkept
      | some s' =>
        rw [List.reduceOption_cons_of_some, lastExits_cons_of_ne_nil s' (ne_nil_of_lastExits hkept)]
        exact hkept

theorem partExits_of_part {b? b'? : Option Block} (h : Part Block.KeepsExit b? b'?)
    (hpart : partExits exit b? = true) : partExits exit b'? = true := by
  cases h with
  | none => exact hpart
  | some hkeeps => exact hkeeps exit hpart

theorem exists_of_partExits {b? : Option Block} (h : partExits exit b? = true) :
    ∃ b, b? = some b ∧ b.exits exit = true := by
  cases b? with
  | none => cases h
  | some b => exact ⟨b, rfl, h⟩

/-- The pass keeps every exit. Nothing is asked of expressions, and control falls through statements of most
    other kinds. -/
theorem keepsExit_cases : Cases (fun _ _ => True) Stmt.KeepsExit Block.KeepsExit where
  paren _ := trivial
  array _ := trivial
  call _ _ _ := trivial
  varRef := trivial
  property _ := trivial
  index _ _ := trivial
  unary _ _ := trivial
  binary _ _ _ := trivial
  compare _ _ _ := trivial
  isa _ _ := trivial
  literal := trivial
  empty _ h := nomatch h
  emptyList hleft exit h := absurd rfl (ne_nil_of_lastExits (lastExits_of_left hleft h))
  singleList hleft exit h := ⟨_, rfl, lastExits_of_left hleft h⟩
  list hleft _ exit h := ⟨_, rfl, lastExits_of_left hleft h⟩
  block hblock exit h := by
    obtain ⟨b', rfl, hb'⟩ := exists_of_partExits (hblock exit h)
    exact ⟨.block b', rfl, hb'⟩
  assign _ _ h := nomatch h
  breakLoop exit h := ⟨_, rfl, h⟩
  emptyForEach _ _ _ _ _ _ h := nomatch h
  forEach _ _ _ _ _ _ h := nomatch h
  constantCond {span condition condition' thenPart elsePart part' merged b} _ _ hpart exit h := by
    obtain ⟨hthen, helse⟩ := Bool.and_eq_true_iff.1 h
    have htaken : partExits exit (if b then thenPart else elsePart) = true := by
      cases b with
      | true => exact hthen
      | false => exact helse
    obtain ⟨b', rfl, hb'⟩ := exists_of_partExits (partExits_of_part hpart htaken)
    exact ⟨.block b', rfl, hb'⟩
  turnedCond _ _ hthen _ _ exit h := by
    have hgone := partExits_of_part hthen (Bool.and_eq_true_iff.1 h).1
    cases hgone
  cond _ _ hthen helse _ exit h := by
    obtain ⟨hfirst, hsecond⟩ := Bool.and_eq_true_iff.1 h
    refine ⟨_, rfl, Bool.and_eq_true_iff.2 ⟨?_, ?_⟩⟩
    · exact partExits_of_part hthen hfirst
    · exact partExits_of_part helse hsecond
  substitution _ h := nomatch h
  eval _ _ h := nomatch h
  ret _ exit h := ⟨_, rfl, h⟩
  guarded _ _ _ h := nomatch h
  emptyBlock _ hleft _ exit h := absurd rfl (ne_nil_of_lastExits (lastExits_of_left hleft h))
  mkBlock _ hleft _ _ exit h := lastExits_of_left hleft h

end Folding

namespace Stmt

/-- The pass never loses a statement that control cannot fall through: what always returns still returns, and
    what always breaks still breaks. -/
theorem isReturn_fold_and_isBreak_fold {s : Stmt} {s'? : Option Stmt} (h : s.fold.result = .ok s'?) :
    (s.isReturn = true → ∃ s', s'? = some s' ∧ s'.isReturn = true) ∧
      (s.isBreak = true → ∃ s', s'? = some s' ∧ s'.isBreak = true) := by
  have hkeeps := keepsExit_cases.stmt s h
  exact ⟨hkeeps .return, hkeeps .break⟩

/-- A list that ends with a conditional, both parts of which end with the statement. Some of what stands before
    the statement goes away. -/
def atEndOfBoth (s : Stmt) : Stmt :=
  let span : Span := ⟨1, 0, 8⟩
  let ready : Expr := .varRef ⟨span, .ofTy .boolean, false⟩ ⟨⟨span, "ready"⟩, some (.ofTy span "ready" .boolean)⟩
  .list span [.empty span,
    .cond span ready (some (.wrap (.list span [.list span [], s]))) (some (.wrap (.list span [.substitution span, s])))
      none]

theorem atEndOfBoth_isReturn_fold_and_isBreak_fold :
    (∃ s'?, (atEndOfBoth (.ret ⟨2, 0, 8⟩ none)).fold.result = .ok s'? ∧ ∃ s', s'? = some s' ∧ s'.isReturn = true) ∧
      ∃ s'?, (atEndOfBoth (.breakLoop ⟨2, 0, 8⟩)).fold.result = .ok s'? ∧ ∃ s', s'? = some s' ∧ s'.isBreak = true := by
  refine ⟨⟨_, rfl, ?_⟩, _, rfl, ?_⟩
  · exact (isReturn_fold_and_isBreak_fold (s := atEndOfBoth (.ret ⟨2, 0, 8⟩ none)) rfl).1 rfl
  · exact (isReturn_fold_and_isBreak_fold (s := atEndOfBoth (.breakLoop ⟨2, 0, 8⟩)) rfl).2 rfl

end Stmt

end TemplateTree
