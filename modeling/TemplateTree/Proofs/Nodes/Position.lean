import Mathlib.Data.List.Basic
import TemplateTree.Nodes

namespace TemplateTree

/-- The parts of an expression: operands from left to right; of a call its arguments, its initializer and
    the block it passes on. -/
def Expr.parts : Expr → List Node
  | .paren _ inner => [.expr inner]
  | .array _ listSpan elements _ => [.exprList listSpan elements]
  | .call _ _ _ listSpan arguments initializer substitution =>
    .exprList listSpan arguments :: (initializer.toList.map .stmt ++ substitution.toList.map .block)
  | .varRef _ ref => [.varRef ref]
  | .property _ object _ _ _ => [.expr object]
  | .index _ object _ position _ => [.expr object, .expr position]
  | .unary _ _ operand => [.expr operand]
  | .binary _ _ _ left right => [.expr left, .expr right]
  | .compare _ _ left right => [.expr left, .expr right]
  | .isa _ _ operand tested => [.expr operand, .typeName tested]
  | .literal .. => []

/-- The parts of a statement: of a loop its variable, its range, the end of the range, its initializer and
    its body; of a conditional its condition and then both branches. -/
def Stmt.parts : Stmt → List Node
  | .empty _ => []
  | .list _ statements => statements.map .stmt
  | .block b => [.block b]
  | .assign _ target value => [.varRef target, .expr value]
  | .breakLoop _ => []
  | .forEach _ loopVar range rangeEnd _ initializer body =>
    .varRef loopVar :: .expr range ::
      (rangeEnd.toList.map .expr ++ initializer.toList.map .stmt ++ body.toList.map .block)
  | .cond _ condition thenPart elsePart _ =>
    .expr condition :: (thenPart.toList.map .block ++ elsePart.toList.map .block)
  | .substitution _ => []
  | .eval _ e => [.expr e]
  | .ret _ value => value.toList.map .expr
  | .guarded _ part replacement => part.toList.map .stmt ++ replacement.toList.map .stmt

namespace Node

/-- The parts of a node, in the order in which they take effect. -/
def parts : Node → List Node
  | template t => .name t.name :: (t.params.map .var ++ t.body.toList.map .stmt)
  | name _ => []
  | typeName _ => []
  | var v => [.typeName v.typeName]
  | varRef ref => ref.bound?.toList.map .var
  | exprList _ expressions => expressions.map .expr
  | stmt s => s.parts
  | block b => b.initializer.toList.map .stmt ++ b.statements.map .stmt ++ b.finalizer.toList.map .stmt
  | expr e => e.parts

/-- The walk through the tree below a node. -/
def nodes : Node → List Node
  | template t => t.nodes
  | name n => [.name n]
  | typeName n => [.typeName n]
  | var v => v.nodes
  | varRef ref => ref.nodes
  | exprList span expressions => .exprList span expressions :: exprNodes expressions
  | stmt s => s.nodes
  | block b => b.nodes
  | expr e => e.nodes

theorem flatMap_nodes_exprs (es : List Expr) : (es.map expr).flatMap nodes = exprNodes es := by
  induction es with
  | nil => rfl
  | cons e rest ih => rw [List.map_cons, List.flatMap_cons, ih, exprNodes, nodes]

theorem flatMap_nodes_stmts (ss : List Stmt) : (ss.map stmt).flatMap nodes = stmtNodes ss := by
  induction ss with
  | nil => rfl
  | cons s rest ih => rw [List.map_cons, List.flatMap_cons, ih, stmtNodes, nodes]

theorem flatMap_nodes_vars (vs : List Variable) : (vs.map var).flatMap nodes = vs.flatMap Variable.nodes := by
  rw [List.flatMap_map]
  rfl

theorem exprNodes_toList (e? : Option Expr) : exprNodes e?.toList = optionalExprNodes e? := by
  cases e? <;> simp [exprNodes, optionalExprNodes]

theorem stmtNodes_toList (s? : Option Stmt) : stmtNodes s?.toList = optionalStmtNodes s? := by
  cases s? <;> simp [stmtNodes, optionalStmtNodes]

theorem flatMap_nodes_optionalBlock (b? : Option Block) :
    (b?.toList.map block).flatMap nodes = optionalBlockNodes b? := by
  cases b? <;> simp [optionalBlockNodes, nodes]

attribute [local simp] flatMap_nodes_exprs flatMap_nodes_stmts flatMap_nodes_vars exprNodes_toList stmtNodes_toList
  flatMap_nodes_optionalBlock

/-- The walk meets a node and then walks through its parts, one after another. -/
theorem nodes_eq_cons_parts (n : Node) : n.nodes = n :: n.parts.flatMap nodes := by
  cases n with
  | template t => simp [nodes, parts, Template.nodes]
  | name | typeName => rfl
  | var v => simp [nodes, parts, Variable.nodes]
  | varRef ref =>
    obtain ⟨name, _ | v⟩ := ref <;> simp [nodes, parts, VarRef.nodes]
  | exprList span es => simp [nodes, parts]
  | block b =>
    obtain ⟨span, statements, initializer, finalizer⟩ := b
    simp [nodes, parts, Block.nodes]
  | stmt s => cases s <;> simp [nodes, parts, Stmt.parts, Stmt.nodes]
  | expr e => cases e <;> simp [nodes, parts, Expr.parts, Expr.nodes]

/-- The tree below a part is smaller than the one below the node. -/
theorem length_nodes_lt {n m : Node} (h : m ∈ n.parts) : m.nodes.length < n.nodes.length := by
  obtain ⟨before, after, hsplit⟩ := List.append_of_mem h
  rw [nodes_eq_cons_parts n, hsplit, List.flatMap_append, List.flatMap_cons]
  simp only [List.length_cons, List.length_append]
  omega

/-- What holds of a node as soon as it holds of its parts holds of every node. -/
theorem parts_induction {P : Node → Prop} (hstep : ∀ n, (∀ m ∈ n.parts, P m) → P n) (n : Node) : P n := by
  generalize hsize : n.nodes.length = size
  induction size using Nat.strongRecOn generalizing n with
  | ind size ih =>
    apply hstep
    intro m hm
    have hlt := length_nodes_lt hm
    exact ih m.nodes.length (by omega) m rfl

/-- What stands at a position of the tree below a node. -/
def at? : Node → List Nat → Option Node
  | n, [] => some n
  | n, index :: rest => n.parts[index]?.bind fun part => part.at? rest

/-- The positions below the parts of a node, given those below each part. -/
def positionsOfParts (positions : Node → List (List Nat)) (parts : List Node) : List (List Nat) :=
  parts.zipIdx.flatMap fun part => (positions part.1).map (part.2 :: ·)

/-- These are all positions of the tree below a node, in order, and the walk lists what stands there. -/
structure Walked (n : Node) (positions : List (List Nat)) : Prop where
  sorted : positions.Pairwise (· < ·)
  mem : ∀ {p m}, n.at? p = some m → p ∈ positions
  map_at? : positions.map n.at? = n.nodes.map some

section

variable {n : Node} {positions : Node → List (List Nat)} (hparts : ∀ m ∈ n.parts, m.Walked (positions m))

include hparts

/-- Positions below one part come before those below a later one. -/
theorem sorted_positionsOfParts : (positionsOfParts positions n.parts).Pairwise (· < ·) := by
  unfold positionsOfParts
  rw [List.pairwise_flatMap]
  constructor
  · intro part hpart
    have hmem : part.1 ∈ n.parts := List.mem_of_getElem? (List.mem_zipIdx_iff_getElem?.1 hpart)
    rw [List.pairwise_map]
    exact (hparts part.1 hmem).sorted.imp fun hlt => List.cons_lt_cons_iff.2 (.inr ⟨rfl, hlt⟩)
  · have hindices : (n.parts.zipIdx.map Prod.snd).Pairwise (· < ·) := by
      rw [List.zipIdx_map_snd]
      exact List.pairwise_lt_range'
    apply (List.pairwise_map.1 hindices).imp
    intro earlier later hlt p hp q hq
    obtain ⟨p', -, rfl⟩ := List.mem_map.1 hp
    obtain ⟨q', -, rfl⟩ := List.mem_map.1 hq
    exact List.cons_lt_cons_iff.2 (.inl hlt)

theorem map_at?_positionsOfParts :
    (positionsOfParts positions n.parts).map n.at? = (n.parts.flatMap nodes).map some := by
  have hpart : ∀ part ∈ n.parts.zipIdx,
      ((positions part.1).map (part.2 :: ·)).map n.at? = part.1.nodes.map some := by
    intro part hpart
    have hget := List.mem_zipIdx_iff_getElem?.1 hpart
    have hbelow : n.at? ∘ (part.2 :: ·) = part.1.at? := by
      funext p
      simp [at?, hget]
    rw [List.map_map, hbelow]
    exact (hparts part.1 (List.mem_of_getElem? hget)).map_at?
  calc (positionsOfParts positions n.parts).map n.at?
      = n.parts.zipIdx.flatMap fun part => part.1.nodes.map some := by
        rw [positionsOfParts, List.map_flatMap, List.flatMap_congr hpart]
    _ = (n.parts.zipIdx.map Prod.fst).flatMap fun m => m.nodes.map some := by
        rw [List.flatMap_map]
    _ = (n.parts.flatMap nodes).map some := by
        rw [List.zipIdx_map_fst, List.map_flatMap]

theorem walked_of_parts : n.Walked ([] :: positionsOfParts positions n.parts) where
  sorted := by
    rw [List.pairwise_cons]
    refine ⟨fun p hp => ?_, sorted_positionsOfParts hparts⟩
    obtain ⟨part, -, hp⟩ := List.mem_flatMap.1 hp
    obtain ⟨p', -, rfl⟩ := List.mem_map.1 hp
    exact List.nil_lt_cons part.2 p'
  mem {p m} h := by
    cases p with
    | nil => exact List.mem_cons_self
    | cons index rest =>
      obtain ⟨part, hpart, hrest⟩ := Option.bind_eq_some_iff.1 h
      have hmem := (hparts part (List.mem_of_getElem? hpart)).mem hrest
      apply List.mem_cons_of_mem
      exact List.mem_flatMap.2 ⟨(part, index), List.mk_mem_zipIdx_iff_getElem?.2 hpart, List.mem_map_of_mem hmem⟩
  map_at? := by
    rw [List.map_cons, map_at?_positionsOfParts hparts, nodes_eq_cons_parts n, List.map_cons]
    rfl

end

/-- The walk lists what stands at each position of a tree, in the order of the positions. -/
theorem exists_walked (n : Node) : ∃ positions, n.Walked positions := by
  induction n using parts_induction with
  | hstep n ih =>
    have hpositions : ∀ m, ∃ positions, m ∈ n.parts → m.Walked positions := by
      intro m
      by_cases hm : m ∈ n.parts
      · obtain ⟨positions, hwalked⟩ := ih m hm
        exact ⟨positions, fun _ => hwalked⟩
      · exact ⟨[], fun h => absurd h hm⟩
    obtain ⟨positions, hparts⟩ := Classical.axiomOfChoice hpositions
    exact ⟨_, walked_of_parts hparts⟩

/-- The walk meets exactly what stands somewhere in the tree. -/
theorem mem_nodes_iff {n m : Node} : m ∈ n.nodes ↔ ∃ p, n.at? p = some m := by
  obtain ⟨positions, hwalked⟩ := n.exists_walked
  have hmap : m ∈ n.nodes ↔ some m ∈ positions.map n.at? := by
    rw [hwalked.map_at?]
    simp
  rw [hmap, List.mem_map]
  constructor
  · rintro ⟨p, -, hp⟩
    exact ⟨p, hp⟩
  · rintro ⟨p, hp⟩
    exact ⟨p, hwalked.mem hp, hp⟩

/-- A search of the walk finds what stands at the first position where there is something to find. -/
theorem findSome?_nodes_eq_some_iff {β : Type} {f : Node → Option β} {n : Node} {b : β} :
    n.nodes.findSome? f = some b ↔
      ∃ p m, n.at? p = some m ∧ f m = some b ∧ ∀ q m', q < p → n.at? q = some m' → f m' = none := by
  obtain ⟨positions, hwalked⟩ := n.exists_walked
  have hsearch : n.nodes.findSome? f = positions.findSome? fun p => (n.at? p).bind f := by
    calc n.nodes.findSome? f = (n.nodes.map some).findSome? (·.bind f) := by
          rw [List.findSome?_map]
          rfl
      _ = positions.findSome? fun p => (n.at? p).bind f := by
          rw [← hwalked.map_at?, List.findSome?_map]
          rfl
  rw [hsearch, List.findSome?_eq_some_iff]
  constructor
  · rintro ⟨before, p, after, hsplit, hfound, hbefore⟩
    obtain ⟨m, hm, hb⟩ := Option.bind_eq_some_iff.1 hfound
    refine ⟨p, m, hm, hb, fun q m' hlt hq => ?_⟩
    have hsorted := hwalked.sorted
    have hmem := hwalked.mem hq
    rw [hsplit] at hsorted hmem
    obtain hearlier | hlater := List.mem_append.1 hmem
    · simpa [hq] using hbefore q hearlier
    · obtain rfl | hlater := List.mem_cons.1 hlater
      · exact absurd hlt (List.lt_irrefl q)
      · have hgt := List.rel_of_pairwise_cons (List.pairwise_append.1 hsorted).2.1 hlater
        exact absurd hlt (List.lt_asymm hgt)
  · rintro ⟨p, m, hm, hb, hfirst⟩
    obtain ⟨before, after, hsplit⟩ := List.append_of_mem (hwalked.mem hm)
    refine ⟨before, p, after, hsplit, by rw [hm]; exact hb, fun q hq => ?_⟩
    have hsorted := hwalked.sorted
    rw [hsplit] at hsorted
    have hlt := (List.pairwise_append.1 hsorted).2.2 q hq p List.mem_cons_self
    cases hat : n.at? q with
    | none => rfl
    | some m' => exact hfirst q m' hlt hat

end Node

end TemplateTree
