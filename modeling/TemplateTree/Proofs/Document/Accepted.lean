import TemplateTree.Proofs.Document.RoundTrip
import TemplateTree.Proofs.Document.Taken

namespace TemplateTree

open Json

/-- Nodes whose numbers are finite. -/
abbrev Node.FiniteOnly : Node → Prop := Node.NumberIs Number.IsFinite

theorem VarRef.finiteOnly (ref : VarRef) : ∀ n ∈ ref.nodes, n.FiniteOnly := by
  rw [nodes]
  split <;> simp [Variable.nodes, Node.NumberIs]

variable {form : RealForm} {good : Prop}

/-- An expression that is written is accepted exactly if its numbers are finite and nothing of it is
    lost. -/
def Expr.Accepted (form : RealForm) (e : Expr) : Prop :=
  TakenIff (Expr.decode? form) (e.toJson form) (e.Every Node.FiniteOnly)

@[inherit_doc Expr.Accepted]
def Stmt.Accepted (form : RealForm) (s : Stmt) : Prop :=
  TakenIff (Stmt.decode? form) (s.toJson form) (s.Every Node.FiniteOnly)

@[inherit_doc Expr.Accepted]
def Block.Accepted (form : RealForm) (b : Block) : Prop :=
  TakenIff (Block.decode? form) (b.toJson form) (b.Every Node.FiniteOnly)

theorem takenIff_exprList (span : Span) {es : List Expr} (hes : ∀ e ∈ es, e.Accepted form) :
    TakenIff (fun n => exprList? (Expr.decode? form n)) (exprListObject span (exprsToJson form es))
      (∀ e ∈ es, e.Every Node.FiniteOnly) := by
  rw [exprsToJson_eq_map]
  refine .congr ?_ (takenIff_record fun _ _ hn =>
    isSome_bind_iff (isSome_defaulted?_iff "info" span.takenIff rfl hn) fun _ =>
    isSome_bind_iff (isSome_required?_iff "expressions" (takenIff_arr hes) rfl hn) fun _ => isSome_some_iff)
  simp

theorem Expr.cut_toJson_ne_null (e : Expr) (d : Nat) : (e.toJson form).cut d ≠ Json.null := by
  cases e <;> exact obj_cut_ne_null _ d

theorem Stmt.cut_toJson_ne_null (s : Stmt) (d : Nat) : (s.toJson form).cut d ≠ Json.null := by
  cases s <;> exact obj_cut_ne_null _ d

theorem Block.cut_toJson_ne_null (b : Block) (d : Nat) : (b.toJson form).cut d ≠ Json.null := by
  cases b
  exact obj_cut_ne_null _ d

namespace Expr

/-- An expression is taken if its kind is, whatever head it was read with. -/
theorem takenIff_of_kind {head : Head} {kind : Json}
    (hkind : ∀ head, TakenIff (fun n => decodeKind? form n head) kind good) :
    TakenIff (decode? form) (exprObject head kind) good := by
  refine takenIff_nested (fun _ => rfl) (fun _ => rfl) (fun _ _ => rfl) fun d n hn => ?_
  refine (isSome_bind_iff Head.isSome_ofFields?_iff fun head' =>
    isSome_required?_iff "kind" (hkind head') rfl hn).trans ?_
  simp [fieldsDepth, Json.depth]

theorem decodeKind?_unreadable (n : Nat) (head : Head) : decodeKind? form n head unreadable = none := by
  cases n <;> rfl

/-- An expression that is written as an alternative is taken if the content of that is. -/
theorem takenIff_of_variant {head : Head} {label : String} {content : Json} {inner : Head → Nat → Json → Option Expr}
    (hlabel : ∀ n head value, decodeKind? form (n + 1) head (variant label value) = inner head n value)
    (hcontent : ∀ head, TakenIff (inner head) content good) :
    TakenIff (decode? form) (exprObject head (variant label content)) good :=
  takenIff_of_kind fun head =>
    takenIff_variant (fun n => decodeKind?_unreadable n head) (hcontent head) fun n value => hlabel n head value

theorem accepted_paren {head : Head} {inner : Expr} (hinner : inner.Accepted form) :
    (paren head inner).Accepted form := by
  refine .congr ?_ (takenIff_of_variant (fun _ _ _ => rfl) fun head => hinner.map (paren head))
  simp [every_paren, Node.NumberIs]

theorem accepted_array {head : Head} {listSpan : Span} {elements : List Expr} {associative : Bool}
    (helements : ∀ e ∈ elements, e.Accepted form) : (array head listSpan elements associative).Accepted form := by
  have hlist := takenIff_exprList listSpan helements
  refine .congr ?_ (takenIff_of_variant (fun _ _ _ => rfl) fun head => takenIff_record fun _ _ hn => by
    exact isSome_bind_pair_iff (isSome_required?_iff "elements" hlist rfl hn) fun _ _ =>
      isSome_bind_iff (isSome_defaulted?_iff "associative" (takenIff_bool _) rfl hn) fun _ => isSome_some_iff)
  simp [every_array, Node.NumberIs]

theorem accepted_varRef {head : Head} {ref : VarRef} : (varRef head ref).Accepted form := by
  refine .congr ?_ (takenIff_of_variant (fun _ _ _ => rfl) fun head => ref.takenIff.map (varRef head))
  simpa [every_varRef, Node.NumberIs] using ref.finiteOnly

theorem accepted_property {head : Head} {object : Expr} {dot : Token} {name : Name} {reader? : Option Method}
    (hobject : object.Accepted form) : (property head object dot name reader?).Accepted form := by
  refine .congr ?_ (takenIff_of_variant (fun _ _ _ => rfl) fun head => takenIff_record fun _ _ hn =>
    isSome_bind_iff (isSome_required?_iff "expression" hobject rfl hn) fun _ =>
    isSome_bind_iff (isSome_required?_iff "dot" dot.takenIff rfl hn) fun _ =>
    isSome_bind_iff (isSome_required?_iff "name" name.takenIff rfl hn) fun _ =>
    isSome_bind_iff (isSome_optional?_iff "read_method" (fun m _ => m.takenIff) (fun _ => obj_cut_ne_null _) rfl hn) fun _ =>
    isSome_some_iff)
  simp [every_property, Node.NumberIs]

theorem accepted_index {head : Head} {object position : Expr} {bracket : Token} {reader? : Option Method}
    (hobject : object.Accepted form) (hposition : position.Accepted form) :
    (index head object bracket position reader?).Accepted form := by
  refine .congr ?_ (takenIff_of_variant (fun _ _ _ => rfl) fun head => takenIff_record fun _ _ hn =>
    isSome_bind_iff (isSome_required?_iff "expression" hobject rfl hn) fun _ =>
    isSome_bind_iff (isSome_required?_iff "token" bracket.takenIff rfl hn) fun _ =>
    isSome_bind_iff (isSome_required?_iff "index" hposition rfl hn) fun _ =>
    isSome_bind_iff (isSome_optional?_iff "read_method" (fun m _ => m.takenIff) (fun _ => obj_cut_ne_null _) rfl hn) fun _ =>
    isSome_some_iff)
  simp [every_index, Node.NumberIs]

theorem decodeKind?_unary (op : UnaryOp) (n : Nat) (head : Head) (value : Json) :
    decodeKind? form (n + 1) head (variant op.label value) = (decode? form n value).map (unary head op) := by
  cases op <;> rfl

theorem accepted_unary {head : Head} {op : UnaryOp} {operand : Expr} (hoperand : operand.Accepted form) :
    (unary head op operand).Accepted form := by
  refine .congr ?_ (takenIff_of_variant (decodeKind?_unary op) fun head => hoperand.map (unary head op))
  simp [every_unary, Node.NumberIs]

theorem decodeKind?_binary (op : BinaryOp) (n : Nat) (head : Head) (value : Json) :
    decodeKind? form (n + 1) head (variant op.label value) =
        (value.record? ["operator", "left", "right"] []).bind fun fields => do
      return binary head op (← fields.required? "operator" Token.ofJson?) (← fields.required? "left" (decode? form n))
        (← fields.required? "right" (decode? form n)) := by
  cases op <;> rfl

theorem accepted_binary {head : Head} {op : BinaryOp} {token : Token} {left right : Expr} (hleft : left.Accepted form)
    (hright : right.Accepted form) : (binary head op token left right).Accepted form := by
  refine .congr ?_ (takenIff_of_variant (decodeKind?_binary op) fun head => takenIff_record fun _ _ hn =>
    isSome_bind_iff (isSome_required?_iff "operator" token.takenIff rfl hn) fun _ =>
    isSome_bind_iff (isSome_required?_iff "left" hleft rfl hn) fun _ =>
    isSome_bind_iff (isSome_required?_iff "right" hright rfl hn) fun _ => isSome_some_iff)
  simp [every_binary, Node.NumberIs]

/-- The right side of a relation: another expression, or the type that is tested for. -/
def relationOfJson? (form : RealForm) (head : Head) (token : Token) (left : Expr) (n : Nat)
    (value : Json) : Option Expr :=
  match value.variant? with
  | some ("Expression", some right) => (decode? form n right).map (compare head token left)
  | some ("Isa", some tested) => (TypeName.ofJson? tested).map (isa head token left)
  | _ => none

theorem decodeKind?_relational (n : Nat) (head : Head) (value : Json) :
    decodeKind? form (n + 1) head (variant "Relational" value) =
        ((value.record? ["operator", "left", "right"] []).bind fun fields => do
      let token ← fields.required? "operator" Token.ofJson?
      let left ← fields.required? "left" (decode? form n)
      fields.required? "right" (relationOfJson? form head token left n)) :=
  rfl

theorem accepted_compare {head : Head} {token : Token} {left right : Expr} (hleft : left.Accepted form)
    (hright : right.Accepted form) : (compare head token left right).Accepted form := by
  have hrelation (head : Head) (token : Token) (left : Expr) : TakenIff (relationOfJson? form head token left)
      (variant "Expression" (right.toJson form)) (right.Every Node.FiniteOnly) :=
    takenIff_variant (fun _ => rfl) (hright.succ.map (compare head token left)) fun _ _ => rfl
  refine .congr ?_ (takenIff_of_variant decodeKind?_relational fun head => takenIff_record fun _ _ hn => by
    exact isSome_bind_iff (isSome_required?_iff "operator" token.takenIff rfl hn) fun token' =>
      isSome_bind_iff (isSome_required?_iff "left" hleft rfl hn) fun left' =>
      isSome_last_iff (isSome_required?_iff "right" (hrelation head token' left') rfl hn))
  simp [every_compare, Node.NumberIs]

theorem accepted_isa {head : Head} {token : Token} {operand : Expr} {tested : TypeName}
    (hoperand : operand.Accepted form) :
    (isa head token operand tested).Accepted form := by
  have hrelation (head : Head) (token : Token) (operand : Expr) : TakenIff (relationOfJson? form head token operand)
      (variant "Isa" tested.toJson) True :=
    takenIff_variant (fun _ => rfl) (tested.takenIff.map (isa head token operand)) fun _ _ => rfl
  refine .congr ?_ (takenIff_of_variant decodeKind?_relational fun head => takenIff_record fun _ _ hn => by
    exact isSome_bind_iff (isSome_required?_iff "operator" token.takenIff rfl hn) fun token' =>
      isSome_bind_iff (isSome_required?_iff "left" hoperand rfl hn) fun operand' =>
      isSome_last_iff (isSome_required?_iff "right" (hrelation head token' operand') rfl hn))
  simp [every_isa, Node.NumberIs]

theorem decodeKind?_call (kind : CallKind) (n : Nat) (head : Head) (value : Json) :
    decodeKind? form (n + 1) head (variant kind.label value) =
        (value.record? ["target", "params"] ["initializer", "substitution", "void_permitted", "method"]).bind
          fun fields => do
      let target ← fields.required? "target" Name.ofJson?
      let (listSpan, arguments) ← fields.required? "params" (exprList? (decode? form n))
      let initializer ← fields.optional? "initializer" (Stmt.decode? form n)
      let substitution ← fields.optional? "substitution" (Block.decode? form n)
      let callee := ⟨target, ← fields.flag? "void_permitted", ← fields.optional? "method" Method.ofJson?⟩
      return call head kind callee listSpan arguments initializer substitution := by
  cases kind <;> rfl

theorem accepted_call {head : Head} {kind : CallKind} {callee : Callee} {listSpan : Span} {arguments : List Expr}
    {initializer : Option Stmt} {substitution : Option Block} (harguments : ∀ e ∈ arguments, e.Accepted form)
    (hinitializer : ∀ s, initializer = some s → s.Accepted form)
    (hsubstitution : ∀ b, substitution = some b → b.Accepted form) :
    (call head kind callee listSpan arguments initializer substitution).Accepted form := by
  have hlist := takenIff_exprList listSpan harguments
  rw [Accepted, toJson, optionalStmtToJson_eq, optionalBlockToJson_eq]
  refine .congr ?_ (takenIff_of_variant (decodeKind?_call kind) fun head => takenIff_record fun _ _ hn => by
    exact isSome_bind_iff (isSome_required?_iff "target" callee.target.takenIff rfl hn) fun _ =>
      isSome_bind_pair_iff (isSome_required?_iff "params" hlist rfl hn) fun _ _ =>
      isSome_bind_iff (isSome_optional?_iff "initializer" hinitializer Stmt.cut_toJson_ne_null rfl hn) fun _ =>
      isSome_bind_iff (isSome_optional?_iff "substitution" hsubstitution Block.cut_toJson_ne_null rfl hn) fun _ =>
      isSome_bind_iff (isSome_defaulted?_iff "void_permitted" (takenIff_bool _) rfl hn) fun _ =>
      isSome_bind_iff (isSome_optional?_iff "method" (fun m _ => m.takenIff) (fun _ => obj_cut_ne_null _) rfl hn) fun _ =>
      isSome_some_iff)
  simp [every_call, Node.NumberIs]

theorem accepted_literal (hform : form.Lawful) {head : Head} {value : Value} : (literal head value).Accepted form := by
  refine .congr ?_ (takenIff_of_kind fun head => takenIff_decodeKind?_literal hform head value)
  cases value <;> simp [every_literal, Node.NumberIs, Value.IsFinite]

end Expr

namespace Stmt

theorem decode?_unreadable (n : Nat) : decode? form n unreadable = none := by
  cases n <;> rfl

/-- A statement is taken if its content is. -/
theorem takenIff_of_variant {label : String} {content : Json} {inner : Nat → Json → Option Stmt}
    (hlabel : ∀ n value, decode? form (n + 1) (variant label value) = inner n value)
    (hcontent : TakenIff inner content good) : TakenIff (decode? form) (variant label content) good :=
  takenIff_variant decode?_unreadable hcontent hlabel

theorem accepted_empty {span : Span} : (empty span).Accepted form := by
  refine .congr ?_ (takenIff_of_variant (fun _ _ => rfl) (span.takenIff.map empty))
  simp [every_empty, Node.NumberIs]

theorem accepted_breakLoop {span : Span} : (breakLoop span).Accepted form := by
  refine .congr ?_ (takenIff_of_variant (fun _ _ => rfl) (span.takenIff.map breakLoop))
  simp [every_breakLoop, Node.NumberIs]

theorem accepted_substitution {span : Span} : (substitution span).Accepted form := by
  refine .congr ?_ (takenIff_of_variant (fun _ _ => rfl) (span.takenIff.map substitution))
  simp [every_substitution, Node.NumberIs]

theorem accepted_list {span : Span} {statements : List Stmt} (hstatements : ∀ s ∈ statements, s.Accepted form) :
    (list span statements).Accepted form := by
  rw [Accepted, toJson, stmtsToJson_eq_map]
  refine .congr ?_ (takenIff_of_variant (fun _ _ => rfl) <| takenIff_record fun _ _ hn =>
    isSome_bind_iff (isSome_required?_iff "info" span.takenIff rfl hn) fun _ =>
    isSome_bind_iff (isSome_required?_iff "statements" (takenIff_arr hstatements) rfl hn) fun _ => isSome_some_iff)
  simp [every_list, Node.NumberIs]

theorem accepted_block {b : Block} (hb : b.Accepted form) : (block b).Accepted form := by
  refine .congr ?_ (takenIff_of_variant (fun _ _ => rfl) (hb.map block))
  simp [every_block, Node.NumberIs]

theorem accepted_assign {span : Span} {target : VarRef} {value : Expr} (hvalue : value.Accepted form) :
    (assign span target value).Accepted form := by
  refine .congr ?_ (takenIff_of_variant (fun _ _ => rfl) <| takenIff_record fun _ _ hn =>
    isSome_bind_iff (isSome_required?_iff "info" span.takenIff rfl hn) fun _ =>
    isSome_bind_iff (isSome_required?_iff "lvalue" target.takenIff rfl hn) fun _ =>
    isSome_bind_iff (isSome_required?_iff "rvalue" hvalue rfl hn) fun _ => isSome_some_iff)
  have := target.finiteOnly
  simp_all [every_assign, Node.NumberIs]

theorem accepted_forEach {span : Span} {loopVar : VarRef} {range : Expr} {rangeEnd : Option Expr} {reverse : Bool}
    {initializer : Option Stmt} {body : Option Block} (hrange : range.Accepted form)
    (hrangeEnd : ∀ e, rangeEnd = some e → e.Accepted form) (hinitializer : ∀ s, initializer = some s → s.Accepted form)
    (hbody : ∀ b, body = some b → b.Accepted form) :
    (forEach span loopVar range rangeEnd reverse initializer body).Accepted form := by
  rw [Accepted, toJson, optionalExprToJson_eq, optionalStmtToJson_eq, optionalBlockToJson_eq]
  refine .congr ?_ (takenIff_of_variant (fun _ _ => rfl) <| takenIff_record fun _ _ hn =>
    isSome_bind_iff (isSome_required?_iff "info" span.takenIff rfl hn) fun _ =>
    isSome_bind_iff (isSome_required?_iff "loop_variable" loopVar.takenIff rfl hn) fun _ =>
    isSome_bind_iff (isSome_required?_iff "range" hrange rfl hn) fun _ =>
    isSome_bind_iff (isSome_optional?_iff "end_range" hrangeEnd Expr.cut_toJson_ne_null rfl hn) fun _ =>
    isSome_bind_iff (isSome_defaulted?_iff "reverse" (takenIff_bool _) rfl hn) fun _ =>
    isSome_bind_iff (isSome_optional?_iff "initializer" hinitializer cut_toJson_ne_null rfl hn) fun _ =>
    isSome_bind_iff (isSome_optional?_iff "body" hbody Block.cut_toJson_ne_null rfl hn) fun _ => isSome_some_iff)
  have := loopVar.finiteOnly
  simp_all [every_forEach, Node.NumberIs]

theorem accepted_cond {span : Span} {condition : Expr} {thenPart elsePart : Option Block}
    {merged : Option (List Variable)} (hcondition : condition.Accepted form)
    (hthenPart : ∀ b, thenPart = some b → b.Accepted form) (helsePart : ∀ b, elsePart = some b → b.Accepted form) :
    (cond span condition thenPart elsePart merged).Accepted form := by
  rw [Accepted, toJson, optionalBlockToJson_eq, optionalBlockToJson_eq]
  refine .congr ?_ (takenIff_of_variant (fun _ _ => rfl) <| takenIff_record fun _ _ hn =>
    isSome_bind_iff (isSome_required?_iff "info" span.takenIff rfl hn) fun _ =>
    isSome_bind_iff (isSome_required?_iff "condition" hcondition rfl hn) fun _ =>
    isSome_bind_iff (isSome_optional?_iff "then_part" hthenPart Block.cut_toJson_ne_null rfl hn) fun _ =>
    isSome_bind_iff (isSome_optional?_iff "else_part" helsePart Block.cut_toJson_ne_null rfl hn) fun _ =>
    isSome_bind_iff (isSome_optional?_iff "merged_variables" (fun _ _ => takenIff_arr fun v _ => v.takenIff)
      (fun _ => arr_cut_ne_null _) rfl hn) fun _ => isSome_some_iff)
  simp [every_cond, Node.NumberIs]

theorem accepted_eval {span : Span} {e : Expr} (he : e.Accepted form) : (eval span e).Accepted form := by
  refine .congr ?_ (takenIff_of_variant (fun _ _ => rfl) <| takenIff_record fun _ _ hn =>
    isSome_bind_iff (isSome_required?_iff "info" span.takenIff rfl hn) fun _ =>
    isSome_bind_iff (isSome_required?_iff "expression" he rfl hn) fun _ => isSome_some_iff)
  simp [every_eval, Node.NumberIs]

theorem accepted_ret {span : Span} {value : Option Expr} (hvalue : ∀ e, value = some e → e.Accepted form) :
    (ret span value).Accepted form := by
  rw [Accepted, toJson, optionalExprToJson_eq]
  refine .congr ?_ (takenIff_of_variant (fun _ _ => rfl) <| takenIff_record fun _ _ hn =>
    isSome_bind_iff (isSome_required?_iff "info" span.takenIff rfl hn) fun _ =>
    isSome_bind_iff (isSome_optional?_iff "expression" hvalue Expr.cut_toJson_ne_null rfl hn) fun _ => isSome_some_iff)
  simp [every_ret, Node.NumberIs]

theorem accepted_guarded {span : Span} {part replacement : Option Stmt} (hpart : ∀ s, part = some s → s.Accepted form)
    (hreplacement : ∀ s, replacement = some s → s.Accepted form) : (guarded span part replacement).Accepted form := by
  rw [Accepted, toJson, optionalStmtToJson_eq, optionalStmtToJson_eq]
  refine .congr ?_ (takenIff_of_variant (fun _ _ => rfl) <| takenIff_record fun _ _ hn =>
    isSome_bind_iff (isSome_required?_iff "info" span.takenIff rfl hn) fun _ =>
    isSome_bind_iff (isSome_optional?_iff "guarded" hpart cut_toJson_ne_null rfl hn) fun _ =>
    isSome_bind_iff (isSome_optional?_iff "replacement" hreplacement cut_toJson_ne_null rfl hn) fun _ => isSome_some_iff)
  simp [every_guarded, Node.NumberIs]

end Stmt

theorem Block.accepted_mk {span : Span} {statements : List Stmt} {initializer finalizer : Option Stmt}
    (hstatements : ∀ s ∈ statements, s.Accepted form) (hinitializer : ∀ s, initializer = some s → s.Accepted form)
    (hfinalizer : ∀ s, finalizer = some s → s.Accepted form) :
    (Block.mk span statements initializer finalizer).Accepted form := by
  rw [Accepted, toJson, stmtsToJson_eq_map, optionalStmtToJson_eq, optionalStmtToJson_eq]
  refine .congr ?_ (takenIff_nested (fun _ => rfl) (fun _ => rfl) (fun _ _ => rfl) fun _ _ hn =>
    isSome_bind_iff (isSome_required?_iff "info" span.takenIff rfl hn) fun _ =>
    isSome_bind_iff (isSome_required?_iff "statements" (takenIff_arr hstatements) rfl hn) fun _ =>
    isSome_bind_iff (isSome_optional?_iff "initializer" hinitializer Stmt.cut_toJson_ne_null rfl hn) fun _ =>
    isSome_bind_iff (isSome_optional?_iff "finalizer" hfinalizer Stmt.cut_toJson_ne_null rfl hn) fun _ => isSome_some_iff)
  simp only [every_mk, Node.NumberIs]
  tauto

/-- This holds of every tree, by induction over it. -/
theorem Tree.accepted (hform : form.Lawful) :
    Tree.Cases (Expr.Accepted form) (Stmt.Accepted form) (Block.Accepted form) where
  paren := Expr.accepted_paren
  array := Expr.accepted_array
  call := Expr.accepted_call
  varRef := Expr.accepted_varRef
  property := Expr.accepted_property
  index := Expr.accepted_index
  unary := Expr.accepted_unary
  binary := Expr.accepted_binary
  compare := Expr.accepted_compare
  isa := Expr.accepted_isa
  literal := Expr.accepted_literal hform
  empty := Stmt.accepted_empty
  list := Stmt.accepted_list
  block := Stmt.accepted_block
  assign := Stmt.accepted_assign
  breakLoop := Stmt.accepted_breakLoop
  forEach := Stmt.accepted_forEach
  cond := Stmt.accepted_cond
  substitution := Stmt.accepted_substitution
  eval := Stmt.accepted_eval
  ret := Stmt.accepted_ret
  guarded := Stmt.accepted_guarded
  parts := Block.accepted_mk

/-- What is left of a template at some depth is read exactly if nothing was lost and its numbers are
    finite. -/
theorem Template.takenIff (hform : form.Lawful) (t : Template) :
    TakenIff (fun _ => ofJson? form) (t.toJson form) (∀ n ∈ t.nodes, n.FiniteOnly) := by
  rw [toJson, optionalStmtToJson_eq]
  refine .congr ?_ (takenIff_record fun _ _ hn =>
    isSome_bind_iff (isSome_required?_iff "info" t.span.takenIff rfl hn) fun _ =>
    isSome_bind_iff (isSome_required?_iff "name" t.name.takenIff rfl hn) fun _ =>
    isSome_bind_iff (isSome_required?_iff "params" (takenIff_arr fun v _ => v.takenIff) rfl hn) fun _ =>
    isSome_bind_iff (isSome_defaulted?_iff "substitution_param" (takenIff_bool _) rfl hn) fun _ =>
    isSome_bind_iff (isSome_optional?_iff "statement" (fun s _ => ((Tree.accepted hform).stmt s).measured)
      Stmt.cut_toJson_ne_null rfl hn) fun _ =>
    isSome_bind_iff (isSome_optional?_iff "return_type" (fun ty _ => ty.takenIff) (fun _ => obj_cut_ne_null _) rfl hn) fun _ =>
    isSome_some_iff)
  rw [forall_mem_nodes trivial (fun _ => trivial) (fun _ => trivial) fun _ => trivial]
  simp

end TemplateTree
