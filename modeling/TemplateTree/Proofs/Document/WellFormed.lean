import TemplateTree.Proofs.Document.RoundTrip
import TemplateTree.Proofs.Json.Dialect

namespace TemplateTree

open Json

namespace Json

variable {α : Type}

theorem itemsWellFormed_map {toJson : α → Json} {as : List α} (h : ∀ a ∈ as, (toJson a).WellFormed) :
    ItemsWellFormed (as.map toJson) := by
  induction as with
  | nil => trivial
  | cons a rest ih =>
    obtain ⟨ha, hrest⟩ := List.forall_mem_cons.1 h
    exact ⟨ha, ih hrest⟩

theorem wellFormed_ofOption {toJson : α → Json} {a? : Option α} (h : ∀ a, a? = some a → (toJson a).WellFormed) :
    (ofOption toJson a?).WellFormed := by
  cases a? with
  | none => trivial
  | some a => exact h a rfl

theorem wellFormed_ofNat (n : Nat) : (ofNat n).WellFormed := by
  rw [ofNat_eq_ofInt]
  exact Numeral.wellFormed_ofInt n

end Json

theorem Span.wellFormed_toJson (span : Span) : span.toJson.WellFormed :=
  ⟨wellFormed_ofNat _, wellFormed_ofNat _, wellFormed_ofNat _, trivial⟩

theorem Ty.wellFormed_toJson (ty : Ty) : ty.toJson.WellFormed := by
  have hkind (kind : Kind) : kind.toJson.WellFormed := by
    induction kind with
    | array element primitive nonNull ih => exact ⟨⟨ih, trivial, trivial, trivial⟩, trivial⟩
    | named name => exact ⟨trivial, trivial⟩
    | _ => exact trivial
  exact ⟨hkind ty.kind, trivial, trivial, trivial⟩

theorem Token.wellFormed_toJson (token : Token) : token.toJson.WellFormed := by
  have hkind : token.kind.toJson.WellFormed := by cases token.kind <;> exact trivial
  exact ⟨hkind, token.span.wellFormed_toJson, trivial⟩

theorem Conversion.wellFormed_toJson (step : Conversion) : step.toJson.WellFormed :=
  ⟨wellFormed_ofOption fun ty _ => ty.wellFormed_toJson, step.target.wellFormed_toJson, trivial, trivial⟩

theorem Chain.wellFormed_toJson (chain : Chain) : chain.toJson.WellFormed :=
  itemsWellFormed_map fun step _ => step.wellFormed_toJson

theorem Name.wellFormed_toJson (name : Name) : name.toJson.WellFormed :=
  ⟨name.span.wellFormed_toJson, trivial, trivial⟩

theorem TypeName.wellFormed_toJson (name : TypeName) : name.toJson.WellFormed :=
  ⟨name.span.wellFormed_toJson, trivial, wellFormed_ofOption fun _ _ => wellFormed_ofNat _,
    wellFormed_ofOption fun ty _ => ty.wellFormed_toJson, trivial⟩

theorem Variable.wellFormed_toJson (v : Variable) : v.toJson.WellFormed :=
  ⟨v.span.wellFormed_toJson, trivial, v.typeName.wellFormed_toJson, wellFormed_ofOption fun ty _ => ty.wellFormed_toJson,
    trivial, trivial, trivial, trivial⟩

theorem Method.wellFormed_toJson (m : Method) : m.toJson.WellFormed :=
  ⟨wellFormed_ofOption fun ty _ => ty.wellFormed_toJson, trivial, itemsWellFormed_map fun ty _ => ty.wellFormed_toJson,
    m.returnTy.wellFormed_toJson, trivial⟩

theorem VarRef.wellFormed_toJson (ref : VarRef) : ref.toJson.WellFormed :=
  ⟨ref.name.wellFormed_toJson, wellFormed_ofOption fun v _ => v.wellFormed_toJson, trivial⟩

variable {form : RealForm}

theorem Number.wellFormed_toJson (hform : form.Lawful) (number : Number) : (number.toJson form).WellFormed := by
  cases number with
  | int value => exact ⟨Numeral.wellFormed_ofInt _, trivial⟩
  | long value => exact ⟨Numeral.wellFormed_ofInt _, trivial⟩
  | float x => exact ⟨hform.single.wellFormed_encode x, trivial⟩
  | double x => exact ⟨hform.double.wellFormed_encode x, trivial⟩

theorem Value.wellFormed_literalToJson (hform : form.Lawful) (value : Value) :
    (value.literalToJson form).WellFormed := by
  cases value with
  | number number => exact ⟨number.wellFormed_toJson hform, trivial⟩
  | null => exact trivial
  | _ => exact ⟨trivial, trivial⟩

theorem wellFormed_variant {label : String} {content : Json} (h : content.WellFormed) :
    (variant label content).WellFormed :=
  ⟨h, trivial⟩

/-- An expression is well formed if its kind is. -/
theorem wellFormed_exprObject (head : Head) {kind : Json} (hkind : kind.WellFormed) :
    (exprObject head kind).WellFormed :=
  ⟨head.span.wellFormed_toJson, head.chain.wellFormed_toJson, trivial, hkind, trivial⟩

theorem wellFormed_exprListObject (span : Span) {es : List Expr} (hes : ∀ e ∈ es, (e.toJson form).WellFormed) :
    (exprListObject span (exprsToJson form es)).WellFormed := by
  rw [exprsToJson_eq_map]
  exact ⟨span.wellFormed_toJson, itemsWellFormed_map hes, trivial⟩

theorem wellFormed_operatorObject (token : Token) {left right : Json} (hleft : left.WellFormed)
    (hright : right.WellFormed) : (operatorObject token left right).WellFormed :=
  ⟨token.wellFormed_toJson, hleft, hright, trivial⟩

/-- All numerals of a written tree are well formed, by induction over the tree. -/
theorem Tree.wellFormed_toJson (hform : form.Lawful) :
    Tree.Cases (fun e => (e.toJson form).WellFormed) (fun s => (s.toJson form).WellFormed)
      (fun b => (b.toJson form).WellFormed) where
  paren hinner := wellFormed_exprObject _ (wellFormed_variant hinner)
  array helements :=
    wellFormed_exprObject _ (wellFormed_variant ⟨wellFormed_exprListObject _ helements, trivial, trivial⟩)
  call {_ _ callee _ _ _ _} harguments hinitializer hsubstitution := by
    rw [Expr.toJson, optionalStmtToJson_eq, optionalBlockToJson_eq]
    exact wellFormed_exprObject _ (wellFormed_variant ⟨callee.target.wellFormed_toJson,
      wellFormed_exprListObject _ harguments, wellFormed_ofOption hinitializer, wellFormed_ofOption hsubstitution, trivial,
      wellFormed_ofOption fun m _ => m.wellFormed_toJson, trivial⟩)
  varRef {_ ref} := wellFormed_exprObject _ (wellFormed_variant ref.wellFormed_toJson)
  property {_ _ dot name _} hobject :=
    wellFormed_exprObject _ (wellFormed_variant ⟨hobject, dot.wellFormed_toJson, name.wellFormed_toJson,
      wellFormed_ofOption fun m _ => m.wellFormed_toJson, trivial⟩)
  index {_ _ _ bracket _} hobject hposition :=
    wellFormed_exprObject _ (wellFormed_variant ⟨hobject, bracket.wellFormed_toJson, hposition,
      wellFormed_ofOption fun m _ => m.wellFormed_toJson, trivial⟩)
  unary hoperand := wellFormed_exprObject _ (wellFormed_variant hoperand)
  binary hleft hright := wellFormed_exprObject _ (wellFormed_variant (wellFormed_operatorObject _ hleft hright))
  compare hleft hright :=
    wellFormed_exprObject _ (wellFormed_variant (wellFormed_operatorObject _ hleft (wellFormed_variant hright)))
  isa {_ _ _ tested} hoperand :=
    wellFormed_exprObject _
      (wellFormed_variant (wellFormed_operatorObject _ hoperand (wellFormed_variant tested.wellFormed_toJson)))
  literal {_ value} := wellFormed_exprObject _ (value.wellFormed_literalToJson hform)
  empty {span} := wellFormed_variant span.wellFormed_toJson
  list {span _} hstatements := by
    rw [Stmt.toJson, stmtsToJson_eq_map]
    exact wellFormed_variant ⟨span.wellFormed_toJson, itemsWellFormed_map hstatements, trivial⟩
  block hb := wellFormed_variant hb
  assign {span target _} hvalue :=
    wellFormed_variant ⟨span.wellFormed_toJson, target.wellFormed_toJson, hvalue, trivial⟩
  breakLoop {span} := wellFormed_variant span.wellFormed_toJson
  forEach {span loopVar _ _ _ _ _} hrange hrangeEnd hinitializer hbody := by
    rw [Stmt.toJson, optionalExprToJson_eq, optionalStmtToJson_eq, optionalBlockToJson_eq]
    exact wellFormed_variant ⟨span.wellFormed_toJson, loopVar.wellFormed_toJson, hrange, wellFormed_ofOption hrangeEnd,
      trivial, wellFormed_ofOption hinitializer, wellFormed_ofOption hbody, trivial⟩
  cond {span _ _ _ _} hcondition hthenPart helsePart := by
    rw [Stmt.toJson, optionalBlockToJson_eq, optionalBlockToJson_eq]
    exact wellFormed_variant ⟨span.wellFormed_toJson, hcondition, wellFormed_ofOption hthenPart,
      wellFormed_ofOption helsePart,
      wellFormed_ofOption fun _ _ => itemsWellFormed_map fun v _ => v.wellFormed_toJson, trivial⟩
  substitution {span} := wellFormed_variant span.wellFormed_toJson
  eval {span _} he := wellFormed_variant ⟨span.wellFormed_toJson, he, trivial⟩
  ret {span _} hvalue := by
    rw [Stmt.toJson, optionalExprToJson_eq]
    exact wellFormed_variant ⟨span.wellFormed_toJson, wellFormed_ofOption hvalue, trivial⟩
  guarded {span _ _} hpart hreplacement := by
    rw [Stmt.toJson, optionalStmtToJson_eq, optionalStmtToJson_eq]
    exact wellFormed_variant ⟨span.wellFormed_toJson, wellFormed_ofOption hpart, wellFormed_ofOption hreplacement, trivial⟩
  parts {span _ _ _} hstatements hinitializer hfinalizer := by
    rw [Block.toJson, stmtsToJson_eq_map, optionalStmtToJson_eq, optionalStmtToJson_eq]
    exact ⟨span.wellFormed_toJson, itemsWellFormed_map hstatements, wellFormed_ofOption hinitializer,
      wellFormed_ofOption hfinalizer, trivial⟩

theorem Template.wellFormed_toJson (hform : form.Lawful) (t : Template) : (t.toJson form).WellFormed := by
  rw [toJson, optionalStmtToJson_eq]
  exact ⟨t.span.wellFormed_toJson, t.name.wellFormed_toJson, itemsWellFormed_map fun v _ => v.wellFormed_toJson, trivial,
    wellFormed_ofOption fun s _ => (Tree.wellFormed_toJson hform).stmt s,
    wellFormed_ofOption fun ty _ => ty.wellFormed_toJson, trivial⟩

end TemplateTree
