import TemplateTree.Json.Real
import TemplateTree.Proofs.Document.Parts
import TemplateTree.Proofs.Nodes
import TemplateTree.Proofs.Tree.Induction

namespace TemplateTree

open Json

/-- The number of a literal has a property. -/
def Node.NumberIs (P : Number → Prop) : Node → Prop
  | .expr (.literal _ (.number n)) => P n
  | _ => True

variable {form : RealForm} {json : Json} {n : Nat}

attribute [local simp] Expr.toJson Stmt.toJson Block.toJson exprsToJson stmtsToJson Expr.decode? Expr.decodeKind?
  Stmt.decode? Block.decode?

theorem exprsToJson_eq_map (es : List Expr) : exprsToJson form es = es.map (Expr.toJson form) := by
  induction es with
  | nil => rfl
  | cons e rest ih => rw [exprsToJson, ih, List.map_cons]

theorem stmtsToJson_eq_map (ss : List Stmt) : stmtsToJson form ss = ss.map (Stmt.toJson form) := by
  induction ss with
  | nil => rfl
  | cons s rest ih => rw [stmtsToJson, ih, List.map_cons]

theorem optionalExprToJson_eq (e? : Option Expr) : optionalExprToJson form e? = ofOption (Expr.toJson form) e? := by
  cases e? <;> rfl

theorem optionalStmtToJson_eq (s? : Option Stmt) : optionalStmtToJson form s? = ofOption (Stmt.toJson form) s? := by
  cases s? <;> rfl

theorem optionalBlockToJson_eq (b? : Option Block) :
    optionalBlockToJson form b? = ofOption (Block.toJson form) b? := by
  cases b? <;> rfl

theorem Expr.toJson_ne_null (e : Expr) : e.toJson form ≠ Json.null := by
  cases e <;> simp [Expr.toJson, exprObject]

theorem Stmt.toJson_ne_null (s : Stmt) : s.toJson form ≠ Json.null := by
  cases s <;> simp [Stmt.toJson, variant]

theorem Block.toJson_ne_null (b : Block) : b.toJson form ≠ Json.null := by
  cases b
  simp [Block.toJson]

/-- `e` is read from every short form of its JSON value, whatever depth is left for it. -/
def Expr.ReadsBack (form : RealForm) (e : Expr) : Prop :=
  ∀ {json : Json} {n : Nat}, json.depth ≤ n → Abbreviates (e.toJson form) json → Expr.decode? form n json = some e

@[inherit_doc Expr.ReadsBack]
def Stmt.ReadsBack (form : RealForm) (s : Stmt) : Prop :=
  ∀ {json : Json} {n : Nat}, json.depth ≤ n → Abbreviates (s.toJson form) json → Stmt.decode? form n json = some s

@[inherit_doc Expr.ReadsBack]
def Block.ReadsBack (form : RealForm) (b : Block) : Prop :=
  ∀ {json : Json} {n : Nat}, json.depth ≤ n → Abbreviates (b.toJson form) json → Block.decode? form n json = some b

namespace Expr

/-- An expression is read if its kind is. -/
theorem decode?_of_kind {head : Head} {kind : Json} {e : Expr} (hdepth : json.depth ≤ n)
    (h : Abbreviates (exprObject head kind) json) (hnull : kind ≠ Json.null)
    (hkind : ∀ {kind' m}, kind'.depth ≤ m → Abbreviates kind kind' → decodeKind? form m head kind' = some e) :
    decode? form n json = some e := by
  obtain ⟨fields, rfl, hrecord⟩ := h.record exprKeys rfl (by decide)
  rw [Json.depth] at hdepth
  obtain _ | n := n
  · omega
  have hread : fields.required? "kind" (decodeKind? form n head) = some e :=
    hrecord.required? 3 rfl rfl hnull fun _ hless hshort => hkind (by omega) hshort
  simp [decode?, fields?, Head.ofFields?_of_shortRecord hrecord, hread]

/-- An expression that is written as an alternative is read if the content of that is. -/
theorem decode?_of_variant {head : Head} {label : String} {content : Json} {e : Expr} (hdepth : json.depth ≤ n)
    (h : Abbreviates (exprObject head (variant label content)) json) (hlabel : default? [label] label = none)
    (hnull : content ≠ Json.null)
    (hcontent : ∀ {content' m}, content'.depth ≤ m → Abbreviates content content' →
      decodeKind? form (m + 1) head (variant label content') = some e) :
    decode? form n json = some e := by
  refine decode?_of_kind hdepth h nofun fun {kind' m} hless hshort => ?_
  obtain ⟨content', rfl, hpart⟩ := hshort.variant hlabel hnull
  simp only [variant, Json.depth, fieldsDepth] at hless
  obtain _ | m := m
  · omega
  exact hcontent (by omega) hpart

end Expr

theorem exprList?_of_abbreviates {span : Span} {es : List Expr} (hes : ∀ e ∈ es, e.ReadsBack form)
    (hdepth : json.depth ≤ n) (h : Abbreviates (exprListObject span (exprsToJson form es)) json) :
    exprList? (Expr.decode? form n) json = some (span, es) := by
  rw [exprsToJson_eq_map] at h
  obtain ⟨fields, rfl, hrecord⟩ := h.record exprListKeys rfl (by decide)
  rw [Json.depth] at hdepth
  have hspan : fields.defaulted? "info" .unknown Span.ofJson? = some span :=
    hrecord.defaulted? Span.toJson 0 rfl rfl nofun fun _ _ hshort => Span.ofJson?_of_abbreviates hshort
  have hexprs : fields.required? "expressions" (Json.list? (Expr.decode? form n)) = some es :=
    hrecord.required? 1 rfl rfl nofun fun _ hless hshort =>
      list?_of_abbreviates hshort fun e he _ hless' hshort => hes e he (by omega) hshort
  simp [exprList?, record?, hspan, hexprs]

/-- Nodes whose numbers are integers. -/
abbrev Node.IntegersOnly : Node → Prop := Node.NumberIs Number.IsInteger

namespace Expr

theorem readsBack_paren {head : Head} {inner : Expr} (hinner : inner.ReadsBack form) :
    (paren head inner).ReadsBack form := by
  intro json n hdepth h
  rw [toJson] at h
  refine decode?_of_variant hdepth h rfl inner.toJson_ne_null fun {content m} hless hshort => ?_
  simp [decodeKind?, variant, variant?, hinner hless hshort]

theorem readsBack_array {head : Head} {listSpan : Span} {elements : List Expr} {associative : Bool}
    (helements : ∀ e ∈ elements, e.ReadsBack form) :
    (array head listSpan elements associative).ReadsBack form := by
  intro json n hdepth h
  rw [toJson] at h
  refine decode?_of_variant hdepth h rfl nofun fun {content m} hless hshort => ?_
  obtain ⟨fields, rfl, hrecord⟩ := hshort.record ["elements", "associative"] rfl (by decide)
  rw [Json.depth] at hless
  have hread : fields.required? "elements" (exprList? (decode? form m)) = some (listSpan, elements) :=
    hrecord.required? 0 rfl rfl nofun fun _ hpart hshort => exprList?_of_abbreviates helements (by omega) hshort
  simp [decodeKind?, variant, variant?, record?, hread, hrecord.flag? 1 rfl (by decide)]

theorem readsBack_varRef {head : Head} {ref : VarRef} : (varRef head ref).ReadsBack form := by
  intro json n hdepth h
  rw [toJson] at h
  refine decode?_of_variant hdepth h rfl nofun fun {content m} hless hshort => ?_
  simp [decodeKind?, variant, variant?, VarRef.ofJson?_of_abbreviates hshort]

theorem readsBack_property {head : Head} {object : Expr} {dot : Token} {name : Name} {reader? : Option Method}
    (hobject : object.ReadsBack form) : (property head object dot name reader?).ReadsBack form := by
  intro json n hdepth h
  rw [toJson] at h
  refine decode?_of_variant hdepth h rfl nofun fun {content m} hless hshort => ?_
  obtain ⟨fields, rfl, hrecord⟩ := hshort.record ["expression", "dot", "name", "read_method"] rfl (by decide)
  rw [Json.depth] at hless
  have hexpr : fields.required? "expression" (decode? form m) = some object :=
    hrecord.required? 0 rfl rfl object.toJson_ne_null fun _ hpart hshort => hobject (by omega) hshort
  have hdot : fields.required? "dot" Token.ofJson? = some dot :=
    hrecord.required? 1 rfl rfl nofun fun _ _ hshort => Token.ofJson?_of_abbreviates hshort
  have hname : fields.required? "name" Name.ofJson? = some name :=
    hrecord.required? 2 rfl rfl nofun fun _ _ hshort => Name.ofJson?_of_abbreviates hshort
  have hreader : fields.optional? "read_method" Method.ofJson? = some reader? :=
    hrecord.optional? 3 rfl rfl (fun _ => nofun) fun _ _ _ _ hshort => Method.ofJson?_of_abbreviates hshort
  simp [decodeKind?, variant, variant?, record?, hexpr, hdot, hname, hreader]

theorem readsBack_index {head : Head} {object position : Expr} {bracket : Token} {reader? : Option Method}
    (hobject : object.ReadsBack form) (hposition : position.ReadsBack form) :
    (index head object bracket position reader?).ReadsBack form := by
  intro json n hdepth h
  rw [toJson] at h
  refine decode?_of_variant hdepth h rfl nofun fun {content m} hless hshort => ?_
  obtain ⟨fields, rfl, hrecord⟩ := hshort.record ["expression", "token", "index", "read_method"] rfl (by decide)
  rw [Json.depth] at hless
  have hexpr : fields.required? "expression" (decode? form m) = some object :=
    hrecord.required? 0 rfl rfl object.toJson_ne_null fun _ hpart hshort => hobject (by omega) hshort
  have htoken : fields.required? "token" Token.ofJson? = some bracket :=
    hrecord.required? 1 rfl rfl nofun fun _ _ hshort => Token.ofJson?_of_abbreviates hshort
  have hindex : fields.required? "index" (decode? form m) = some position :=
    hrecord.required? 2 rfl rfl position.toJson_ne_null fun _ hpart hshort => hposition (by omega) hshort
  have hreader : fields.optional? "read_method" Method.ofJson? = some reader? :=
    hrecord.optional? 3 rfl rfl (fun _ => nofun) fun _ _ _ _ hshort => Method.ofJson?_of_abbreviates hshort
  simp [decodeKind?, variant, variant?, record?, hexpr, htoken, hindex, hreader]

theorem readsBack_unary {head : Head} {op : UnaryOp} {operand : Expr} (hoperand : operand.ReadsBack form) :
    (unary head op operand).ReadsBack form := by
  intro json n hdepth h
  rw [toJson] at h
  have hlabel : default? [op.label] op.label = none := by cases op <;> rfl
  refine decode?_of_variant hdepth h hlabel operand.toJson_ne_null fun {content m} hless hshort => ?_
  cases op <;>
    simp [decodeKind?, variant, variant?, UnaryOp.label, UnaryOp.ofLabel?, BinaryOp.ofLabel?, CallKind.ofLabel?,
      hoperand hless hshort]

/-- The token and the first operand of an operator are read from every short form of its record. -/
theorem operator_of_abbreviates {token : Token} {left : Expr} {right : Json} (hleft : left.ReadsBack form)
    (hdepth : json.depth ≤ n) (h : Abbreviates (operatorObject token (left.toJson form) right) json) :
    ∃ fields : Fields, json = .obj fields ∧ fieldsDepth fields < n ∧
      ShortRecord [("operator", token.toJson), ("left", left.toJson form), ("right", right)]
        ["operator", "left", "right"] fields ∧
      fields.required? "operator" Token.ofJson? = some token ∧
      fields.required? "left" (decode? form n) = some left := by
  obtain ⟨fields, rfl, hrecord⟩ := h.record ["operator", "left", "right"] rfl (by decide)
  rw [Json.depth] at hdepth
  refine ⟨fields, rfl, by omega, hrecord, ?_, ?_⟩
  · exact hrecord.required? 0 rfl rfl nofun fun _ _ hshort => Token.ofJson?_of_abbreviates hshort
  · exact hrecord.required? 1 rfl rfl left.toJson_ne_null fun _ hpart hshort => hleft (by omega) hshort

theorem readsBack_binary {head : Head} {op : BinaryOp} {token : Token} {left right : Expr}
    (hleft : left.ReadsBack form) (hright : right.ReadsBack form) :
    (binary head op token left right).ReadsBack form := by
  intro json n hdepth h
  rw [toJson] at h
  have hlabel : default? [op.label] op.label = none := by cases op <;> rfl
  refine decode?_of_variant hdepth h hlabel nofun fun {content m} hless hshort => ?_
  obtain ⟨fields, rfl, hless, hrecord, htoken, hl⟩ := operator_of_abbreviates hleft hless hshort
  have hr : fields.required? "right" (decode? form m) = some right :=
    hrecord.required? 2 rfl rfl right.toJson_ne_null fun _ hpart hshort => hright (by omega) hshort
  cases op <;>
    simp [decodeKind?, variant, variant?, record?, BinaryOp.label, UnaryOp.ofLabel?, BinaryOp.ofLabel?,
      CallKind.ofLabel?, htoken, hl, hr]

theorem readsBack_compare {head : Head} {token : Token} {left right : Expr} (hleft : left.ReadsBack form)
    (hright : right.ReadsBack form) : (compare head token left right).ReadsBack form := by
  intro json n hdepth h
  rw [toJson] at h
  refine decode?_of_variant hdepth h rfl nofun fun {content m} hless hshort => ?_
  obtain ⟨fields, rfl, hless, hrecord, htoken, hl⟩ := operator_of_abbreviates hleft hless hshort
  simp only [decodeKind?, variant, variant?, record?, htoken, hl, Option.bind_eq_bind, Option.bind_some]
  refine hrecord.required? 2 rfl rfl (obj_ne_null _) fun value' hpart hshort => ?_
  obtain ⟨content, rfl, hcontent⟩ := hshort.variant rfl right.toJson_ne_null
  simp only [variant, Json.depth, fieldsDepth] at hpart
  simp [variant, hright (show content.depth ≤ m by omega) hcontent]

theorem readsBack_isa {head : Head} {token : Token} {operand : Expr} {tested : TypeName}
    (hoperand : operand.ReadsBack form) : (isa head token operand tested).ReadsBack form := by
  intro json n hdepth h
  rw [toJson] at h
  refine decode?_of_variant hdepth h rfl nofun fun {content m} hless hshort => ?_
  obtain ⟨fields, rfl, hless, hrecord, htoken, hl⟩ := operator_of_abbreviates hoperand hless hshort
  simp only [decodeKind?, variant, variant?, record?, htoken, hl, Option.bind_eq_bind, Option.bind_some]
  refine hrecord.required? 2 rfl rfl (obj_ne_null _) fun value' _ hshort => ?_
  obtain ⟨content, rfl, hcontent⟩ := hshort.variant rfl (obj_ne_null _)
  simp [variant, TypeName.ofJson?_of_abbreviates hcontent]

/-- The label of a literal is that of no other kind of expression. -/
theorem decodeKind?_eq_literal {head : Head} {value : Value} {kind : Json}
    (h : Abbreviates (value.literalToJson form) kind) :
    decodeKind? form n head kind = (Value.literalOfJson? form kind).map (.literal head) := by
  cases n with
  | zero => rfl
  | succ n =>
    cases value with
    | null =>
      cases h
      rfl
    | number number =>
      have hnull : number.toJson form ≠ Json.null := by cases number <;> exact nofun
      obtain ⟨content, rfl, -⟩ := h.variant rfl hnull
      rfl
    | _ =>
      obtain ⟨content, rfl, -⟩ := h.variant rfl nofun
      rfl

theorem readsBack_literal {head : Head} {value : Value} (hnumber : ∀ n, value = .number n → n.IsInteger) :
    (literal head value).ReadsBack form := by
  intro json n hdepth h
  rw [toJson] at h
  refine decode?_of_kind hdepth h value.literalToJson_ne_null fun {kind m} hless hshort => ?_
  rw [decodeKind?_eq_literal hshort, Value.literalOfJson?_of_abbreviates hnumber hshort]
  rfl

theorem readsBack_call {head : Head} {kind : CallKind} {callee : Callee} {listSpan : Span} {arguments : List Expr}
    {initializer : Option Stmt} {substitution : Option Block} (harguments : ∀ e ∈ arguments, e.ReadsBack form)
    (hinitializer : ∀ s, initializer = some s → s.ReadsBack form)
    (hsubstitution : ∀ b, substitution = some b → b.ReadsBack form) :
    (call head kind callee listSpan arguments initializer substitution).ReadsBack form := by
  intro json n hdepth h
  rw [toJson, optionalStmtToJson_eq, optionalBlockToJson_eq] at h
  have hlabel : default? [kind.label] kind.label = none := by cases kind <;> rfl
  refine decode?_of_variant hdepth h hlabel nofun fun {content m} hless hshort => ?_
  obtain ⟨fields, rfl, hrecord⟩ :=
    hshort.record ["target", "params", "initializer", "substitution", "void_permitted", "method"] rfl (by decide)
  rw [Json.depth] at hless
  have htarget : fields.required? "target" Name.ofJson? = some callee.target :=
    hrecord.required? 0 rfl rfl nofun fun _ _ hshort => Name.ofJson?_of_abbreviates hshort
  have hparams : fields.required? "params" (exprList? (decode? form m)) = some (listSpan, arguments) :=
    hrecord.required? 1 rfl rfl nofun fun _ hpart hshort => exprList?_of_abbreviates harguments (by omega) hshort
  have hinit : fields.optional? "initializer" (Stmt.decode? form m) = some initializer :=
    hrecord.optional? 2 rfl rfl Stmt.toJson_ne_null fun s hs _ hpart hshort => hinitializer s hs (by omega) hshort
  have hsubst : fields.optional? "substitution" (Block.decode? form m) = some substitution :=
    hrecord.optional? 3 rfl rfl Block.toJson_ne_null fun b hb _ hpart hshort => hsubstitution b hb (by omega) hshort
  have hmethod : fields.optional? "method" Method.ofJson? = some callee.method? :=
    hrecord.optional? 5 rfl rfl (fun _ => nofun) fun _ _ _ _ hshort => Method.ofJson?_of_abbreviates hshort
  have hvoid : fields.flag? "void_permitted" = some callee.voidPermitted := hrecord.flag? 4 rfl (by decide)
  cases kind <;>
    simp [decodeKind?, variant, variant?, record?, CallKind.label, UnaryOp.ofLabel?, BinaryOp.ofLabel?,
      CallKind.ofLabel?, htarget, hparams, hinit, hsubst, hvoid, hmethod]

end Expr

namespace Stmt

/-- A statement is read if its content is. -/
theorem decode?_of_variant {label : String} {content : Json} {s : Stmt} (hdepth : json.depth ≤ n)
    (h : Abbreviates (variant label content) json) (hlabel : default? [label] label = none)
    (hnull : content ≠ Json.null)
    (hcontent : ∀ {content' m}, content'.depth ≤ m → Abbreviates content content' →
      decode? form (m + 1) (variant label content') = some s) :
    decode? form n json = some s := by
  obtain ⟨content', rfl, hpart⟩ := h.variant hlabel hnull
  simp only [variant, Json.depth, fieldsDepth] at hdepth
  obtain _ | m := n
  · omega
  exact hcontent (by omega) hpart

theorem readsBack_empty {span : Span} : (empty span).ReadsBack form := by
  intro json n hdepth h
  rw [toJson] at h
  refine decode?_of_variant hdepth h rfl nofun fun {content m} _ hshort => ?_
  simp [decode?, variant, variant?, Span.ofJson?_of_abbreviates hshort]

theorem readsBack_breakLoop {span : Span} : (breakLoop span).ReadsBack form := by
  intro json n hdepth h
  rw [toJson] at h
  refine decode?_of_variant hdepth h rfl nofun fun {content m} _ hshort => ?_
  simp [decode?, variant, variant?, Span.ofJson?_of_abbreviates hshort]

theorem readsBack_substitution {span : Span} : (substitution span).ReadsBack form := by
  intro json n hdepth h
  rw [toJson] at h
  refine decode?_of_variant hdepth h rfl nofun fun {content m} _ hshort => ?_
  simp [decode?, variant, variant?, Span.ofJson?_of_abbreviates hshort]

theorem readsBack_list {span : Span} {statements : List Stmt} (hstatements : ∀ s ∈ statements, s.ReadsBack form) :
    (list span statements).ReadsBack form := by
  intro json n hdepth h
  rw [toJson, stmtsToJson_eq_map] at h
  refine decode?_of_variant hdepth h rfl nofun fun {content m} hless hshort => ?_
  obtain ⟨fields, rfl, hrecord⟩ := hshort.record ["info", "statements"] rfl (by decide)
  rw [Json.depth] at hless
  have hspan : fields.required? "info" Span.ofJson? = some span := Span.required?_of_shortRecord hrecord 0 rfl rfl
  have hlist : fields.required? "statements" (Json.list? (decode? form m)) = some statements :=
    hrecord.required? 1 rfl rfl nofun fun _ hpart hshort =>
      list?_of_abbreviates hshort fun s hs _ hitem hshort => hstatements s hs (by omega) hshort
  simp [decode?, variant, variant?, record?, hspan, hlist]

theorem readsBack_block {b : Block} (hb : b.ReadsBack form) : (block b).ReadsBack form := by
  intro json n hdepth h
  rw [toJson] at h
  refine decode?_of_variant hdepth h rfl b.toJson_ne_null fun {content m} hless hshort => ?_
  simp [decode?, variant, variant?, hb hless hshort]

theorem readsBack_assign {span : Span} {target : VarRef} {value : Expr} (hvalue : value.ReadsBack form) :
    (assign span target value).ReadsBack form := by
  intro json n hdepth h
  rw [toJson] at h
  refine decode?_of_variant hdepth h rfl nofun fun {content m} hless hshort => ?_
  obtain ⟨fields, rfl, hrecord⟩ := hshort.record ["info", "lvalue", "rvalue"] rfl (by decide)
  rw [Json.depth] at hless
  have hspan : fields.required? "info" Span.ofJson? = some span := Span.required?_of_shortRecord hrecord 0 rfl rfl
  have htarget : fields.required? "lvalue" VarRef.ofJson? = some target :=
    hrecord.required? 1 rfl rfl nofun fun _ _ hshort => VarRef.ofJson?_of_abbreviates hshort
  have hread : fields.required? "rvalue" (Expr.decode? form m) = some value :=
    hrecord.required? 2 rfl rfl value.toJson_ne_null fun _ hpart hshort => hvalue (by omega) hshort
  simp [decode?, variant, variant?, record?, hspan, htarget, hread]

theorem readsBack_forEach {span : Span} {loopVar : VarRef} {range : Expr} {rangeEnd : Option Expr} {reverse : Bool}
    {initializer : Option Stmt} {body : Option Block} (hrange : range.ReadsBack form)
    (hrangeEnd : ∀ e, rangeEnd = some e → e.ReadsBack form)
    (hinitializer : ∀ s, initializer = some s → s.ReadsBack form) (hbody : ∀ b, body = some b → b.ReadsBack form) :
    (forEach span loopVar range rangeEnd reverse initializer body).ReadsBack form := by
  intro json n hdepth h
  rw [toJson, optionalExprToJson_eq, optionalStmtToJson_eq, optionalBlockToJson_eq] at h
  refine decode?_of_variant hdepth h rfl nofun fun {content m} hless hshort => ?_
  obtain ⟨fields, rfl, hrecord⟩ :=
    hshort.record ["info", "loop_variable", "range", "end_range", "reverse", "initializer", "body"] rfl (by decide)
  rw [Json.depth] at hless
  have hspan : fields.required? "info" Span.ofJson? = some span := Span.required?_of_shortRecord hrecord 0 rfl rfl
  have hloopVar : fields.required? "loop_variable" VarRef.ofJson? = some loopVar :=
    hrecord.required? 1 rfl rfl nofun fun _ _ hshort => VarRef.ofJson?_of_abbreviates hshort
  have hread : fields.required? "range" (Expr.decode? form m) = some range :=
    hrecord.required? 2 rfl rfl range.toJson_ne_null fun _ hpart hshort => hrange (by omega) hshort
  have hend : fields.optional? "end_range" (Expr.decode? form m) = some rangeEnd :=
    hrecord.optional? 3 rfl rfl Expr.toJson_ne_null fun e he _ hpart hshort => hrangeEnd e he (by omega) hshort
  have hreverse : fields.flag? "reverse" = some reverse := hrecord.flag? 4 rfl (by decide)
  have hinit : fields.optional? "initializer" (decode? form m) = some initializer :=
    hrecord.optional? 5 rfl rfl toJson_ne_null fun s hs _ hpart hshort => hinitializer s hs (by omega) hshort
  have hblock : fields.optional? "body" (Block.decode? form m) = some body :=
    hrecord.optional? 6 rfl rfl Block.toJson_ne_null fun b hb _ hpart hshort => hbody b hb (by omega) hshort
  simp [decode?, variant, variant?, record?, hspan, hloopVar, hread, hend, hreverse, hinit, hblock]

theorem readsBack_cond {span : Span} {condition : Expr} {thenPart elsePart : Option Block}
    {merged : Option (List Variable)} (hcondition : condition.ReadsBack form)
    (hthenPart : ∀ b, thenPart = some b → b.ReadsBack form) (helsePart : ∀ b, elsePart = some b → b.ReadsBack form) :
    (cond span condition thenPart elsePart merged).ReadsBack form := by
  intro json n hdepth h
  rw [toJson, optionalBlockToJson_eq, optionalBlockToJson_eq] at h
  refine decode?_of_variant hdepth h rfl nofun fun {content m} hless hshort => ?_
  obtain ⟨fields, rfl, hrecord⟩ :=
    hshort.record ["info", "condition", "then_part", "else_part", "merged_variables"] rfl (by decide)
  rw [Json.depth] at hless
  have hspan : fields.required? "info" Span.ofJson? = some span := Span.required?_of_shortRecord hrecord 0 rfl rfl
  have hread : fields.required? "condition" (Expr.decode? form m) = some condition :=
    hrecord.required? 1 rfl rfl condition.toJson_ne_null fun _ hpart hshort => hcondition (by omega) hshort
  have hthen : fields.optional? "then_part" (Block.decode? form m) = some thenPart :=
    hrecord.optional? 2 rfl rfl Block.toJson_ne_null fun b hb _ hpart hshort => hthenPart b hb (by omega) hshort
  have helse : fields.optional? "else_part" (Block.decode? form m) = some elsePart :=
    hrecord.optional? 3 rfl rfl Block.toJson_ne_null fun b hb _ hpart hshort => helsePart b hb (by omega) hshort
  have hmerged : fields.optional? "merged_variables" (Json.list? Variable.ofJson?) = some merged :=
    hrecord.optional? 4 rfl rfl (fun _ => nofun) fun _ _ _ _ hshort =>
      list?_of_abbreviates hshort fun _ _ _ _ hshort => Variable.ofJson?_of_abbreviates hshort
  simp [decode?, variant, variant?, record?, hspan, hread, hthen, helse, hmerged]

theorem readsBack_eval {span : Span} {e : Expr} (he : e.ReadsBack form) : (eval span e).ReadsBack form := by
  intro json n hdepth h
  rw [toJson] at h
  refine decode?_of_variant hdepth h rfl nofun fun {content m} hless hshort => ?_
  obtain ⟨fields, rfl, hrecord⟩ := hshort.record ["info", "expression"] rfl (by decide)
  rw [Json.depth] at hless
  have hspan : fields.required? "info" Span.ofJson? = some span := Span.required?_of_shortRecord hrecord 0 rfl rfl
  have hread : fields.required? "expression" (Expr.decode? form m) = some e :=
    hrecord.required? 1 rfl rfl e.toJson_ne_null fun _ hpart hshort => he (by omega) hshort
  simp [decode?, variant, variant?, record?, hspan, hread]

theorem readsBack_ret {span : Span} {value : Option Expr} (hvalue : ∀ e, value = some e → e.ReadsBack form) :
    (ret span value).ReadsBack form := by
  intro json n hdepth h
  rw [toJson, optionalExprToJson_eq] at h
  refine decode?_of_variant hdepth h rfl nofun fun {content m} hless hshort => ?_
  obtain ⟨fields, rfl, hrecord⟩ := hshort.record ["info", "expression"] rfl (by decide)
  rw [Json.depth] at hless
  have hspan : fields.required? "info" Span.ofJson? = some span := Span.required?_of_shortRecord hrecord 0 rfl rfl
  have hread : fields.optional? "expression" (Expr.decode? form m) = some value :=
    hrecord.optional? 1 rfl rfl Expr.toJson_ne_null fun e he _ hpart hshort => hvalue e he (by omega) hshort
  simp [decode?, variant, variant?, record?, hspan, hread]

theorem readsBack_guarded {span : Span} {part replacement : Option Stmt}
    (hguarded : ∀ s, part = some s → s.ReadsBack form) (hreplacement : ∀ s, replacement = some s → s.ReadsBack form) :
    (guarded span part replacement).ReadsBack form := by
  intro json n hdepth h
  rw [toJson, optionalStmtToJson_eq, optionalStmtToJson_eq] at h
  refine decode?_of_variant hdepth h rfl nofun fun {content m} hless hshort => ?_
  obtain ⟨fields, rfl, hrecord⟩ := hshort.record ["info", "guarded", "replacement"] rfl (by decide)
  rw [Json.depth] at hless
  have hspan : fields.required? "info" Span.ofJson? = some span := Span.required?_of_shortRecord hrecord 0 rfl rfl
  have hread : fields.optional? "guarded" (decode? form m) = some part :=
    hrecord.optional? 1 rfl rfl toJson_ne_null fun s hs _ hpart hshort => hguarded s hs (by omega) hshort
  have hother : fields.optional? "replacement" (decode? form m) = some replacement :=
    hrecord.optional? 2 rfl rfl toJson_ne_null fun s hs _ hpart hshort => hreplacement s hs (by omega) hshort
  simp [decode?, variant, variant?, record?, hspan, hread, hother]

end Stmt

theorem Block.readsBack_mk {span : Span} {statements : List Stmt} {initializer finalizer : Option Stmt}
    (hstatements : ∀ s ∈ statements, s.ReadsBack form) (hinitializer : ∀ s, initializer = some s → s.ReadsBack form)
    (hfinalizer : ∀ s, finalizer = some s → s.ReadsBack form) :
    (Block.mk span statements initializer finalizer).ReadsBack form := by
  intro json n hdepth h
  rw [toJson, stmtsToJson_eq_map, optionalStmtToJson_eq, optionalStmtToJson_eq] at h
  obtain ⟨fields, rfl, hrecord⟩ := h.record ["info", "statements", "initializer", "finalizer"] rfl (by decide)
  rw [Json.depth] at hdepth
  obtain _ | n := n
  · omega
  have hspan : fields.required? "info" Span.ofJson? = some span := Span.required?_of_shortRecord hrecord 0 rfl rfl
  have hlist : fields.required? "statements" (Json.list? (Stmt.decode? form n)) = some statements :=
    hrecord.required? 1 rfl rfl nofun fun _ hpart hshort =>
      list?_of_abbreviates hshort fun s hs _ hitem hshort => hstatements s hs (by omega) hshort
  have hinit : fields.optional? "initializer" (Stmt.decode? form n) = some initializer :=
    hrecord.optional? 2 rfl rfl Stmt.toJson_ne_null fun s hs _ hpart hshort => hinitializer s hs (by omega) hshort
  have hfinal : fields.optional? "finalizer" (Stmt.decode? form n) = some finalizer :=
    hrecord.optional? 3 rfl rfl Stmt.toJson_ne_null fun s hs _ hpart hshort => hfinalizer s hs (by omega) hshort
  simp [decode?, record?, hspan, hlist, hinit, hfinal]

/-- Every tree whose numbers are integers is read back, by induction over the tree. -/
theorem Tree.readsBack :
    Tree.Cases (fun e => e.Every Node.IntegersOnly → e.ReadsBack form)
      (fun s => s.Every Node.IntegersOnly → s.ReadsBack form)
      (fun b => b.Every Node.IntegersOnly → b.ReadsBack form) where
  paren ih h := Expr.readsBack_paren (ih (Expr.every_paren.1 h).2)
  array ih h := Expr.readsBack_array fun e he => ih e he ((Expr.every_array.1 h).2.2 e he)
  call ihArguments ihInitializer ihSubstitution h := by
    obtain ⟨-, -, harguments, hinitializer, hsubstitution⟩ := Expr.every_call.1 h
    exact Expr.readsBack_call (fun e he => ihArguments e he (harguments e he))
      (fun s hs => ihInitializer s hs (hinitializer s hs)) fun b hb => ihSubstitution b hb (hsubstitution b hb)
  varRef _ := Expr.readsBack_varRef
  property ih h := Expr.readsBack_property (ih (Expr.every_property.1 h).2)
  index ihObject ihPosition h :=
    Expr.readsBack_index (ihObject (Expr.every_index.1 h).2.1) (ihPosition (Expr.every_index.1 h).2.2)
  unary ih h := Expr.readsBack_unary (ih (Expr.every_unary.1 h).2)
  binary ihLeft ihRight h :=
    Expr.readsBack_binary (ihLeft (Expr.every_binary.1 h).2.1) (ihRight (Expr.every_binary.1 h).2.2)
  compare ihLeft ihRight h :=
    Expr.readsBack_compare (ihLeft (Expr.every_compare.1 h).2.1) (ihRight (Expr.every_compare.1 h).2.2)
  isa ih h := Expr.readsBack_isa (ih (Expr.every_isa.1 h).2.1)
  literal h := Expr.readsBack_literal fun n hn => by
    subst hn
    exact Expr.every_literal.1 h
  empty _ := Stmt.readsBack_empty
  list ih h := Stmt.readsBack_list fun s hs => ih s hs ((Stmt.every_list.1 h).2 s hs)
  block ih h := Stmt.readsBack_block (ih (Stmt.every_block.1 h).2)
  assign ih h := Stmt.readsBack_assign (ih (Stmt.every_assign.1 h).2.2)
  breakLoop _ := Stmt.readsBack_breakLoop
  forEach ihRange ihEnd ihInitializer ihBody h := by
    obtain ⟨-, -, hrange, hend, hinitializer, hbody⟩ := Stmt.every_forEach.1 h
    exact Stmt.readsBack_forEach (ihRange hrange) (fun e he => ihEnd e he (hend e he))
      (fun s hs => ihInitializer s hs (hinitializer s hs)) fun b hb => ihBody b hb (hbody b hb)
  cond ihCondition ihThen ihElse h := by
    obtain ⟨-, hcondition, hthen, helse⟩ := Stmt.every_cond.1 h
    exact Stmt.readsBack_cond (ihCondition hcondition) (fun b hb => ihThen b hb (hthen b hb))
      fun b hb => ihElse b hb (helse b hb)
  substitution _ := Stmt.readsBack_substitution
  eval ih h := Stmt.readsBack_eval (ih (Stmt.every_eval.1 h).2)
  ret ih h := Stmt.readsBack_ret fun e he => ih e he ((Stmt.every_ret.1 h).2 e he)
  guarded ihPart ihReplacement h := by
    obtain ⟨-, hpart, hreplacement⟩ := Stmt.every_guarded.1 h
    exact Stmt.readsBack_guarded (fun s hs => ihPart s hs (hpart s hs))
      fun s hs => ihReplacement s hs (hreplacement s hs)
  parts ihStatements ihInitializer ihFinalizer h := by
    obtain ⟨-, hinitializer, hstatements, hfinalizer⟩ := Block.every_mk.1 h
    exact Block.readsBack_mk (fun s hs => ihStatements s hs (hstatements s hs))
      (fun s hs => ihInitializer s hs (hinitializer s hs)) fun s hs => ihFinalizer s hs (hfinalizer s hs)

namespace Template

/-- A template is read if its body is. -/
theorem ofJson?_of_abbreviates {t : Template} (hbody : ∀ s, t.body = some s → s.ReadsBack form)
    (h : Abbreviates (t.toJson form) json) : ofJson? form json = some t := by
  rw [toJson, optionalStmtToJson_eq] at h
  obtain ⟨fields, rfl, hrecord⟩ :=
    h.record ["info", "name", "params", "substitution_param", "statement", "return_type"] rfl (by decide)
  have hspan : fields.required? "info" Span.ofJson? = some t.span := Span.required?_of_shortRecord hrecord 0 rfl rfl
  have hname : fields.required? "name" Name.ofJson? = some t.name :=
    hrecord.required? 1 rfl rfl nofun fun _ _ hshort => Name.ofJson?_of_abbreviates hshort
  have hparams : fields.required? "params" (Json.list? Variable.ofJson?) = some t.params :=
    hrecord.required? 2 rfl rfl nofun fun _ _ hshort =>
      list?_of_abbreviates hshort fun _ _ _ _ hshort => Variable.ofJson?_of_abbreviates hshort
  have hflag : fields.flag? "substitution_param" = some t.takesSubstitution := hrecord.flag? 3 rfl (by decide)
  have hstatement : fields.optional? "statement" (Stmt.ofJson? form) = some t.body :=
    hrecord.optional? 4 rfl rfl Stmt.toJson_ne_null fun s hs _ _ hshort => hbody s hs (Nat.le_refl _) hshort
  have hreturn : fields.optional? "return_type" Ty.ofJson? = some t.returnTy :=
    hrecord.optional? 5 rfl rfl (fun _ => nofun) fun _ _ _ _ hshort => Ty.ofJson?_of_abbreviates hshort
  simp [ofJson?, record?, hspan, hname, hparams, hflag, hstatement, hreturn]

/-- Reading undoes writing for every template whose number literals are integers, and it does so for
    all short forms of what is written. -/
theorem ofJson?_toJson (form : RealForm) (t : Template) (hintegers : ∀ n ∈ t.nodes, n.IntegersOnly) :
    ofJson? form (t.toJson form) = some t ∧
      ∀ short, Abbreviates (t.toJson form) short → ofJson? form short = some t := by
  have hbody : ∀ s, t.body = some s → s.ReadsBack form := by
    intro s hs
    refine Tree.readsBack.stmt s ?_
    exact (forall_mem_nodes trivial (fun _ => trivial) (fun _ => trivial) fun _ => trivial).1 hintegers s hs
  exact ⟨ofJson?_of_abbreviates hbody (.refl _), fun short hshort => ofJson?_of_abbreviates hbody hshort⟩

/-- A comparison of two integers, with an operator of unknown place. -/
def comparison : Template where
  span := ⟨1, 0, 9⟩
  name := ⟨⟨1, 0, 4⟩, "main"⟩
  params := []
  takesSubstitution := false
  body := some (.ret ⟨2, 2, 9⟩ (some (.compare ⟨⟨2, 2, 8⟩, .empty, false⟩ ⟨.lt, .unknown⟩
    (.literal ⟨⟨2, 2, 3⟩, .empty, false⟩ (.number (.int (-7)))) (.literal ⟨⟨2, 6, 8⟩, .empty, true⟩ (.number (.long 12))))))
  returnTy := none

/-- The comparison without all that can be left out. -/
def comparisonShort : Json :=
  obj [("info", Span.toJson ⟨1, 0, 9⟩), ("name", Name.toJson ⟨⟨1, 0, 4⟩, "main"⟩), ("params", arr []),
    ("statement", variant "Return" (obj [("info", Span.toJson ⟨2, 2, 9⟩),
      ("expression", obj [("info", Span.toJson ⟨2, 2, 8⟩), ("kind", variant "Relational"
        (obj [("operator", obj [("kind", str "Lt")]),
          ("left", obj [("info", Span.toJson ⟨2, 2, 3⟩), ("kind", variant "NumberLiteral" (variant "Int" (ofInt (-7))))]),
          ("right", variant "Expression" (obj [("info", Span.toJson ⟨2, 6, 8⟩), ("exception_possible", bool true),
            ("kind", variant "NumberLiteral" (variant "Long" (ofInt 12)))]))]))])]))]

theorem comparison_abbreviates (form : RealForm) : Abbreviates (comparison.toJson form) comparisonShort := by
  have hleft : Abbreviates (exprObject ⟨⟨2, 2, 3⟩, .empty, false⟩ (variant "NumberLiteral" (variant "Int" (ofInt (-7)))))
      (obj [("info", Span.toJson ⟨2, 2, 3⟩), ("kind", variant "NumberLiteral" (variant "Int" (ofInt (-7))))]) :=
    .obj (.kept (.refl _) (.dropped (.inr rfl) (.dropped (.inr rfl) (.kept (.refl _) (.nil _)))))
  have hright : Abbreviates (exprObject ⟨⟨2, 6, 8⟩, .empty, true⟩ (variant "NumberLiteral" (variant "Long" (ofInt 12))))
      (obj [("info", Span.toJson ⟨2, 6, 8⟩), ("exception_possible", bool true),
        ("kind", variant "NumberLiteral" (variant "Long" (ofInt 12)))]) :=
    .obj (.kept (.refl _) (.dropped (.inr rfl) (.kept (.refl _) (.kept (.refl _) (.nil _)))))
  have hoperator : Abbreviates (Token.toJson ⟨.lt, .unknown⟩) (obj [("kind", str "Lt")]) :=
    .obj (.kept (.refl _) (.dropped (.inr rfl) (.nil _)))
  refine .obj (.kept (.refl _) (.kept (.refl _) (.kept (.refl _) (.dropped (.inr rfl) (.kept ?_
    (.dropped (.inl rfl) (.nil _)))))))
  refine .obj (.kept (.obj (.kept (.refl _) (.kept ?_ (.nil _)))) (.nil _))
  refine .obj (.kept (.refl _) (.dropped (.inr rfl) (.dropped (.inr rfl) (.kept ?_ (.nil _)))))
  exact .obj (.kept (.obj (.kept hoperator (.kept hleft (.kept (.obj (.kept hright (.nil _))) (.nil _))))) (.nil _))

theorem comparison_ofJson? : (∀ n ∈ comparison.nodes, n.IntegersOnly) ∧
    Abbreviates (comparison.toJson .decimal) comparisonShort ∧ ofJson? .decimal comparisonShort = some comparison := by
  have hintegers : ∀ n ∈ comparison.nodes, n.IntegersOnly := by
    simp [comparison, nodes, optionalStmtNodes, Stmt.nodes, optionalExprNodes, Expr.nodes, Node.NumberIs,
      Number.IsInteger]
  have hshort := comparison_abbreviates .decimal
  exact ⟨hintegers, hshort, (ofJson?_toJson .decimal comparison hintegers).2 _ hshort⟩

end Template

end TemplateTree
