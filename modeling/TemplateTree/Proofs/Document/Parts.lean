import Mathlib.Data.Option.Basic
import TemplateTree.Proofs.Document.Abbreviated

namespace TemplateTree

open Json

namespace Span

theorem ofJson?_of_abbreviates {span : Span} {json : Json} (h : Abbreviates span.toJson json) :
    ofJson? json = some span := by
  obtain ⟨fields, rfl, hrecord⟩ := h.record ["line", "start", "end"] rfl (by decide)
  have hword {n : UInt64} {value' : Json} (hshort : Abbreviates (ofNat n.toNat) value') : value'.word? = some n := by
    cases hshort
    exact word?_ofNat n
  have hline : fields.required? "line" word? = some span.line :=
    hrecord.required? 0 rfl rfl nofun fun _ _ hshort => hword hshort
  have hstart : fields.required? "start" word? = some span.start :=
    hrecord.required? 1 rfl rfl nofun fun _ _ hshort => hword hshort
  have hstop : fields.required? "end" word? = some span.stop :=
    hrecord.required? 2 rfl rfl nofun fun _ _ hshort => hword hshort
  simp [ofJson?, record?, hline, hstart, hstop]

theorem required?_of_shortRecord {keys : List String} {key : String} {full fields : Fields} {span : Span}
    (h : ShortRecord full keys fields) (i : Nat) (hfield : full[i]? = some (key, span.toJson))
    (hdefault : default? keys key = none) : fields.required? key ofJson? = some span :=
  h.required? i hfield hdefault nofun fun _ _ hshort => ofJson?_of_abbreviates hshort

theorem isReadable_toJson (span : Span) (form : RealForm) : span.toJson.isReadable form := by
  simp [toJson, isReadable, fieldsReadable, isReadable_ofNat]

end Span

namespace Kind

theorem toJson_ne_null (kind : Kind) : kind.toJson ≠ Json.null := by cases kind <;> exact nofun

end Kind

namespace Ty

variable {blank : Blank}

/-- A type is read if its kind is. -/
theorem decode?_of_kind {kind : Kind} {primitive nonNull : Bool} {json : Json} {n : Nat}
    (hkind : ∀ {json n}, json.depth ≤ n → Abbreviates kind.toJson json → decodeKind? blank n json = some kind)
    (hdepth : json.depth ≤ n) (h : Abbreviates (tyObject kind.toJson primitive nonNull) json) :
    decode? blank n json = some ⟨kind, primitive, nonNull⟩ := by
  obtain ⟨fields, rfl, hrecord⟩ := h.record ["kind", "primitive", "non_null"] rfl (by decide)
  rw [Json.depth] at hdepth
  obtain _ | n := n
  · omega
  have hread : fields.required? "kind" (decodeKind? blank n) = some kind :=
    hrecord.required? 0 rfl rfl kind.toJson_ne_null fun _ hless hshort => hkind (by omega) hshort
  simp [decode?, record?, hread, hrecord.bool? 1 rfl rfl, hrecord.bool? 2 rfl rfl]

theorem decodeKind?_of_abbreviates (kind : Kind) {json : Json} {n : Nat} (hdepth : json.depth ≤ n)
    (h : Abbreviates kind.toJson json) : decodeKind? blank n json = some kind := by
  induction kind generalizing json n with
  | named name =>
    obtain ⟨content, rfl, hcontent⟩ := h.variant rfl nofun
    cases hcontent
    obtain _ | n := n
    · exact absurd hdepth (by simp [variant, Json.depth])
    rfl
  | array element primitive nonNull ih =>
    obtain ⟨content, rfl, hcontent⟩ := h.variant rfl (obj_ne_null _)
    simp only [variant, Json.depth, fieldsDepth] at hdepth
    obtain _ | n := n
    · omega
    have hread : decode? blank n content = some ⟨element, primitive, nonNull⟩ :=
      decode?_of_kind (fun hless hshort => ih hless hshort) (by omega) hcontent
    simp [decodeKind?, variant, variant?, hread]
  | _ =>
    cases h
    cases n <;> rfl

theorem read?_of_abbreviates {ty : Ty} {json : Json} (h : Abbreviates ty.toJson json) : read? blank json = some ty :=
  decode?_of_kind (decodeKind?_of_abbreviates ty.kind) (Nat.le_refl _) h

theorem ofJson?_of_abbreviates {ty : Ty} {json : Json} (h : Abbreviates ty.toJson json) : ofJson? json = some ty :=
  read?_of_abbreviates h

theorem isReadable_toJson (ty : Ty) (form : RealForm) : ty.toJson.isReadable form := by
  have hkind (kind : Kind) : kind.toJson.isReadable form := by
    induction kind with
    | array element primitive nonNull ih =>
      simp [Kind.toJson, variant, tyObject, isReadable, fieldsReadable, ih]
    | _ => rfl
  simp [toJson, tyObject, isReadable, fieldsReadable, hkind]

end Ty

namespace TokenKind

theorem ofJson?_of_abbreviates {kind : TokenKind} {json : Json} (h : Abbreviates kind.toJson json) :
    ofJson? json = some kind := by
  cases kind <;> cases h <;> rfl

end TokenKind

namespace Token

theorem ofJson?_of_abbreviates {token : Token} {json : Json} (h : Abbreviates token.toJson json) :
    ofJson? json = some token := by
  obtain ⟨fields, rfl, hrecord⟩ := h.record tokenKeys rfl (by decide)
  have hnull : token.kind.toJson ≠ null := by cases token.kind <;> exact nofun
  have hkind : fields.required? "kind" TokenKind.ofJson? = some token.kind :=
    hrecord.required? 0 rfl rfl hnull fun _ _ hshort => TokenKind.ofJson?_of_abbreviates hshort
  have hspan : fields.defaulted? "info" .unknown Span.ofJson? = some token.span :=
    hrecord.defaulted? Span.toJson 1 rfl rfl nofun fun _ _ hshort => Span.ofJson?_of_abbreviates hshort
  simp [ofJson?, record?, hkind, hspan]

end Token

namespace Conversion

theorem read?_of_abbreviates {blank : Blank} {step : Conversion} {json : Json} (h : Abbreviates step.toJson json) :
    read? blank json = some step := by
  obtain ⟨fields, rfl, hrecord⟩ := h.record ["from", "to", "cast_preferred"] rfl (by decide)
  have hsource : fields.optional? "from" (Ty.read? blank) = some step.source :=
    hrecord.optional? 0 rfl rfl (fun _ => nofun) fun _ _ _ _ hshort => Ty.read?_of_abbreviates hshort
  have htarget : fields.required? "to" (Ty.read? blank) = some step.target :=
    hrecord.required? 1 rfl rfl nofun fun _ _ hshort => Ty.read?_of_abbreviates hshort
  simp [read?, record?, hsource, htarget, hrecord.bool? 2 rfl rfl]

theorem isReadable_toJson (step : Conversion) (form : RealForm) : step.toJson.isReadable form := by
  cases hsource : step.source <;>
    simp [toJson, isReadable, fieldsReadable, ofOption, hsource, Ty.isReadable_toJson]

end Conversion

namespace Chain

theorem read?_of_abbreviates {blank : Blank} {chain : Chain} {json : Json} (h : Abbreviates chain.toJson json) :
    read? blank json = some chain := by
  rw [read?, list?_of_abbreviates h fun _ _ _ _ hshort => Conversion.read?_of_abbreviates hshort]
  rfl

theorem isReadable_toJson (chain : Chain) (form : RealForm) : chain.toJson.isReadable form := by
  have hsteps (steps : List Conversion) : areReadable form (steps.map Conversion.toJson) := by
    induction steps with
    | nil => rfl
    | cons step rest ih => simp [areReadable, Conversion.isReadable_toJson, ih]
  exact hsteps chain.steps

end Chain

namespace Name

theorem ofJson?_of_abbreviates {name : Name} {json : Json} (h : Abbreviates name.toJson json) :
    ofJson? json = some name := by
  obtain ⟨fields, rfl, hrecord⟩ := h.record ["info", "name"] rfl (by decide)
  have hspan : fields.required? "info" Span.ofJson? = some name.span := Span.required?_of_shortRecord hrecord 0 rfl rfl
  simp [ofJson?, record?, hspan, hrecord.string? 1 rfl rfl]

end Name

namespace TypeName

theorem ofJson?_of_abbreviates {name : TypeName} {json : Json} (h : Abbreviates name.toJson json) :
    ofJson? json = some name := by
  obtain ⟨fields, rfl, hrecord⟩ := h.record ["info", "name", "dimensions", "ty"] rfl (by decide)
  have hspan : fields.required? "info" Span.ofJson? = some name.span := Span.required?_of_shortRecord hrecord 0 rfl rfl
  have hdimensions : fields.optional? "dimensions" Json.word? = some name.written := by
    refine hrecord.optional? 2 rfl rfl (fun _ => nofun) fun written _ value' _ hshort => ?_
    cases hshort
    exact word?_ofNat written
  have hty : fields.optional? "ty" Ty.ofJson? = some name.ty? :=
    hrecord.optional? 3 rfl rfl (fun _ => nofun) fun _ _ _ _ hshort => Ty.ofJson?_of_abbreviates hshort
  simp [ofJson?, record?, hspan, hrecord.string? 1 rfl rfl, hdimensions, hty]

end TypeName

namespace Variable

theorem ofJson?_of_abbreviates {v : Variable} {json : Json} (h : Abbreviates v.toJson json) :
    ofJson? json = some v := by
  obtain ⟨fields, rfl, hrecord⟩ :=
    h.record ["info", "name", "type_name", "ty", "field", "static", "transient"] rfl (by decide)
  have hspan : fields.required? "info" Span.ofJson? = some v.span := Span.required?_of_shortRecord hrecord 0 rfl rfl
  have htypeName : fields.required? "type_name" TypeName.ofJson? = some v.typeName :=
    hrecord.required? 2 rfl rfl nofun fun _ _ hshort => TypeName.ofJson?_of_abbreviates hshort
  have hty : fields.optional? "ty" Ty.ofJson? = some v.ty? :=
    hrecord.optional? 3 rfl rfl (fun _ => nofun) fun _ _ _ _ hshort => Ty.ofJson?_of_abbreviates hshort
  simp [ofJson?, record?, hspan, hrecord.string? 1 rfl rfl, htypeName, hty, hrecord.flag? 4 rfl (by decide),
    hrecord.flag? 5 rfl (by decide), hrecord.flag? 6 rfl (by decide)]

end Variable

namespace Method

theorem ofJson?_of_abbreviates {m : Method} {json : Json} (h : Abbreviates m.toJson json) :
    ofJson? json = some m := by
  obtain ⟨fields, rfl, hrecord⟩ := h.record methodKeys rfl (by decide)
  have hdeclaring : fields.optional? "declaring_type" Ty.ofJson? = some m.declaringTy :=
    hrecord.optional? 0 rfl rfl (fun _ => nofun) fun _ _ _ _ hshort => Ty.ofJson?_of_abbreviates hshort
  have hparams : fields.defaulted? "params" [] (Json.list? Ty.ofJson?) = some m.params :=
    hrecord.defaulted? (fun tys => arr (tys.map Ty.toJson)) 2 rfl rfl nofun fun _ _ hshort =>
      list?_of_abbreviates hshort fun _ _ _ _ hshort => Ty.ofJson?_of_abbreviates hshort
  have hreturn : fields.required? "return_type" Ty.ofJson? = some m.returnTy :=
    hrecord.required? 3 rfl rfl nofun fun _ _ hshort => Ty.ofJson?_of_abbreviates hshort
  simp [ofJson?, record?, hdeclaring, hrecord.string? 1 rfl rfl, hparams, hreturn]

end Method

namespace VarRef

theorem ofJson?_of_abbreviates {ref : VarRef} {json : Json} (h : Abbreviates ref.toJson json) :
    ofJson? json = some ref := by
  obtain ⟨fields, rfl, hrecord⟩ := h.record ["name", "variable"] rfl (by decide)
  have hname : fields.required? "name" Name.ofJson? = some ref.name :=
    hrecord.required? 0 rfl rfl nofun fun _ _ hshort => Name.ofJson?_of_abbreviates hshort
  have hvariable : fields.optional? "variable" Variable.ofJson? = some ref.bound? :=
    hrecord.optional? 1 rfl rfl (fun _ => nofun) fun _ _ _ _ hshort => Variable.ofJson?_of_abbreviates hshort
  simp [ofJson?, record?, hname, hvariable]

end VarRef

namespace Number

/-- A number that is written without a point. -/
def IsInteger : Number → Prop
  | int _ => True
  | long _ => True
  | float _ => False
  | double _ => False

theorem ofJson?_of_abbreviates {form : RealForm} {number : Number} {json : Json} (hinteger : number.IsInteger)
    (h : Abbreviates (number.toJson form) json) : ofJson? form json = some number := by
  cases number with
  | int value =>
    obtain ⟨content, rfl, hcontent⟩ := h.variant rfl nofun
    cases hcontent
    calc ofJson? form (variant "Int" (ofInt value.toInt))
        = ((ofInt value.toInt).integer? Int32.minValue.toInt Int32.maxValue.toInt).map fun n => int (.ofInt n) := rfl
      _ = some (int value) := by rw [integer?_int32, Option.map_some, Int32.ofInt_toInt]
  | long value =>
    obtain ⟨content, rfl, hcontent⟩ := h.variant rfl nofun
    cases hcontent
    calc ofJson? form (variant "Long" (ofInt value.toInt))
        = ((ofInt value.toInt).integer? Int64.minValue.toInt Int64.maxValue.toInt).map fun n => long (.ofInt n) := rfl
      _ = some (long value) := by rw [integer?_int64, Option.map_some, Int64.ofInt_toInt]
  | float value => exact absurd hinteger id
  | double value => exact absurd hinteger id

end Number

namespace Value

theorem literalToJson_ne_null {form : RealForm} (value : Value) : value.literalToJson form ≠ Json.null := by
  cases value <;> exact nofun

theorem literalOfJson?_of_abbreviates {form : RealForm} {value : Value} {json : Json}
    (hnumber : ∀ n, value = number n → n.IsInteger) (h : Abbreviates (value.literalToJson form) json) :
    literalOfJson? form json = some value := by
  cases value with
  | null =>
    cases h
    rfl
  | boolean b =>
    obtain ⟨content, rfl, hcontent⟩ := h.variant rfl nofun
    cases hcontent
    rfl
  | string text =>
    obtain ⟨content, rfl, hcontent⟩ := h.variant rfl nofun
    cases hcontent
    rfl
  | number n =>
    have hnull : n.toJson form ≠ Json.null := by cases n <;> exact nofun
    obtain ⟨content, rfl, hcontent⟩ := h.variant rfl hnull
    simp [literalOfJson?, variant, variant?, Number.ofJson?_of_abbreviates (hnumber n rfl) hcontent]

end Value

/-- The fields of an expression. -/
def exprKeys : List String := ["info", "conversions", "exception_possible", "kind"]

/-- The fields that an expression is written with. -/
def exprFields (head : Head) (kind : Json) : Fields :=
  [("info", head.span.toJson), ("conversions", head.chain.toJson), ("exception_possible", bool head.mayThrow),
    ("kind", kind)]

namespace Head

/-- All fields of an expression but its kind can be read. -/
theorem all_isReadable_of_shortRecord (form : RealForm) {head : Head} {kind : Json} {fields : Fields}
    (h : ShortRecord (exprFields head kind) exprKeys fields) :
    fields.all fun (key, value) => key = "kind" || value.isReadable form := by
  rw [List.all_eq_true]
  rintro ⟨key, value'⟩ hmem
  obtain ⟨value, hfield, hshort⟩ := h.shortens.exists_mem hmem
  simp only [exprFields, List.mem_cons, Prod.mk.injEq, List.not_mem_nil, or_false] at hfield
  obtain ⟨-, rfl⟩ | ⟨-, rfl⟩ | ⟨-, rfl⟩ | ⟨rfl, -⟩ := hfield
  · simp [hshort.isReadable (Span.isReadable_toJson _ form)]
  · simp [hshort.isReadable (Chain.isReadable_toJson _ form)]
  · simp [hshort.isReadable rfl]
  · simp

theorem ofFields?_of_shortRecord {form : RealForm} {head : Head} {kind : Json} {fields : Fields}
    (h : ShortRecord (exprFields head kind) exprKeys fields) : ofFields? form fields = some head := by
  have hreadable := all_isReadable_of_shortRecord form h
  have hspan : fields.required? "info" Span.ofJson? = some head.span := Span.required?_of_shortRecord h 0 rfl rfl
  have hchain : fields.defaulted? "conversions" .empty (Chain.read? .nullOrEmpty) = some head.chain :=
    h.defaulted? Chain.toJson 1 rfl rfl nofun fun _ _ hshort => Chain.read?_of_abbreviates hshort
  have hmayThrow : fields.flag? "exception_possible" = some head.mayThrow := h.flag? 2 rfl (by decide)
  simp [ofFields?, hreadable, hspan, hchain, hmayThrow]

end Head

end TemplateTree
