import Mathlib.Tactic.Tauto
import TemplateTree.Proofs.Document.Parts
import TemplateTree.Proofs.Json.Dialect

namespace TemplateTree

open Json

variable {α β : Type}

namespace Json

variable {good good' : Prop} {json : Json} {key : String} {full : Fields} {d n : Nat}

/-- Of what is left of a value at any depth, a reader takes it exactly if nothing was lost and the
    value is good. The reader is given the depth that is left. -/
def TakenIff (decode : Nat → Json → Option α) (json : Json) (good : Prop) : Prop :=
  ∀ d n, (json.cut d).depth ≤ n → ((decode n (json.cut d)).isSome ↔ good ∧ json.depth ≤ d)

theorem TakenIff.congr {decode : Nat → Json → Option α} (hgood : good ↔ good') (h : TakenIff decode json good) :
    TakenIff decode json good' :=
  propext hgood ▸ h

theorem TakenIff.map {decode : Nat → Json → Option α} (h : TakenIff decode json good) (f : α → β) :
    TakenIff (fun n value => (decode n value).map f) json good := fun d n hn => by
  rw [Option.isSome_map]
  exact h d n hn

/-- More depth than is needed does no harm. -/
theorem TakenIff.succ {decode : Nat → Json → Option α} (h : TakenIff decode json good) :
    TakenIff (fun n => decode (n + 1)) json good := fun d n hn => h d (n + 1) (Nat.le_succ_of_le hn)

/-- A reader may measure the depth by itself. -/
theorem TakenIff.measured {decode : Nat → Json → Option α} (h : TakenIff decode json good) :
    TakenIff (fun _ value => decode value.depth value) json good := fun d _ _ => h d _ (Nat.le_refl _)

/-- A part of a record and the parts after it. -/
theorem isSome_bind_iff {x : Option α} {f : α → Option β} {rest : Prop} {a b d : Nat} (hx : x.isSome ↔ good ∧ a ≤ d)
    (hf : ∀ v, (f v).isSome ↔ rest ∧ b ≤ d) : (x.bind f).isSome ↔ (good ∧ rest) ∧ max a b ≤ d := by
  rw [Nat.max_le, and_and_and_comm, ← hx]
  cases x with
  | none => simp
  | some v => simp [hf v]

/-- A part that is made up of two. -/
theorem isSome_bind_pair_iff {γ : Type} {x : Option (α × γ)} {f : α × γ → Option β} {rest : Prop} {a b d : Nat}
    (hx : x.isSome ↔ good ∧ a ≤ d) (hf : ∀ v w, (f (v, w)).isSome ↔ rest ∧ b ≤ d) :
    (x.bind f).isSome ↔ (good ∧ rest) ∧ max a b ≤ d :=
  isSome_bind_iff hx fun (v, w) => hf v w

theorem isSome_some_iff {a : α} {d : Nat} : (some a).isSome ↔ True ∧ 0 ≤ d := by simp

theorem isSome_last_iff {x : Option α} {a d : Nat} (hx : x.isSome ↔ good ∧ a ≤ d) : x.isSome ↔ good ∧ max a 0 ≤ d := by
  rwa [Nat.max_zero]

theorem isSome_bind_some_iff {x : Option α} {f : α → β} : (x.bind fun a => some (f a)).isSome ↔ x.isSome := by
  cases x <;> simp

/-- A value without parts. -/
theorem takenIff_leaf {decode : Nat → Json → Option α} (hcut : ∀ d, json.cut d = json) (hdepth : json.depth = 0)
    (h : ∀ n, (decode n json).isSome ↔ good) : TakenIff decode json good := by
  intro d n _
  rw [hcut, hdepth, h]
  simp

theorem takenIff_str (text : String) : TakenIff (fun _ => string?) (str text) True :=
  takenIff_leaf (fun _ => rfl) rfl fun _ => by simp [string?]

theorem takenIff_bool (value : Bool) : TakenIff (fun _ => bool?) (bool value) True :=
  takenIff_leaf (fun _ => rfl) rfl fun _ => by simp [bool?]

theorem takenIff_word (n : UInt64) : TakenIff (fun _ => word?) (ofNat n.toNat) True :=
  takenIff_leaf (fun _ => rfl) rfl fun _ => by simp [word?_ofNat]

/-- A record is lost as a whole or loses parts. -/
theorem takenIff_obj {decode : Nat → Json → Option α} (hnone : ∀ n, decode n unreadable = none)
    (h : ∀ d n, fieldsDepth (cutFields full d) < n →
      ((decode n (obj (cutFields full d))).isSome ↔ good ∧ fieldsDepth full ≤ d)) :
    TakenIff decode (obj full) good := by
  intro d n hn
  cases d with
  | zero => simp [cut, hnone, Json.depth]
  | succ d =>
    rw [cut, Json.depth] at hn
    rw [cut, h d n (by omega), Json.depth]
    simp

/-- A record whose parts are read one after the other. -/
theorem takenIff_record {needed further : List String} {body : Nat → Fields → Option α}
    (h : ∀ d n, fieldsDepth (cutFields full d) ≤ n →
      ((body n (cutFields full d)).isSome ↔ good ∧ fieldsDepth full ≤ d)) :
    TakenIff (fun n value => (value.record? needed further).bind (body n)) (obj full) good :=
  takenIff_obj (fun _ => rfl) fun d n hn => h d n hn.le

/-- A record that takes one of the depth that is left. -/
theorem takenIff_nested {decode : Nat → Json → Option α} {body : Nat → Fields → Option α}
    (hzero : ∀ value, decode 0 value = none) (hnone : ∀ n, decode (n + 1) unreadable = none)
    (hsucc : ∀ n fields, decode (n + 1) (obj fields) = body n fields)
    (h : ∀ d n, fieldsDepth (cutFields full d) ≤ n →
      ((body n (cutFields full d)).isSome ↔ good ∧ fieldsDepth full ≤ d)) :
    TakenIff decode (obj full) good := by
  refine takenIff_obj (fun n => ?_) fun d n hn => ?_
  · cases n with
    | zero => exact hzero _
    | succ n => exact hnone n
  · obtain _ | n := n
    · omega
    rw [hsucc]
    exact h d n (Nat.lt_succ_iff.1 hn)

/-- An alternative is taken if its content is. -/
theorem takenIff_variant {decode inner : Nat → Json → Option α} {label : String} {content : Json}
    (hnone : ∀ n, decode n unreadable = none) (h : TakenIff inner content good)
    (heq : ∀ n value, decode (n + 1) (variant label value) = inner n value) :
    TakenIff decode (variant label content) good := by
  refine takenIff_obj hnone fun d n hn => ?_
  obtain _ | n := n
  · omega
  simp only [cutFields, fieldsDepth] at hn ⊢
  rw [← variant, heq, h d n (by omega)]
  simp

variable {decode : Nat → Json → Option α}

theorem mem_of_lookup?_eq_some {fields : Fields} {value : Json} (h : fields.lookup? key = some (some value)) :
    (key, value) ∈ fields := by
  unfold Fields.lookup? at h
  split at h
  next => cases h
  next _ found heq =>
    obtain rfl := Option.some.inj (Option.some.inj h)
    have hmem := List.mem_filter.1 (heq ▸ List.mem_singleton_self _)
    obtain rfl := of_decide_eq_true hmem.2
    exact hmem.1
  next => cases h

theorem isSome_required?_iff (key : String) (h : TakenIff decode json good)
    (hlookup : Fields.lookup? (cutFields full d) key = some (some (json.cut d)))
    (hn : fieldsDepth (cutFields full d) ≤ n) :
    (Fields.required? (cutFields full d) key (decode n)).isSome ↔ good ∧ json.depth ≤ d := by
  have hdepth := depth_le_fieldsDepth (mem_of_lookup?_eq_some hlookup)
  rw [← h d n (by omega), Fields.required?, hlookup]
  rfl

/-- A field with a default is written all the same. -/
theorem isSome_defaulted?_iff (key : String) {default : α} (h : TakenIff decode json good)
    (hlookup : Fields.lookup? (cutFields full d) key = some (some (json.cut d)))
    (hn : fieldsDepth (cutFields full d) ≤ n) :
    (Fields.defaulted? (cutFields full d) key default (decode n)).isSome ↔ good ∧ json.depth ≤ d := by
  have hdepth := depth_le_fieldsDepth (mem_of_lookup?_eq_some hlookup)
  rw [← h d n (by omega), Fields.defaulted?, hlookup]
  rfl

theorem num_cut_ne_null {numeral : Numeral} {d : Nat} : (num numeral).cut d ≠ null := by
  simp [cut]

theorem obj_cut_ne_null (fields : Fields) (d : Nat) : (obj fields).cut d ≠ null := by
  cases d <;> simp [cut]

theorem arr_cut_ne_null (items : List Json) (d : Nat) : (arr items).cut d ≠ null := by
  cases d <;> simp [cut]

/-- A part that may be missing. -/
theorem isSome_optional?_iff (key : String) {toJson : β → Json} {b? : Option β} {good : β → Prop}
    (h : ∀ b, b? = some b → TakenIff decode (toJson b) (good b)) (hnull : ∀ b d, (toJson b).cut d ≠ null)
    (hlookup : Fields.lookup? (cutFields full d) key = some (some ((ofOption toJson b?).cut d)))
    (hn : fieldsDepth (cutFields full d) ≤ n) :
    (Fields.optional? (cutFields full d) key (decode n)).isSome ↔
      (∀ b, b? = some b → good b) ∧ (ofOption toJson b?).depth ≤ d := by
  have hdepth := depth_le_fieldsDepth (mem_of_lookup?_eq_some hlookup)
  rw [Fields.optional?, hlookup]
  cases b? with
  | none => simp [ofOption, cut, Json.depth]
  | some b =>
    have htaken := h b rfl d n (by rw [ofOption] at hdepth; omega)
    have hcut := hnull b d
    simp only [ofOption, Option.some.injEq, forall_eq']
    rw [← htaken]
    generalize (toJson b).cut d = value at hcut ⊢
    cases value with
    | null => exact absurd rfl hcut
    | _ => exact isSome_bind_some_iff

theorem isSome_mapM_iff {decode : Json → Option α} {items : List Json} :
    (items.mapM decode).isSome ↔ ∀ item ∈ items, (decode item).isSome := by
  induction items with
  | nil => simp
  | cons item rest ih =>
    rw [List.mapM_cons, Option.bind_eq_bind, List.forall_mem_cons, ← ih]
    cases decode item with
    | none => simp
    | some a => simpa using isSome_bind_some_iff

theorem forall_mem_cutItems_iff {toJson : β → Json} {bs : List β} {good : β → Prop}
    (h : ∀ b ∈ bs, TakenIff decode (toJson b) (good b)) (hn : itemsDepth (cutItems (bs.map toJson) d) ≤ n) :
    (∀ item ∈ cutItems (bs.map toJson) d, (decode n item).isSome) ↔
      (∀ b ∈ bs, good b) ∧ itemsDepth (bs.map toJson) ≤ d := by
  induction bs with
  | nil => simp [cutItems, itemsDepth]
  | cons b rest ih =>
    obtain ⟨hb, hrest⟩ := List.forall_mem_cons.1 h
    simp only [List.map_cons, cutItems, itemsDepth, List.forall_mem_cons, Nat.max_le] at hn ⊢
    rw [hb d n hn.1, ih hrest hn.2]
    tauto

/-- An array is taken if all items are. -/
theorem takenIff_arr {toJson : β → Json} {bs : List β} {good : β → Prop}
    (h : ∀ b ∈ bs, TakenIff decode (toJson b) (good b)) :
    TakenIff (fun n => list? (decode n)) (arr (bs.map toJson)) (∀ b ∈ bs, good b) := by
  intro d n hn
  cases d with
  | zero => simp [cut, list?, Json.depth]
  | succ d =>
    rw [cut, Json.depth] at hn
    rw [cut, Json.depth, Nat.add_le_add_iff_right, ← forall_mem_cutItems_iff h (n := n) (by omega)]
    exact isSome_mapM_iff

mutual

/-- Nothing is lost of a readable value that is not too deep. -/
theorem cut_eq_self {form : RealForm} :
    ∀ {json : Json} {d : Nat}, json.isReadable form → json.depth ≤ d → json.cut d = json
  | null, _, _, _ => rfl
  | bool _, _, _, _ => rfl
  | num _, _, _, _ => rfl
  | str _, _, _, _ => rfl
  | arr items, d, hreadable, hdepth => by
    rw [Json.depth] at hdepth
    obtain _ | d := d
    · omega
    rw [cut, cutItems_eq_self hreadable (by omega)]
  | obj fields, d, hreadable, hdepth => by
    rw [Json.depth] at hdepth
    obtain _ | d := d
    · omega
    rw [cut, cutFields_eq_self hreadable (by omega)]
termination_by structural json => json

theorem cutItems_eq_self {form : RealForm} : ∀ {items : List Json} {d : Nat}, areReadable form items →
    itemsDepth items ≤ d → cutItems items d = items
  | [], _, _, _ => rfl
  | item :: rest, d, hreadable, hdepth => by
    rw [areReadable, Bool.and_eq_true] at hreadable
    rw [itemsDepth, Nat.max_le] at hdepth
    rw [cutItems, cut_eq_self hreadable.1 hdepth.1, cutItems_eq_self hreadable.2 hdepth.2]
termination_by structural items => items

theorem cutFields_eq_self {form : RealForm} : ∀ {fields : List (String × Json)} {d : Nat}, fieldsReadable form fields →
    fieldsDepth fields ≤ d → cutFields fields d = fields
  | [], _, _, _ => rfl
  | (key, value) :: rest, d, hreadable, hdepth => by
    rw [fieldsReadable, Bool.and_eq_true] at hreadable
    rw [fieldsDepth, Nat.max_le] at hdepth
    rw [cutFields, cut_eq_self hreadable.1 hdepth.1, cutFields_eq_self hreadable.2 hdepth.2]
termination_by structural fields => fields

end

end Json

namespace Span

theorem takenIff (span : Span) : TakenIff (fun _ => ofJson?) span.toJson True :=
  .congr (by simp) <| takenIff_record fun _ _ hn =>
    isSome_bind_iff (isSome_required?_iff "line" (takenIff_word _) rfl hn) fun _ =>
    isSome_bind_iff (isSome_required?_iff "start" (takenIff_word _) rfl hn) fun _ =>
    isSome_bind_iff (isSome_required?_iff "end" (takenIff_word _) rfl hn) fun _ => isSome_some_iff

end Span

namespace Ty

variable {blank : Blank}

theorem takenIff_of_kind {kind : Kind} {primitive nonNull : Bool}
    (hkind : TakenIff (decodeKind? blank) kind.toJson True) :
    TakenIff (decode? blank) (tyObject kind.toJson primitive nonNull) True :=
  .congr (by simp) <| takenIff_nested (fun _ => rfl) (fun _ => rfl) (fun _ _ => rfl) fun _ _ hn =>
    isSome_bind_iff (isSome_required?_iff "kind" hkind rfl hn) fun _ =>
    isSome_bind_iff (isSome_required?_iff "primitive" (takenIff_bool _) rfl hn) fun _ =>
    isSome_bind_iff (isSome_required?_iff "non_null" (takenIff_bool _) rfl hn) fun _ => isSome_some_iff

theorem takenIff_decodeKind? (kind : Kind) : TakenIff (decodeKind? blank) kind.toJson True := by
  induction kind with
  | named name =>
    exact takenIff_variant (fun n => by cases n <;> rfl) ((takenIff_str name).map Kind.named) fun _ _ => rfl
  | array element primitive nonNull ih =>
    exact takenIff_variant (fun n => by cases n <;> rfl)
      ((takenIff_of_kind ih).map fun ty => Kind.array ty.kind ty.primitive ty.nonNull) fun _ _ => rfl
  | _ => exact takenIff_leaf (fun _ => rfl) rfl fun n => iff_of_true (by cases n <;> rfl) trivial

theorem takenIff_read? (ty : Ty) : TakenIff (fun _ => read? blank) ty.toJson True :=
  (takenIff_of_kind (takenIff_decodeKind? ty.kind)).measured

theorem takenIff (ty : Ty) : TakenIff (fun _ => ofJson?) ty.toJson True := takenIff_read? ty

end Ty

namespace Token

theorem takenIff (token : Token) : TakenIff (fun _ => ofJson?) token.toJson True := by
  have hkind : TakenIff (fun _ => TokenKind.ofJson?) token.kind.toJson True := by
    cases token.kind <;> exact takenIff_leaf (fun _ => rfl) rfl fun _ => iff_of_true rfl trivial
  exact .congr (by simp) <| takenIff_record fun _ _ hn =>
    isSome_bind_iff (isSome_required?_iff "kind" hkind rfl hn) fun _ =>
    isSome_bind_iff (isSome_defaulted?_iff "info" token.span.takenIff rfl hn) fun _ => isSome_some_iff

end Token

namespace Chain

theorem takenIff_step {blank : Blank} (step : Conversion) :
    TakenIff (fun _ => Conversion.read? blank) step.toJson True :=
  .congr (by simp) <| takenIff_record fun _ _ hn =>
    isSome_bind_iff (isSome_optional?_iff "from" (fun ty _ => ty.takenIff_read?) (fun _ => obj_cut_ne_null _) rfl hn) fun _ =>
    isSome_bind_iff (isSome_required?_iff "to" step.target.takenIff_read? rfl hn) fun _ =>
    isSome_bind_iff (isSome_required?_iff "cast_preferred" (takenIff_bool _) rfl hn) fun _ => isSome_some_iff

theorem takenIff {blank : Blank} (chain : Chain) : TakenIff (fun _ => read? blank) chain.toJson True :=
  .congr (by simp) ((takenIff_arr fun step _ => takenIff_step step).map Chain.mk)

end Chain

namespace Name

theorem takenIff (name : Name) : TakenIff (fun _ => ofJson?) name.toJson True :=
  .congr (by simp) <| takenIff_record fun _ _ hn =>
    isSome_bind_iff (isSome_required?_iff "info" name.span.takenIff rfl hn) fun _ =>
    isSome_bind_iff (isSome_required?_iff "name" (takenIff_str _) rfl hn) fun _ => isSome_some_iff

end Name

namespace TypeName

theorem takenIff (name : TypeName) : TakenIff (fun _ => ofJson?) name.toJson True :=
  .congr (by simp) <| takenIff_record fun _ _ hn =>
    isSome_bind_iff (isSome_required?_iff "info" name.span.takenIff rfl hn) fun _ =>
    isSome_bind_iff (isSome_required?_iff "name" (takenIff_str _) rfl hn) fun _ =>
    isSome_bind_iff (isSome_optional?_iff "dimensions" (fun n _ => takenIff_word n) (fun _ _ => num_cut_ne_null) rfl hn) fun _ =>
    isSome_bind_iff (isSome_optional?_iff "ty" (fun ty _ => ty.takenIff) (fun _ => obj_cut_ne_null _) rfl hn) fun _ =>
    isSome_some_iff

end TypeName

namespace Variable

theorem takenIff (v : Variable) : TakenIff (fun _ => ofJson?) v.toJson True :=
  .congr (by simp) <| takenIff_record fun _ _ hn =>
    isSome_bind_iff (isSome_required?_iff "info" v.span.takenIff rfl hn) fun _ =>
    isSome_bind_iff (isSome_required?_iff "name" (takenIff_str _) rfl hn) fun _ =>
    isSome_bind_iff (isSome_required?_iff "type_name" v.typeName.takenIff rfl hn) fun _ =>
    isSome_bind_iff (isSome_optional?_iff "ty" (fun ty _ => ty.takenIff) (fun _ => obj_cut_ne_null _) rfl hn) fun _ =>
    isSome_bind_iff (isSome_defaulted?_iff "field" (takenIff_bool _) rfl hn) fun _ =>
    isSome_bind_iff (isSome_defaulted?_iff "static" (takenIff_bool _) rfl hn) fun _ =>
    isSome_bind_iff (isSome_defaulted?_iff "transient" (takenIff_bool _) rfl hn) fun _ => isSome_some_iff

end Variable

namespace Method

theorem takenIff (m : Method) : TakenIff (fun _ => ofJson?) m.toJson True :=
  .congr (by simp) <| takenIff_record fun _ _ hn =>
    isSome_bind_iff (isSome_optional?_iff "declaring_type" (fun ty _ => ty.takenIff) (fun _ => obj_cut_ne_null _) rfl hn)
      fun _ =>
    isSome_bind_iff (isSome_required?_iff "name" (takenIff_str _) rfl hn) fun _ =>
    isSome_bind_iff (isSome_defaulted?_iff "params" (takenIff_arr fun ty _ => ty.takenIff) rfl hn) fun _ =>
    isSome_bind_iff (isSome_required?_iff "return_type" m.returnTy.takenIff rfl hn) fun _ => isSome_some_iff

end Method

namespace VarRef

theorem takenIff (ref : VarRef) : TakenIff (fun _ => ofJson?) ref.toJson True :=
  .congr (by simp) <| takenIff_record fun _ _ hn =>
    isSome_bind_iff (isSome_required?_iff "name" ref.name.takenIff rfl hn) fun _ =>
    isSome_bind_iff (isSome_optional?_iff "variable" (fun v _ => v.takenIff) (fun _ => obj_cut_ne_null _) rfl hn) fun _ =>
    isSome_some_iff

end VarRef

namespace Number

/-- A number that is not infinite and not a NaN. -/
def IsFinite : Number → Prop
  | int _ => True
  | long _ => True
  | float x => (singleDatum x).IsFinite
  | double x => (doubleDatum x).IsFinite

/-- A floating-point number is written as a numeral if it is finite, and every such numeral is read. -/
theorem takenIff_real {coding : Coding α} {IsFinite : α → Prop} (hcoding : coding.Lawful IsFinite) (x : α) :
    TakenIff (fun _ => coding.decode?) (coding.encode x) (IsFinite x) := by
  by_cases hx : IsFinite x
  · obtain ⟨numeral, hencode, -, hdecode⟩ := hcoding.finite hx
    rw [hencode]
    exact takenIff_leaf (fun _ => rfl) rfl fun _ => iff_of_true hdecode hx
  · rw [hcoding.encode_eq_null hx]
    exact takenIff_leaf (fun _ => rfl) rfl fun _ => iff_of_false (by simp [hcoding.decode?_null]) hx

theorem takenIff {form : RealForm} (hform : form.Lawful) (number : Number) :
    TakenIff (fun _ => ofJson? form) (number.toJson form) number.IsFinite := by
  cases number with
  | int value =>
    have hcontent : TakenIff (fun _ => Json.integer? Int32.minValue.toInt Int32.maxValue.toInt) (ofInt value.toInt) True :=
      takenIff_leaf (fun _ => rfl) rfl fun _ => by
        rw [integer?_int32]
        simp
    exact takenIff_variant (fun _ => rfl) (hcontent.map fun n => int (.ofInt n)) fun _ _ => rfl
  | long value =>
    have hcontent : TakenIff (fun _ => Json.integer? Int64.minValue.toInt Int64.maxValue.toInt) (ofInt value.toInt) True :=
      takenIff_leaf (fun _ => rfl) rfl fun _ => by
        rw [integer?_int64]
        simp
    exact takenIff_variant (fun _ => rfl) (hcontent.map fun n => long (.ofInt n)) fun _ _ => rfl
  | float x => exact takenIff_variant (fun _ => rfl) ((takenIff_real hform.single x).map float) fun _ _ => rfl
  | double x => exact takenIff_variant (fun _ => rfl) ((takenIff_real hform.double x).map double) fun _ _ => rfl

end Number

/-- The number of a literal is finite. -/
def Value.IsFinite (value : Value) : Prop := ∀ n, value = .number n → n.IsFinite

theorem Expr.takenIff_decodeKind?_literal {form : RealForm} (hform : form.Lawful) (head : Head) (value : Value) :
    TakenIff (fun n => Expr.decodeKind? form n head) (value.literalToJson form) value.IsFinite := by
  have hnone (n : Nat) : decodeKind? form n head unreadable = none := by cases n <;> rfl
  cases value with
  | null =>
    exact takenIff_leaf (fun _ => rfl) rfl fun n => iff_of_true (by cases n <;> rfl) nofun
  | boolean b =>
    refine .congr (iff_of_true trivial nofun) ?_
    exact takenIff_variant hnone (((takenIff_bool b).map Value.boolean).map (literal head)) fun _ _ => rfl
  | string text =>
    refine .congr (iff_of_true trivial nofun) ?_
    exact takenIff_variant hnone (((takenIff_str text).map Value.string).map (literal head)) fun _ _ => rfl
  | number number =>
    have hgood : number.IsFinite ↔ (Value.number number).IsFinite := by simp [Value.IsFinite]
    exact .congr hgood
      (takenIff_variant hnone (((number.takenIff hform).map Value.number).map (literal head)) fun _ _ => rfl)

namespace Head

theorem all_isReadable_cutFields {form : RealForm} {head : Head} {kind : Json} {d : Nat}
    (h : max head.span.toJson.depth (max head.chain.toJson.depth 0) ≤ d) :
    List.all (cutFields (exprFields head kind) d) fun (key, value) => key = "kind" || value.isReadable form := by
  rw [Nat.max_le, Nat.max_le] at h
  have hspan := head.span.isReadable_toJson form
  have hchain := head.chain.isReadable_toJson form
  simp [exprFields, cutFields, cut_eq_self hspan h.1, cut_eq_self hchain h.2.1, hspan, hchain, cut, isReadable]

/-- The parts that all expressions have in common. -/
theorem isSome_ofFields?_iff {form : RealForm} {head : Head} {kind : Json} {d : Nat} :
    (ofFields? form (cutFields (exprFields head kind) d)).isSome ↔
      True ∧ max head.span.toJson.depth (max head.chain.toJson.depth 0) ≤ d := by
  have hn := Nat.le_refl (fieldsDepth (cutFields (exprFields head kind) d))
  rw [ofFields?, guard]
  split
  · refine Iff.trans (isSome_bind_iff isSome_some_iff fun _ =>
      isSome_bind_iff (isSome_required?_iff "info" head.span.takenIff rfl hn) fun _ =>
      isSome_bind_iff (isSome_defaulted?_iff "conversions" head.chain.takenIff rfl hn) fun _ =>
      isSome_bind_iff (isSome_defaulted?_iff "exception_possible" (takenIff_bool _) rfl hn) fun _ => isSome_some_iff) ?_
    simp [Json.depth]
  next hguard => exact iff_of_false Bool.false_ne_true fun h => hguard (all_isReadable_cutFields h.2)

end Head

end TemplateTree
