import TemplateTree.Proofs.Json.Numeral
import Mathlib.Data.List.Forall2

namespace TemplateTree

namespace Json

/-- Flags, which are off unless they are set. -/
def flagKeys : List String :=
  ["exception_possible", "void_permitted", "associative", "field", "static", "transient", "reverse",
    "substitution_param"]

/-- The fields of a token. -/
def tokenKeys : List String := ["kind", "info"]

/-- The fields of a list of expressions. -/
def exprListKeys : List String := ["info", "expressions"]

/-- The fields of a method. -/
def methodKeys : List String := ["declaring_type", "name", "params", "return_type"]

/-- The default of a field in a record with the given fields, if it has one besides null. -/
def default? (keys : List String) (key : String) : Option Json :=
  if key ∈ flagKeys then some (bool false)
  else if key = "conversions" || key = "params" && keys = methodKeys then some (arr [])
  else if key = "info" && (keys = tokenKeys || keys = exprListKeys) then some Span.unknown.toJson
  else none

theorem obj_ne_null (fields : Fields) : obj fields ≠ null := nofun

/-- A field with this value can be left out. -/
def MayOmit (keys : List String) (key : String) (value : Json) : Prop :=
  value = null ∨ default? keys key = some value

/-- The fields of a record with the given keys, each written in a form of its own or left out. -/
inductive Shortens (short : Json → Json → Prop) : Fields → List String → Fields → Prop
  | nil (keys : List String) : Shortens short [] keys []
  | kept {keys : List String} {key : String} {value value' : Json} {full fields : Fields} :
      short value value' → Shortens short full keys fields →
        Shortens short ((key, value) :: full) keys ((key, value') :: fields)
  | dropped {keys : List String} {key : String} {value : Json} {full fields : Fields} :
      MayOmit keys key value → Shortens short full keys fields → Shortens short ((key, value) :: full) keys fields

/-- A value and one of its short forms: anywhere in it, fields may be left out that are null or have
    their default. -/
inductive Abbreviates : Json → Json → Prop
  | null : Abbreviates null null
  | bool (value : Bool) : Abbreviates (bool value) (bool value)
  | num (numeral : Numeral) : Abbreviates (num numeral) (num numeral)
  | str (value : String) : Abbreviates (str value) (str value)
  | arr {items items' : List Json} : List.Forall₂ Abbreviates items items' → Abbreviates (arr items) (arr items')
  | obj {fields fields' : Fields} :
      Shortens Abbreviates fields (fields.map Prod.fst) fields' → Abbreviates (obj fields) (obj fields')
  | unreadable : Abbreviates unreadable unreadable

mutual

/-- Nothing has to be left out. -/
theorem Abbreviates.refl : ∀ json : Json, Abbreviates json json
  | .null => .null
  | .bool value => .bool value
  | .num numeral => .num numeral
  | .str value => .str value
  | .arr items => .arr (forall₂_abbreviates_refl items)
  | .obj fields => .obj (shortens_refl _ fields)
  | .unreadable => .unreadable

theorem forall₂_abbreviates_refl : ∀ items : List Json, List.Forall₂ Abbreviates items items
  | [] => .nil
  | item :: rest => .cons (Abbreviates.refl item) (forall₂_abbreviates_refl rest)

theorem shortens_refl (keys : List String) : ∀ fields : Fields, Shortens Abbreviates fields keys fields
  | [] => .nil keys
  | (_, value) :: rest => .kept (Abbreviates.refl value) (shortens_refl keys rest)

end

mutual

/-- A short form can be read if the value can. -/
theorem Abbreviates.isReadable {form : RealForm} :
    ∀ {json short : Json}, Abbreviates json short → json.isReadable form → short.isReadable form
  | .null, _, .null, h => h
  | .bool _, _, .bool _, h => h
  | .num _, _, .num _, h => h
  | .str _, _, .str _, h => h
  | .arr _, _, .arr hitems, h => areReadable_of_abbreviates hitems h
  | .obj _, _, .obj hfields, h => fieldsReadable_of_shortens hfields h
  | .unreadable, _, .unreadable, h => h

theorem areReadable_of_abbreviates {form : RealForm} :
    ∀ {items short : List Json}, List.Forall₂ Abbreviates items short → areReadable form items → areReadable form short
  | [], _, .nil, h => h
  | _ :: _, _, .cons hitem hrest, h => by
    simp only [areReadable, Bool.and_eq_true] at h ⊢
    exact ⟨hitem.isReadable h.1, areReadable_of_abbreviates hrest h.2⟩

theorem fieldsReadable_of_shortens {form : RealForm} {keys : List String} :
    ∀ {fields short : Fields}, Shortens Abbreviates fields keys short → fieldsReadable form fields →
      fieldsReadable form short
  | [], _, .nil _, h => h
  | (_, _) :: _, _, .kept hvalue hrest, h => by
    simp only [fieldsReadable, Bool.and_eq_true] at h ⊢
    exact ⟨hvalue.isReadable h.1, fieldsReadable_of_shortens hrest h.2⟩
  | (_, _) :: _, _, .dropped _ hrest, h => by
    simp only [fieldsReadable, Bool.and_eq_true] at h
    exact fieldsReadable_of_shortens hrest h.2

end

namespace Abbreviates

theorem eq_null {json : Json} (h : Abbreviates json .null) : json = .null := by
  cases h
  rfl

end Abbreviates

theorem depth_le_fieldsDepth {key : String} {value : Json} :
    ∀ {fields : Fields}, (key, value) ∈ fields → value.depth ≤ fieldsDepth fields
  | (_, _) :: rest, h => by
    rw [fieldsDepth]
    rcases List.mem_cons.1 h with heq | hrest
    · cases heq
      exact Nat.le_max_left _ _
    · exact Nat.le_trans (depth_le_fieldsDepth hrest) (Nat.le_max_right _ _)

namespace Shortens

variable {keys : List String} {key : String} {value : Json} {full fields : Fields}

/-- A short form has no fields of its own. -/
theorem filter_eq_nil {short : Json → Json → Prop} (h : Shortens short full keys fields)
    (hkey : key ∉ full.map Prod.fst) : fields.filter (·.1 = key) = [] := by
  induction h with
  | nil => rfl
  | kept _ _ ih =>
    simp only [List.map_cons, List.mem_cons, not_or] at hkey
    rw [List.filter_cons_of_neg (by simpa using Ne.symm hkey.1), ih hkey.2]
  | dropped _ _ ih =>
    simp only [List.map_cons, List.mem_cons, not_or] at hkey
    exact ih hkey.2

theorem exists_mem {short : Json → Json → Prop} {value' : Json} (h : Shortens short full keys fields)
    (hmem : (key, value') ∈ fields) : ∃ value, (key, value) ∈ full ∧ short value value' := by
  induction h with
  | nil => exact absurd hmem List.not_mem_nil
  | kept hshort _ ih =>
    rcases List.mem_cons.1 hmem with heq | hmem
    · cases heq
      exact ⟨_, List.mem_cons_self, hshort⟩
    · obtain ⟨value, hvalue, hshort⟩ := ih hmem
      exact ⟨value, List.mem_cons_of_mem _ hvalue, hshort⟩
  | dropped _ _ ih =>
    obtain ⟨value, hvalue, hshort⟩ := ih hmem
    exact ⟨value, List.mem_cons_of_mem _ hvalue, hshort⟩

/-- A field of a record with different keys is either there once, in short form, or left out. -/
theorem lookup? (h : Shortens Abbreviates full keys fields) (hnodup : (full.map Prod.fst).Nodup)
    (hmem : (key, value) ∈ full) :
    (∃ value', fields.lookup? key = some (some value') ∧ Abbreviates value value' ∧ (key, value') ∈ fields) ∨
      fields.lookup? key = some none ∧ MayOmit keys key value := by
  suffices hfilter :
      (∃ value', fields.filter (·.1 = key) = [(key, value')] ∧ Abbreviates value value') ∨
        fields.filter (·.1 = key) = [] ∧ MayOmit keys key value by
    obtain ⟨value', hfound, hshort⟩ | ⟨hnone, homit⟩ := hfilter
    · have hthere : (key, value') ∈ fields.filter (·.1 = key) := by simp [hfound]
      exact .inl ⟨value', by rw [Fields.lookup?, hfound], hshort, List.mem_of_mem_filter hthere⟩
    · exact .inr ⟨by rw [Fields.lookup?, hnone], homit⟩
  induction h with
  | nil => exact absurd hmem List.not_mem_nil
  | @kept keys key₁ value₁ value₁' full fields hshort hrest ih =>
    obtain ⟨hnew, hnodup⟩ := List.nodup_cons.1 hnodup
    rcases List.mem_cons.1 hmem with heq | hmem
    · cases heq
      exact .inl ⟨value₁', by rw [List.filter_cons_of_pos (by simp), hrest.filter_eq_nil hnew], hshort⟩
    · have hne : key₁ ≠ key := fun heq => hnew (List.mem_map.2 ⟨(key, value), hmem, heq.symm⟩)
      rw [List.filter_cons_of_neg (by simpa using hne)]
      exact ih hnodup hmem
  | @dropped keys key₁ value₁ full fields homit hrest ih =>
    obtain ⟨hnew, hnodup⟩ := List.nodup_cons.1 hnodup
    rcases List.mem_cons.1 hmem with heq | hmem
    · cases heq
      exact .inr ⟨hrest.filter_eq_nil hnew, homit⟩
    · exact ih hnodup hmem

end Shortens

/-- A short form of a record whose fields have different names. -/
structure ShortRecord (full : Fields) (keys : List String) (fields : Fields) : Prop where
  keys_eq : full.map Prod.fst = keys
  nodup : keys.Nodup
  shortens : Shortens Abbreviates full keys fields

theorem Abbreviates.record {full : Fields} {json : Json} (h : Abbreviates (.obj full) json) (keys : List String)
    (hkeys : full.map Prod.fst = keys) (hnodup : keys.Nodup) :
    ∃ fields : Fields, json = .obj fields ∧ ShortRecord full keys fields := by
  cases h with
  | obj hfields => exact ⟨_, rfl, hkeys, hnodup, hkeys ▸ hfields⟩

/-- An alternative is written with its content in any case, unless that is null. -/
theorem Abbreviates.variant {name : String} {content json : Json} (h : Abbreviates (.variant name content) json)
    (hdefault : default? [name] name = none) (hnull : content ≠ .null) :
    ∃ content', json = .variant name content' ∧ Abbreviates content content' := by
  cases h with
  | obj hfields =>
    cases hfields with
    | kept hshort hrest =>
      cases hrest
      exact ⟨_, rfl, hshort⟩
    | dropped homit _ =>
      obtain hempty | heq := homit
      · exact absurd hempty hnull
      · exact absurd (hdefault.symm.trans heq) nofun

theorem Abbreviates.items {items : List Json} {json : Json} (h : Abbreviates (.arr items) json) :
    ∃ items', json = .arr items' ∧ List.Forall₂ Abbreviates items items' := by
  cases h with
  | arr hitems => exact ⟨_, rfl, hitems⟩

namespace ShortRecord

variable {α : Type} {keys : List String} {key : String} {value : Json} {full fields : Fields}
  {decode : Json → Option α} {encode : α → Json} {a : α}

theorem lookup? (h : ShortRecord full keys fields) (i : Nat) (hfield : full[i]? = some (key, value)) :
    (∃ value', fields.lookup? key = some (some value') ∧ Abbreviates value value' ∧ (key, value') ∈ fields) ∨
      fields.lookup? key = some none ∧ MayOmit keys key value :=
  h.shortens.lookup? (h.keys_eq ▸ h.nodup) (List.mem_of_getElem? hfield)

/-- A field that must be there, cannot be left out and is understood in its short forms. The field
    is given by its place in the record. -/
theorem required? (h : ShortRecord full keys fields) (i : Nat) (hfield : full[i]? = some (key, value))
    (hdefault : default? keys key = none) (hnull : value ≠ null)
    (hdecode : ∀ value', value'.depth ≤ fieldsDepth fields → Abbreviates value value' → decode value' = some a) :
    fields.required? key decode = some a := by
  obtain ⟨value', hfound, hshort, hthere⟩ | ⟨-, hempty | heq⟩ := h.lookup? i hfield
  · simp [Fields.required?, hfound, hdecode value' (depth_le_fieldsDepth hthere) hshort]
  · exact absurd hempty hnull
  · exact absurd (hdefault.symm.trans heq) nofun

/-- Reading tells the default from every other value, so only the default itself is left out. -/
theorem defaulted? {default : α} (h : ShortRecord full keys fields) (encode : α → Json) (i : Nat)
    (hfield : full[i]? = some (key, encode a)) (hdefault : default? keys key = some (encode default)) (hnull : encode a ≠ null)
    (hdecode : ∀ b value', Abbreviates (encode b) value' → decode value' = some b) :
    fields.defaulted? key default decode = some a := by
  obtain ⟨value', hfound, hshort, hthere⟩ | ⟨hnone, hempty | heq⟩ := h.lookup? i hfield
  · simp [Fields.defaulted?, hfound, hdecode a value' hshort]
  · exact absurd hempty hnull
  · have hsame : encode default = encode a := Option.some_inj.1 (hdefault.symm.trans heq)
    have hread := hdecode default (encode default) (.refl _)
    rw [hsame, hdecode a (encode a) (.refl _)] at hread
    simp [Fields.defaulted?, hnone, Option.some_inj.1 hread]

theorem flag? {b : Bool} (h : ShortRecord full keys fields) (i : Nat) (hfield : full[i]? = some (key, bool b))
    (hkey : key ∈ flagKeys) :
    fields.flag? key = some b := by
  refine h.defaulted? Json.bool i hfield (if_pos hkey) nofun fun c value' hshort => ?_
  cases hshort
  rfl

theorem optional? {a? : Option α} (h : ShortRecord full keys fields) (i : Nat)
    (hfield : full[i]? = some (key, ofOption encode a?)) (hdefault : default? keys key = none) (hnull : ∀ a, encode a ≠ null)
    (hdecode : ∀ a, a? = some a → ∀ value', value'.depth ≤ fieldsDepth fields → Abbreviates (encode a) value' →
      decode value' = some a) :
    fields.optional? key decode = some a? := by
  obtain ⟨value', hfound, hshort, hthere⟩ | ⟨hnone, hempty | heq⟩ := h.lookup? i hfield
  · cases a? with
    | none =>
      cases hshort
      simp [Fields.optional?, hfound]
    | some a =>
      have hread := hdecode a rfl value' (depth_le_fieldsDepth hthere) hshort
      cases value' with
      | null => exact absurd hshort.eq_null (hnull a)
      | _ => simp [Fields.optional?, hfound, hread]
  · cases a? with
    | none => simp [Fields.optional?, hnone]
    | some a => exact absurd hempty (hnull a)
  · exact absurd (hdefault.symm.trans heq) nofun

/-- A field that holds a text. -/
theorem string? {text : String} (h : ShortRecord full keys fields) (i : Nat) (hfield : full[i]? = some (key, str text))
    (hdefault : default? keys key = none) : fields.required? key Json.string? = some text := by
  refine h.required? i hfield hdefault nofun fun value' _ hshort => ?_
  cases hshort
  rfl

/-- A truth value that must be there. -/
theorem bool? {b : Bool} (h : ShortRecord full keys fields) (i : Nat) (hfield : full[i]? = some (key, bool b))
    (hdefault : default? keys key = none) : fields.required? key Json.bool? = some b := by
  refine h.required? i hfield hdefault nofun fun value' _ hshort => ?_
  cases hshort
  rfl

end ShortRecord

/-- The items of a short form are read one by one. -/
theorem list?_of_abbreviates {α : Type} {decode : Json → Option α} {encode : α → Json} {as : List α} {json : Json}
    (h : Abbreviates (arr (as.map encode)) json)
    (hdecode : ∀ a ∈ as, ∀ value', value'.depth < json.depth → Abbreviates (encode a) value' → decode value' = some a) :
    json.list? decode = some as := by
  obtain ⟨items, rfl, hitems⟩ := h.items
  rw [depth] at hdecode
  have hmapM : items.mapM decode = some as := by
    clear h
    induction as generalizing items with
    | nil =>
      cases hitems
      rfl
    | cons a rest ih =>
      cases hitems with
      | cons hitem hrest =>
        obtain ⟨hfirst, hothers⟩ := List.forall_mem_cons.1 hdecode
        rw [itemsDepth] at hfirst hothers
        have hread := hfirst _ (by omega) hitem
        have hreads := ih _ hrest fun b hb value' hdepth => hothers b hb value' (by omega)
        simp [hread, hreads]
  exact hmapM

end Json

end TemplateTree
