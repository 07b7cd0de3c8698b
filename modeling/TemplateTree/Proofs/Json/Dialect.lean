import TemplateTree.Json.Standard
import TemplateTree.Proofs.Json.Reader
import TemplateTree.Proofs.Json.Real

namespace TemplateTree

/-- A datum that is a number and not infinite. -/
def Binary.Datum.IsFinite : Binary.Datum → Prop
  | .finite .. => True
  | _ => False

theorem Numeral.isSome_ofDatum?_iff {format : Binary.Format} {positional : Positional} {datum : Binary.Datum} :
    (ofDatum? format positional datum).isSome ↔ datum.IsFinite := by
  cases datum with
  | finite negative m e =>
    rw [ofDatum?]
    split <;> simp [Binary.Datum.IsFinite]
  | _ => simp [ofDatum?, Binary.Datum.IsFinite]

namespace Json

/-- What is relied on of numbers: a finite one is written as a numeral that can be read, any other as
    null, and null is no number. -/
structure Coding.Lawful {α : Type} (coding : Coding α) (IsFinite : α → Prop) : Prop where
  finite {x : α} : IsFinite x →
    ∃ numeral, coding.encode x = num numeral ∧ numeral.WellFormed ∧ (coding.decode? (num numeral)).isSome
  encode_eq_null {x : α} : ¬ IsFinite x → coding.encode x = null
  decode?_null : coding.decode? null = none

theorem Coding.Lawful.wellFormed_encode {α : Type} {coding : Coding α} {IsFinite : α → Prop}
    (h : coding.Lawful IsFinite) (x : α) : (coding.encode x).WellFormed := by
  by_cases hx : IsFinite x
  · obtain ⟨numeral, hencode, hnumeral, -⟩ := h.finite hx
    rwa [hencode]
  · rw [h.encode_eq_null hx]
    trivial

theorem Coding.lawful_ofNumeral {α : Type} {numeral? : α → Option Numeral} {value? : Numeral → Option α}
    {IsFinite : α → Prop} (hfinite : ∀ x, (numeral? x).isSome ↔ IsFinite x)
    (h : ∀ x numeral, numeral? x = some numeral → numeral.WellFormed ∧ (value? numeral).isSome) :
    (Coding.ofNumeral numeral? value?).Lawful IsFinite where
  finite hx := by
    obtain ⟨numeral, hnumeral⟩ := Option.isSome_iff_exists.1 ((hfinite _).2 hx)
    exact ⟨numeral, by simp [ofNumeral, hnumeral], h _ numeral hnumeral⟩
  encode_eq_null hx := by
    rw [← hfinite, Option.not_isSome_iff_eq_none] at hx
    simp [ofNumeral, hx]
  decode?_null := rfl

end Json

/-- What is relied on of the numbers of both widths. -/
structure RealForm.Lawful (form : RealForm) : Prop where
  single : form.single.Lawful fun x => (singleDatum x).IsFinite
  double : form.double.Lawful fun x => (doubleDatum x).IsFinite

theorem RealForm.lawful_decimal : RealForm.decimal.Lawful where
  single := Json.Coding.lawful_ofNumeral (fun _ => Numeral.isSome_ofDatum?_iff) fun _ _ => Numeral.ofSingle?_eq_some
  double := Json.Coding.lawful_ofNumeral (fun _ => Numeral.isSome_ofDatum?_iff) fun _ _ => Numeral.ofDouble?_eq_some

namespace Json

/-- What is relied on of texts: a value is read from the line that it is printed to, less what is
    nested too deep. -/
structure Dialect.Lawful (dialect : Dialect) : Prop where
  reals : dialect.reals.Lawful
  parse?_print {json : Json} : json.WellFormed →
    dialect.parse? (dialect.print json ++ "\n") = some (json.cut dialect.maxDepth)

theorem Dialect.lawful_standard : Dialect.standard.Lawful where
  reals := RealForm.lawful_decimal
  parse?_print h := parse?_pretty h 127

end Json

end TemplateTree
