import TemplateTree.Ty.Assignable

namespace TemplateTree

namespace Kind

/-- Why a variable of one class can hold every value of another. -/
inductive Holds : Kind → Kind → Prop
  | same {target source : Kind} (hclass : target.widest = source.widest) : Holds target source
  | object {target source : Kind} (htarget : target.widest = object) (hsource : source ≠ void) : Holds target source
  | number {source : Kind} (hsource : source.isNumber) : Holds number source
  | array {target source : Kind} {targetNonNull sourceNonNull : Bool} (helements : Holds target source) :
    Holds (array target false targetNonNull) (array source false sourceNonNull)

theorem widest_eq_object_iff {kind : Kind} : kind.widest = object ↔ kind = object ∨ kind = null := by
  cases kind <;> simp [widest]

/-- Only the class of all objects has two names. -/
theorem eq_of_widest_eq {a b : Kind} (h : a.widest = b.widest) (hobject : b.widest ≠ object) : a = b := by
  cases a <;> cases b <;> simp_all [widest]

theorem isNumber_ne_void {kind : Kind} (h : kind.isNumber) : kind ≠ void := by
  rintro rfl
  cases h

theorem widest_ne_object_of_isNumber {kind : Kind} (h : kind.isNumber) : kind.widest ≠ object := by
  intro hobject
  obtain rfl | rfl := widest_eq_object_iff.1 hobject <;> cases h

theorem holds_of_accepts {target source : Kind} (h : target.accepts source) : target.Holds source := by
  fun_induction accepts target source with
  | case1 target targetPrimitive targetNonNull source sourcePrimitive sourceNonNull ih =>
    simp only [Bool.or_eq_true, Bool.and_eq_true, decide_eq_true_eq, Bool.not_eq_true'] at h
    obtain heq | ⟨⟨rfl, rfl⟩, helements⟩ := h
    · exact .same (congrArg widest heq)
    · exact .array (ih helements)
  | case2 target source =>
    simp only [Bool.or_eq_true, Bool.and_eq_true, decide_eq_true_eq] at h
    obtain hclass | ⟨⟨-, hsource⟩, hobject | ⟨rfl, hnumber⟩⟩ := h
    · exact .same hclass
    · exact .object hobject hsource
    · exact .number hnumber

theorem accepts_of_widest_eq {target source : Kind} (h : target.widest = source.widest) : target.accepts source := by
  by_cases hobject : source.widest = object
  · obtain rfl | rfl := widest_eq_object_iff.1 (h.trans hobject) <;>
      obtain rfl | rfl := widest_eq_object_iff.1 hobject <;> rfl
  · obtain rfl := eq_of_widest_eq h hobject
    cases target <;> simp [accepts]

theorem accepts_of_holds {target source : Kind} (h : target.Holds source) : target.accepts source := by
  induction h with
  | same hclass => exact accepts_of_widest_eq hclass
  | object htarget hsource =>
    obtain rfl | rfl := widest_eq_object_iff.1 htarget <;> simp [accepts, widest, hsource]
  | number hsource => simp [accepts, isNumber_ne_void hsource, hsource]
  | array _ ih => simp [accepts, ih]

theorem accepts_iff_holds {target source : Kind} : target.accepts source ↔ target.Holds source :=
  ⟨holds_of_accepts, accepts_of_holds⟩

namespace Holds

variable {a b c : Kind}

/-- What is held by another class than void is not void. -/
theorem ne_void (h : a.Holds b) (ha : a ≠ void) : b ≠ void := by
  cases h with
  | same hclass =>
    rintro rfl
    exact ha (eq_of_widest_eq hclass (by simp [widest]))
  | object _ hsource => exact hsource
  | number hsource => exact isNumber_ne_void hsource
  | array => simp

/-- Both names of the class of all objects hold the same. -/
theorem of_widest_eq (h : b.Holds c) (hclass : a.widest = b.widest) : a.Holds c := by
  by_cases hobject : b.widest = Kind.object
  · cases h with
    | same hsource => exact .same (hclass.trans hsource)
    | object _ hsource => exact .object (hclass.trans hobject) hsource
    | number | array => simp [widest] at hobject
  · obtain rfl := eq_of_widest_eq hclass hobject
    exact h

/-- What a numeric class holds is numeric. -/
theorem isNumber (h : a.Holds b) (ha : a.isNumber) : b.isNumber := by
  cases h with
  | same hclass =>
    obtain rfl := eq_of_widest_eq hclass.symm (widest_ne_object_of_isNumber ha)
    exact ha
  | object htarget => exact absurd htarget (widest_ne_object_of_isNumber ha)
  | number hsource => exact hsource
  | array => cases ha

/-- An array of objects holds nothing but itself and arrays of what its elements hold. -/
theorem array_cases {nonNull : Bool} (h : (Kind.array a false nonNull).Holds c) :
    c = Kind.array a false nonNull ∨ ∃ b sourceNonNull, c = Kind.array b false sourceNonNull ∧ a.Holds b := by
  cases h with
  | same hclass => exact .inl (eq_of_widest_eq hclass.symm (by simp [widest]))
  | object htarget => simp [widest] at htarget
  | array helements => exact .inr ⟨_, _, rfl, helements⟩

theorem trans (hab : a.Holds b) (hbc : b.Holds c) : a.Holds c := by
  induction hab generalizing c with
  | same hclass => exact hbc.of_widest_eq hclass
  | object htarget hsource => exact .object htarget (hbc.ne_void hsource)
  | number hsource => exact .number (hbc.isNumber hsource)
  | array helements ih =>
    obtain rfl | ⟨_, _, rfl, hsource⟩ := hbc.array_cases
    · exact .array helements
    · exact .array (ih hsource)

end Holds

/-- The class with one name for the class of all objects and without the nullability of elements. -/
def erased : Kind → Kind
  | null => object
  | array element primitive _ => array element.erased primitive false
  | kind => kind

theorem erased_widest (kind : Kind) : kind.widest.erased = kind.erased := by
  cases kind <;> rfl

theorem erased_eq_of_widest_eq {a b : Kind} (h : a.widest = b.widest) : a.erased = b.erased := by
  rw [← erased_widest a, h, erased_widest]

/-- A class that is held by what it holds is the same class. Nothing is asked of flags here: arrays that are
    not equal hold each other only if their elements are objects that do. -/
theorem Holds.erased_eq {a b : Kind} (hab : a.Holds b) (hba : b.Holds a) : a.erased = b.erased := by
  induction hab with
  | same hclass => exact erased_eq_of_widest_eq hclass
  | object htarget =>
    cases hba with
    | same hclass => exact erased_eq_of_widest_eq hclass.symm
    | object hsource => exact erased_eq_of_widest_eq (htarget.trans hsource.symm)
    | number hnumber => exact absurd htarget (widest_ne_object_of_isNumber hnumber)
    | array => simp [widest] at htarget
  | number hsource =>
    cases hba with
    | same hclass => exact erased_eq_of_widest_eq hclass.symm
    | object hobject => exact absurd hobject (widest_ne_object_of_isNumber hsource)
    | number => rfl
  | array _ ih =>
    obtain heq | ⟨_, _, heq, hba⟩ := hba.array_cases
    · rw [heq]
    · cases heq
      rw [erased, erased, ih hba]

end Kind

/-- The flags of the type make sense: only a class with a primitive form is used in that form, and then it is
    declared non-null. -/
def Ty.Sensible (ty : Ty) : Prop := ty.primitive → ty.kind.hasPrimitiveForm ∧ ty.nonNull

namespace Kind

/-- The element types make sense at every depth. -/
def WellFormed : Kind → Prop
  | array element primitive nonNull => (Ty.mk element primitive nonNull).Sensible ∧ element.WellFormed
  | _ => True

theorem erased_of_hasPrimitiveForm {kind : Kind} (h : kind.hasPrimitiveForm) : kind.erased = kind := by
  cases kind <;> simp_all [erased, hasPrimitiveForm]

/-- Classes that differ in nothing but names and nullability hold each other. Arrays of primitive values do so
    because they are equal: their elements are declared non-null and have no other name. -/
theorem holds_of_erased_eq {a b : Kind} (ha : a.WellFormed) (hb : b.WellFormed) (h : a.erased = b.erased) :
    a.Holds b := by
  induction a generalizing b with
  | array element primitive nonNull ih =>
    cases b with
    | array source sourcePrimitive sourceNonNull =>
      obtain ⟨helement, rfl⟩ : element.erased = source.erased ∧ primitive = sourcePrimitive := by
        simpa [erased] using h
      cases primitive with
      | false => exact .array (ih ha.2 hb.2 helement)
      | true =>
        obtain ⟨hform, hnonNull⟩ := ha.1 rfl
        obtain ⟨hsourceForm, hsourceNonNull⟩ := hb.1 rfl
        rw [erased_of_hasPrimitiveForm hform, erased_of_hasPrimitiveForm hsourceForm] at helement
        exact .same (by simp_all)
    | _ => simp [erased] at h
  | _ =>
    exact .same (by cases b <;> simp_all [erased, widest])

end Kind

namespace Ty

/-- The type and its element types make sense, at every depth. -/
def WellFormed (ty : Ty) : Prop := ty.Sensible ∧ ty.kind.WellFormed

theorem wellFormed_ofKind (kind : Kind) (h : kind.WellFormed) : (ofKind kind).WellFormed :=
  ⟨fun hprimitive => absurd hprimitive Bool.false_ne_true, h⟩

theorem wellFormed_ofPrimitive (kind : Kind) (h : kind.WellFormed) : (ofPrimitive kind).WellFormed :=
  ⟨fun hform => ⟨hform, hform⟩, h⟩

theorem WellFormed.array {element : Ty} (h : element.WellFormed) : (array element).WellFormed :=
  wellFormed_ofKind _ h

theorem WellFormed.toNonNull {ty : Ty} (h : ty.WellFormed) : ty.toNonNull.WellFormed :=
  ⟨fun hprimitive => ⟨(h.1 hprimitive).1, rfl⟩, h.2⟩

theorem accepts_refl (ty : Ty) : ty.accepts ty := Kind.accepts_iff_holds.2 (.same rfl)

theorem accepts_trans {a b c : Ty} (hab : a.accepts b) (hbc : b.accepts c) : a.accepts c :=
  Kind.accepts_iff_holds.2 ((Kind.accepts_iff_holds.1 hab).trans (Kind.accepts_iff_holds.1 hbc))

theorem accepts_both_iff {a b : Ty} (ha : a.WellFormed) (hb : b.WellFormed) :
    a.accepts b ∧ b.accepts a ↔ a.kind.erased = b.kind.erased := by
  unfold accepts
  rw [Kind.accepts_iff_holds, Kind.accepts_iff_holds]
  constructor
  · rintro ⟨hab, hba⟩
    exact hab.erased_eq hba
  · intro herased
    exact ⟨Kind.holds_of_erased_eq ha.2 hb.2 herased, Kind.holds_of_erased_eq hb.2 ha.2 herased.symm⟩

/-- Assignability is a preorder on all types, and on well-formed types its two-way part is equality up to the
    name of the class of all objects and the nullability of array elements. -/
theorem accepts_preorder_and_kernel :
    (∀ ty : Ty, ty.accepts ty) ∧
      (∀ a b c : Ty, a.accepts b → b.accepts c → a.accepts c) ∧
        ∀ a b : Ty, a.WellFormed → b.WellFormed → (a.accepts b ∧ b.accepts a ↔ a.kind.erased = b.kind.erased) :=
  ⟨accepts_refl, fun _ _ _ => accepts_trans, fun _ _ => accepts_both_iff⟩

/-- Arrays of arrays of integers hold each other whether or not the inner arrays may be null, and so do arrays
    of nulls and of objects. The class of all objects holds arrays of integers because it holds those of
    numbers. -/
theorem nestedArrays_accepts :
    ((array (array int)).WellFormed ∧ (array (array int).toNonNull).WellFormed ∧
      (array (array int)).accepts (array (array int).toNonNull) ∧
        (array (array int).toNonNull).accepts (array (array int))) ∧
    ((array null).WellFormed ∧ (array object.toNonNull).WellFormed ∧
      (array null).accepts (array object.toNonNull) ∧ (array object.toNonNull).accepts (array null)) ∧
    object.accepts (array (ofKind .int)) := by
  obtain ⟨-, htrans, hboth⟩ := accepts_preorder_and_kernel
  have hints : (array int).WellFormed := (wellFormed_ofPrimitive .int trivial).array
  have hnulls : (array null).WellFormed := (wellFormed_ofKind .null trivial).array
  have hobjects : (array object.toNonNull).WellFormed := (wellFormed_ofKind .object trivial).toNonNull.array
  refine ⟨⟨hints.array, hints.toNonNull.array, ?_⟩, ⟨hnulls, hobjects, ?_⟩, ?_⟩
  · exact (hboth _ _ hints.array hints.toNonNull.array).2 rfl
  · exact (hboth _ _ hnulls hobjects).2 rfl
  · exact htrans _ (array number) _ (by decide) (by decide)

/-- A primitive element type that is not declared non-null tells two arrays apart that hold the same values. -/
example : (array int).kind.erased = (array ⟨.int, true, false⟩).kind.erased ∧
    (array int).accepts (array ⟨.int, true, false⟩) = false := by decide

end Ty

end TemplateTree
