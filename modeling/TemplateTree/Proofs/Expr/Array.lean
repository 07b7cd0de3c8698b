import TemplateTree.Proofs.Expr.Coerce

namespace TemplateTree

theorem Head.span_of_extended {head head' : Head} {target : Ty} {preferCast : Bool}
    (h : head.extended target preferCast = .ok head') : head'.span = head.span := by
  unfold extended at h
  split at h
  next =>
    cases h
    rfl
  next => cases h

namespace Expr

mutual

/-- The expression without the types of all that a coercion can reach, at every depth. -/
def bare : Expr → Expr
  | paren head inner => paren head inner.bare
  | array head listSpan elements associative => array (head.retyped none) listSpan (bareAll elements) associative
  | e => e.withHead (e.head.retyped none)

/-- The expressions without their types. -/
def bareAll : List Expr → List Expr
  | [] => []
  | e :: rest => e.bare :: bareAll rest

end

attribute [local simp] bare bareAll convertTo convertValues

/-- Nodes that differ in their coercions only are the same without types, parentheses apart. -/
theorem SameNode.bare_eq {e e' : Expr} (h : SameNode e e') (hparen : ∀ head inner, e ≠ .paren head inner) :
    e'.bare = e.bare := by
  obtain ⟨head, rfl, hspan⟩ := h
  have hblank : head.retyped none = e.head.retyped none := by rw [Head.retyped, Head.retyped, hspan]
  cases e with
  | paren head inner => exact absurd rfl (hparen head inner)
  | _ =>
    simp only [withHead, bare, Expr.head] at hblank ⊢
    rw [hblank]

mutual

/-- A coercion leaves the bare expression as it was, also where it fails in part. -/
theorem bare_convertTo (target : Ty) :
    ∀ (e : Expr) (preferCast : Bool), (e.convertTo target preferCast).value.bare = e.bare
  | .paren head inner, preferCast => congrArg (Expr.paren head) (bare_convertTo target inner preferCast)
  | .array head listSpan elements associative, preferCast => by
    rw [convertTo]
    split
    next => rfl
    next head' hhead =>
      split
      next =>
        have hnode : SameNode (.array head listSpan elements associative) (.array head' listSpan elements associative) :=
          ⟨head', rfl, Head.span_of_extended hhead⟩
        exact hnode.bare_eq nofun
      next element _ =>
        have hvalues := bareAll_convertValues element preferCast associative associative elements
        simp only [Attempt.map, bare, hvalues]
        rfl
  | .call .., _ | .varRef .., _ | .property .., _ | .index .., _ | .unary .., _ | .binary .., _ | .compare .., _
  | .isa .., _ | .literal .., _ => (sameNode_coerceNode _ _ _).bare_eq nofun
termination_by structural e => e

/-- So it does with the elements of an array literal. -/
theorem bareAll_convertValues (element : Ty) (preferCast associative isKey : Bool) :
    ∀ es : List Expr, bareAll (convertValues element preferCast associative isKey es).value = bareAll es
  | [] => rfl
  | e :: rest => by
    have hrest : ∀ isKey, bareAll (convertValues element preferCast associative isKey rest).value = bareAll rest :=
      fun isKey => bareAll_convertValues element preferCast associative isKey rest
    rw [convertValues]
    split
    next => simp only [Attempt.map, bareAll, hrest]
    next =>
      split
      next => simp only [Attempt.map, bareAll, hrest]
      next =>
        have he := bare_convertTo element e preferCast
        simp only
        split
        next => simp only [bareAll, he]
        next => simp only [Attempt.map, bareAll, he, hrest]
termination_by structural es => es

end

/-- What becomes of an element of an array literal: a key stays as it is, and so does a value of the null type; every
    other value gets a type that fits the element type. -/
def ElementTyped (element : Ty) (isKey : Prop) (e e' : Expr) : Prop :=
  (isKey → e' = e) ∧ (¬isKey → (e.ty? = some .null ∧ e' = e) ∨ ∃ ty, e'.ty? = some ty ∧ element.Fits ty)

/-- One step through the elements of an array literal: what becomes of the first, and whether the next is a key. -/
theorem convertValues_cons_eq_ok {element : Ty} {preferCast associative isKey : Bool} {e : Expr} {rest es' : List Expr}
    (h : (convertValues element preferCast associative isKey (e :: rest)).toExcept = .ok es') :
    ∃ e' rest', es' = e' :: rest' ∧ ElementTyped element isKey e e' ∧
      (convertValues element preferCast associative (!isKey && associative) rest).toExcept = .ok rest' := by
  rw [convertValues] at h
  split at h
  next hkey =>
    obtain ⟨rest', hrest, rfl⟩ := Attempt.toExcept_map_eq_ok_iff.1 h
    subst hkey
    exact ⟨e, rest', rfl, ⟨fun _ => rfl, fun hnot => absurd rfl hnot⟩, hrest⟩
  next hkey =>
    rw [Bool.not_eq_true] at hkey
    subst hkey
    split at h
    next hnull =>
      obtain ⟨rest', hrest, rfl⟩ := Attempt.toExcept_map_eq_ok_iff.1 h
      exact ⟨e, rest', rfl, ⟨fun _ => rfl, fun _ => .inl ⟨hnull, rfl⟩⟩, hrest⟩
    next =>
      simp only at h
      split at h
      next => cases h
      next hok =>
        obtain ⟨rest', hrest, rfl⟩ := Attempt.toExcept_map_eq_ok_iff.1 h
        have hcoerced := convertTo_coerced e (Attempt.toExcept_eq_ok_iff.2 ⟨hok, rfl⟩)
        exact ⟨_, rest', rfl, ⟨fun hkey => (Bool.false_ne_true hkey).elim, fun _ => .inr hcoerced.fits⟩, hrest⟩

/-- All elements of an array literal whose keys, if it has any, are every other element, the first being one or
    not. -/
theorem convertValues_typed {element : Ty} {preferCast associative isKey : Bool} (hkey : isKey → associative)
    {es es' : List Expr} (h : (convertValues element preferCast associative isKey es).toExcept = .ok es') :
    es'.length = es.length ∧ ∀ (i : Nat) (e e' : Expr), es[i]? = some e → es'[i]? = some e' →
      ElementTyped element (associative ∧ (i % 2 = 0 ↔ isKey)) e e' := by
  induction es generalizing isKey es' with
  | nil =>
    rw [convertValues, Attempt.toExcept_done_eq_ok_iff] at h
    subst h
    exact ⟨rfl, fun i e e' he => by simp at he⟩
  | cons first rest ih =>
    obtain ⟨first', rest', rfl, hfirst, hrest⟩ := convertValues_cons_eq_ok h
    obtain ⟨hlength, htyped⟩ := ih (fun hnext => (Bool.and_eq_true_iff.1 hnext).2) hrest
    refine ⟨by rw [List.length_cons, List.length_cons, hlength], fun i e e' he he' => ?_⟩
    cases i with
    | zero =>
      cases he
      cases he'
      have hiff : (associative = true ∧ (0 % 2 = 0 ↔ isKey = true)) ↔ isKey = true := by
        simpa using hkey
      rw [hiff]
      exact hfirst
    | succ i =>
      have hiff : (associative = true ∧ ((i + 1) % 2 = 0 ↔ isKey = true)) ↔
          (associative = true ∧ (i % 2 = 0 ↔ (!isKey && associative) = true)) := by
        cases associative <;> cases isKey <;> simp <;> omega
      rw [hiff]
      exact htyped i e e' he he'

/-- The elements of an array literal before and after it was given an array type: as many in the same order, the
    same at every depth but for types, the keys and the values of the null type the same in full, and every
    other value of a type that fits the element type. -/
structure ElementsTyped (element : Ty) (associative : Bool) (elements elements' : List Expr) : Prop where
  length_eq : elements'.length = elements.length
  bare_eq : bareAll elements' = bareAll elements
  typed : ∀ (i : Nat) (e e' : Expr), elements[i]? = some e → elements'[i]? = some e' →
    ElementTyped element (associative ∧ i % 2 = 0) e e'

/-- An array literal that is coerced to an array type gets just that as its type. -/
theorem convertTo_array_eq_ok {ty element : Ty} (helement : ty.element? = some element) {preferCast : Bool} {head : Head}
    {listSpan : Span} {elements : List Expr} {associative : Bool} {e' : Expr}
    (h : ((array head listSpan elements associative).convertTo ty preferCast).toExcept = .ok e') :
    ∃ elements', e' = array (head.retyped (some ty)) listSpan elements' associative ∧
      ElementsTyped element associative elements elements' := by
  rw [convertTo] at h
  split at h
  next => cases h
  next =>
    simp only [helement, Attempt.toExcept_map_eq_ok_iff] at h
    obtain ⟨elements', hvalues, rfl⟩ := h
    obtain ⟨hlength, htyped⟩ := convertValues_typed id hvalues
    refine ⟨elements', rfl, hlength, ?_, fun i e e' he he' => ?_⟩
    · rw [← (Attempt.toExcept_eq_ok_iff.1 hvalues).2]
      exact bareAll_convertValues element preferCast associative associative elements
    · have hiff : (associative = true ∧ (i % 2 = 0 ↔ associative = true)) ↔ (associative = true ∧ i % 2 = 0) :=
        and_congr_right fun hassociative => by simp [hassociative]
      rw [← hiff]
      exact htyped i e e' he he'

/-- Typing an array literal types its values and nothing else, for every array literal and every array type. Where the
    coercion to it goes through, the literal has that type, and where the type is set, its non-null form; of its
    elements only the values are typed, and nothing but types changes at any depth. -/
theorem elementsTyped_convertTo_and_setTy {ty element : Ty} (helement : ty.element? = some element) (head : Head)
    (listSpan : Span) (elements : List Expr) (associative : Bool) :
    (∀ preferCast e', ((array head listSpan elements associative).convertTo ty preferCast).toExcept = .ok e' →
      e'.ty? = some ty ∧ ∃ elements', e' = array (head.retyped (some ty)) listSpan elements' associative ∧
        ElementsTyped element associative elements elements') ∧
    ∀ e', ((array head listSpan elements associative).setTy ty).toExcept = .ok e' →
      e'.ty? = some ty.toNonNull ∧ ∃ elements',
        e' = array (head.retyped (some ty.toNonNull)) listSpan elements' associative ∧
          ElementsTyped element associative elements elements' := by
  constructor
  · intro preferCast e' h
    obtain ⟨elements', rfl, htyped⟩ := convertTo_array_eq_ok helement h
    exact ⟨rfl, elements', rfl, htyped⟩
  · intro e' h
    have hnonNull : ty.toNonNull.element? = some element := helement
    obtain ⟨elements', rfl, htyped⟩ := convertTo_array_eq_ok hnonNull h
    exact ⟨rfl, elements', rfl, htyped⟩

/-- Keys and values of an associative array literal: under one key another array literal in parentheses, null under the
    other. -/
def rowElements : List Expr :=
  let span : Span := ⟨1, 0, 8⟩
  let row : Expr := .mkArray span span [.ofNumber span (.int 1), .ofValue span .null] false
  [.ofString span "row", .mkParen span row, .ofString span "none", .ofValue span .null]

theorem rowElements_elementsTyped :
    let row : Ty := .array (.ofKind .double)
    let e := array (.untyped ⟨1, 0, 8⟩) ⟨1, 0, 8⟩ rowElements true
    (Ty.array row).element? = some row ∧
      (∃ e', (e.convertTo (.array row) false).toExcept = .ok e' ∧ e'.ty? = some (.array row) ∧
        ∃ elements', e' = array ⟨⟨1, 0, 8⟩, .ofTy (.array row), false⟩ ⟨1, 0, 8⟩ elements' true ∧
          ElementsTyped row true rowElements elements') ∧
      ∃ e', (e.setTy (.array row)).toExcept = .ok e' ∧ e'.ty? = some (Ty.array row).toNonNull ∧
        ∃ elements', e' = array ⟨⟨1, 0, 8⟩, .ofTy (Ty.array row).toNonNull, false⟩ ⟨1, 0, 8⟩ elements' true ∧
          ElementsTyped row true rowElements elements' := by
  intro row e
  have helement : (Ty.array row).element? = some row := rfl
  have htypes := elementsTyped_convertTo_and_setTy helement (.untyped ⟨1, 0, 8⟩) ⟨1, 0, 8⟩ rowElements true
  exact ⟨helement, ⟨_, rfl, htypes.1 false _ rfl⟩, ⟨_, rfl, htypes.2 _ rfl⟩⟩

end Expr

end TemplateTree
