import TemplateTree.Proofs.Chain.Repeat

namespace TemplateTree

namespace Ty

theorem ne_of_primitive {object primitive : Ty} (hobject : object.primitive = false) (h : primitive.primitive) :
    object ≠ primitive := by
  rintro rfl
  exact Bool.false_ne_true (hobject.symm.trans h)

theorem primitive_toPrimitive {ty : Ty} (hpeer : ty.hasPrimitivePeer) (h : ty.primitive = false) :
    ty.toPrimitive.primitive := by
  rw [toPrimitive_of_peer hpeer h]

theorem toBoxed_of_primitive {ty : Ty} (h : ty.primitive) : ty.toBoxed = ⟨ty.kind, false, true⟩ := by
  simp [toBoxed, h]

end Ty

namespace Route

/-- Converting a value of type `source` to `target` asks for a cast of it to another type first. -/
inductive Asks (source target : Ty) : Ty → Prop
  | peerOfTarget (hsource : source.primitive) (htarget : target.primitive = false) (hpeer : target.hasPrimitivePeer) :
    Asks source target target.toPrimitive
  | char (hsource : source.primitive) (htarget : target.primitive = false) : Asks source target .char
  | ownPeer (hsource : source.primitive = false) (htarget : target.primitive) (hpeer : source.hasPrimitivePeer)
    (hkind : source.kind ≠ target.kind) : Asks source target source.toPrimitive
  | boxedTarget (hsource : source.primitive = false) (htarget : target.primitive)
    (hpeer : source.hasPrimitivePeer = false) (hnumbers : (source.isNumber && target.isNumber) = false) :
    Asks source target target.toBoxed
  | otherNumber (hsource : source.primitive = false) (htarget : target.primitive = false)
    (hnumbers : source.isNumber && target.isNumber) (hpeer : target.hasPrimitivePeer) :
    Asks source target target.toPrimitive

/-- The rule of conversion: the value is converted at once, or it is cast to another type, which `castTo?` does, and
    converted from there. -/
def convertThrough (castTo? : Ty → Option Route) (source target : Ty) (preferCast : Bool) : Option Route :=
  if source = target then some stay
  else
    let cast := preferCast || source.kind = .null
    match source.primitive, target.primitive with
    | true, true => if target.isVoid then none else some (direct target cast)
    | true, false =>
      if target.accepts source then
        some (direct (if target.kind = source.kind then target else source.toBoxed) cast)
      else if source.isNumber && target.hasPrimitivePeer && target.isNumber then
        (castTo? target.toPrimitive).map (·.andThen target cast)
      else if source.isNumber && target.kind = .char then (castTo? .char).map (·.andThen target cast)
      else orString target cast
    | false, true =>
      if source.hasPrimitivePeer then
        if source.kind = target.kind then some ((direct target cast).unboxing source)
        else (castTo? source.toPrimitive).map fun route => (route.andThen target cast).unboxing source
      else if source.isNumber && target.isNumber then some ((direct target cast).unboxing source)
      else if cast then (castTo? target.toBoxed).map (·.andThen target cast)
      else none
    | false, false =>
      if source.accepts target || target.accepts source then casting? source target cast
      else if source.isNumber && target.isNumber && target.hasPrimitivePeer then
        if source.isNonNull then (castTo? target.toPrimitive).map (·.andThen target cast)
        else some (direct target cast)
      else casting? source target cast

/-- The rule followed into itself to a depth, with `castTo?` below that. -/
def unfolded (castTo? : Ty → Option Route) (source : Ty) : Nat → Ty → Bool → Option Route
  | 0, target, _ => castTo? target
  | depth + 1, target, preferCast =>
    convertThrough (fun other => unfolded castTo? source depth other true) source target preferCast

variable {castTo? : Ty → Option Route} {source target : Ty}

theorem between?_of_primitives (hsource : source.primitive) (htarget : target.primitive) :
    between? source target true = betweenPrimitives? source target true := by
  by_cases hsame : source = target
  · simp [between?, betweenPrimitives?, hsame]
  · simp [between?, hsame, hsource, htarget]

theorem between?_of_unboxing (hsource : source.primitive = false) (htarget : target.primitive) :
    between? source target true = unboxing? source target true := by
  simp [between?, Ty.ne_of_primitive hsource htarget, hsource, htarget]

/-- A value is unboxed to the primitive form of its own class at once. -/
theorem between?_toPrimitive (hsource : source.primitive = false) (hpeer : source.hasPrimitivePeer) :
    between? source source.toPrimitive true = some ((direct source.toPrimitive true).unboxing source) := by
  rw [Ty.toPrimitive_of_peer hpeer hsource, between?_of_unboxing hsource rfl]
  simp [unboxing?, hpeer]

/-- A cast to the boxed form of a primitive type, and the leg that unboxes it. -/
theorem between?_toBoxed (hsource : source.primitive = false) (htarget : target.primitive)
    (hnumbers : (source.isNumber && target.isNumber) = false) :
    between? source target.toBoxed true =
      if source = target.toBoxed then some stay else casting? source target.toBoxed true := by
  have hprimitive : target.toBoxed.primitive = false := by rw [Ty.toBoxed_of_primitive htarget]
  have hnumbers' : (source.isNumber && target.toBoxed.isNumber) = false := by
    rw [Ty.toBoxed_of_primitive htarget]
    exact hnumbers
  by_cases hsame : source = target.toBoxed
  · simp [between?, ← hsame]
  · simp [between?, hsame, hsource, hprimitive, betweenObjects?_eq_casting? hnumbers']

theorem convertThrough_of_primitives (hsource : source.primitive) (htarget : target.primitive) (preferCast : Bool) :
    convertThrough castTo? source target preferCast = between? source target preferCast := by
  by_cases hsame : source = target
  · simp [convertThrough, between?, hsame]
  · simp [convertThrough, between?, betweenPrimitives?, hsame, hsource, htarget]

theorem convertThrough_of_boxing (hsource : source.primitive) (htarget : target.primitive = false)
    (h : ∀ other, Asks source target other → castTo? other = between? source other true) (preferCast : Bool) :
    convertThrough castTo? source target preferCast = between? source target preferCast := by
  have hne : source ≠ target := (Ty.ne_of_primitive htarget hsource).symm
  have hchar : castTo? .char = betweenPrimitives? source .char true := by
    rw [h _ (.char hsource htarget), between?_of_primitives hsource rfl]
  simp only [convertThrough, between?, if_neg hne, hsource, htarget, boxing?, hchar]
  by_cases hpeer : target.hasPrimitivePeer
  · rw [h _ (.peerOfTarget hsource htarget hpeer),
      between?_of_primitives hsource (Ty.primitive_toPrimitive hpeer htarget)]
  · simp [hpeer]

theorem convertThrough_of_unboxing (hsource : source.primitive = false) (htarget : target.primitive)
    (h : ∀ other, Asks source target other → castTo? other = between? source other true) (preferCast : Bool) :
    convertThrough castTo? source target preferCast = between? source target preferCast := by
  simp only [convertThrough, between?, if_neg (Ty.ne_of_primitive hsource htarget), hsource, htarget, unboxing?]
  generalize (preferCast || decide (source.kind = .null)) = cast
  cases hpeer : source.hasPrimitivePeer with
  | true =>
    by_cases hkind : source.kind = target.kind
    · simp [hkind]
    · rw [h _ (.ownPeer hsource htarget hpeer hkind), between?_toPrimitive hsource hpeer]
      simp [hkind, unboxing, andThen, direct]
  | false =>
    cases hnumbers : source.isNumber && target.isNumber with
    | true => simp
    | false =>
      rw [h _ (.boxedTarget hsource htarget hpeer hnumbers), between?_toBoxed hsource htarget hnumbers]
      cases cast with
      | false => simp
      | true =>
        by_cases hboxed : source = target.toBoxed
        · simp [if_pos hboxed, andThen, stay, direct]
        · simp [if_neg hboxed]

theorem convertThrough_of_objects (hsource : source.primitive = false) (htarget : target.primitive = false)
    (h : ∀ other, Asks source target other → castTo? other = between? source other true) (preferCast : Bool) :
    convertThrough castTo? source target preferCast = between? source target preferCast := by
  simp only [convertThrough, between?, hsource, htarget, betweenObjects?]
  by_cases hnumbers : source.isNumber && target.isNumber && target.hasPrimitivePeer
  · simp only [Bool.and_eq_true] at hnumbers
    obtain ⟨⟨hnumber, hnumber'⟩, hpeer⟩ := hnumbers
    rw [h _ (.otherNumber hsource htarget (by rw [hnumber, hnumber']; rfl) hpeer),
      between?_of_unboxing hsource (Ty.primitive_toPrimitive hpeer htarget)]
  · simp [hnumbers]

/-- Routes satisfy the rule: where `castTo?` gives the routes for what is asked for, the rule gives the route. -/
theorem convertThrough_eq (h : ∀ other, Asks source target other → castTo? other = between? source other true)
    (preferCast : Bool) : convertThrough castTo? source target preferCast = between? source target preferCast := by
  cases hsource : source.primitive with
  | true =>
    cases htarget : target.primitive with
    | true => exact convertThrough_of_primitives hsource htarget preferCast
    | false => exact convertThrough_of_boxing hsource htarget h preferCast
  | false =>
    cases htarget : target.primitive with
    | true => exact convertThrough_of_unboxing hsource htarget h preferCast
    | false => exact convertThrough_of_objects hsource htarget h preferCast

/-- A primitive value is cast to a primitive type, and that at once. -/
theorem Asks.last_of_primitive {middle other : Ty} (h : Asks source target middle) (hsource : source.primitive) :
    ¬Asks source middle other := by
  have hmiddle : middle.primitive := by
    cases h with
    | peerOfTarget _ htarget hpeer => exact Ty.primitive_toPrimitive hpeer htarget
    | char => rfl
    | ownPeer hobject | boxedTarget hobject | otherNumber hobject =>
      exact absurd rfl (Ty.ne_of_primitive hobject hsource)
  intro hother
  cases hother with
  | peerOfTarget _ hobject | char _ hobject => exact Ty.ne_of_primitive hobject hmiddle rfl
  | ownPeer hobject | boxedTarget hobject | otherNumber hobject => exact Ty.ne_of_primitive hobject hsource rfl

/-- An object that is unboxed, as itself or after a cast to the boxed form, asks for nothing on the way. -/
theorem Asks.last_of_unboxing {middle other : Ty} (h : Asks source target middle) (hsource : source.primitive = false)
    (htarget : target.primitive) : ¬Asks source middle other := by
  intro hother
  cases h with
  | peerOfTarget hprimitive | char hprimitive => exact Ty.ne_of_primitive hsource hprimitive rfl
  | otherNumber _ hobject => exact Ty.ne_of_primitive hobject htarget rfl
  | ownPeer _ _ hpeer =>
    rw [Ty.toPrimitive_of_peer hpeer hsource] at hother
    cases hother with
    | peerOfTarget hprimitive | char hprimitive => exact Ty.ne_of_primitive hsource hprimitive rfl
    | ownPeer _ _ _ hkind => exact hkind rfl
    | boxedTarget _ _ hnone => exact Bool.false_ne_true (hnone.symm.trans hpeer)
    | otherNumber _ hobject => exact Bool.false_ne_true hobject.symm
  | boxedTarget _ _ _ hnumbers =>
    rw [Ty.toBoxed_of_primitive htarget] at hother
    cases hother with
    | peerOfTarget hprimitive | char hprimitive => exact Ty.ne_of_primitive hsource hprimitive rfl
    | ownPeer _ hprimitive | boxedTarget _ hprimitive => exact Bool.false_ne_true hprimitive
    | otherNumber _ _ hnumbers' => exact Bool.false_ne_true (hnumbers.symm.trans hnumbers')

/-- What is asked for the second time asks for nothing. -/
theorem Asks.not_thrice {first second third : Ty} (h : Asks source target first) (hfirst : Asks source first second) :
    ¬Asks source second third := by
  cases h with
  | peerOfTarget hsource htarget hpeer =>
    exact absurd hfirst ((Asks.peerOfTarget hsource htarget hpeer).last_of_primitive hsource)
  | char hsource htarget => exact absurd hfirst ((Asks.char hsource htarget).last_of_primitive hsource)
  | ownPeer hsource htarget hpeer hkind =>
    exact absurd hfirst ((Asks.ownPeer hsource htarget hpeer hkind).last_of_unboxing hsource htarget)
  | boxedTarget hsource htarget hpeer hnumbers =>
    exact absurd hfirst ((Asks.boxedTarget hsource htarget hpeer hnumbers).last_of_unboxing hsource htarget)
  | otherNumber hsource htarget _ hpeer =>
    exact hfirst.last_of_unboxing hsource (Ty.primitive_toPrimitive hpeer htarget)

theorem unfolded_succ {depth : Nat}
    (h : ∀ other, Asks source target other → unfolded castTo? source depth other true = between? source other true)
    (preferCast : Bool) :
    unfolded castTo? source (depth + 1) target preferCast = between? source target preferCast :=
  convertThrough_eq h preferCast

/-- Followed three times into itself the rule gives the route, whatever would be done after that. -/
theorem unfolded_eq (castTo? : Ty → Option Route) (source : Ty) (depth : Nat) (target : Ty) (preferCast : Bool) :
    unfolded castTo? source (depth + 3) target preferCast = between? source target preferCast :=
  unfolded_succ (fun _ hfirst => unfolded_succ (fun _ hsecond =>
    unfolded_succ (fun _ hthird => absurd hthird (hfirst.not_thrice hsecond)) true) true) preferCast

end Route

end TemplateTree
