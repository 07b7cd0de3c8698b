import TemplateTree.Json.Reader
import TemplateTree.Proofs.Json.Lexeme

namespace TemplateTree.Json

mutual

/-- What is read of a value when arrays and objects may be nested `d` deep. -/
def cut : Json → Nat → Json
  | arr _, 0 => unreadable
  | arr items, d + 1 => arr (cutItems items d)
  | obj _, 0 => unreadable
  | obj fields, d + 1 => obj (cutFields fields d)
  | unreadable, _ => null
  | json, _ => json

def cutItems : List Json → Nat → List Json
  | [], _ => []
  | item :: rest, d => item.cut d :: cutItems rest d

def cutFields : List (String × Json) → Nat → List (String × Json)
  | [], _ => []
  | (key, value) :: rest, d => (key, value.cut d) :: cutFields rest d

end

namespace ReadState

variable {maxDepth : Nat} {stack : List Frame} {state state' state'' : ReadState}

/-- Reading some lexemes leads from one state to another. -/
def Runs (maxDepth : Nat) (lexemes : List Lexeme) (state state' : ReadState) : Prop :=
  lexemes.foldlM (step maxDepth) state = some state'

namespace Runs

theorem nil : Runs maxDepth [] state state := rfl

theorem cons {lexeme : Lexeme} {lexemes : List Lexeme} (hstep : step maxDepth state lexeme = some state')
    (h : Runs maxDepth lexemes state' state'') : Runs maxDepth (lexeme :: lexemes) state state'' := by
  rw [Runs, List.foldlM_cons, hstep]
  exact h

theorem append {lexemes more : List Lexeme} (h : Runs maxDepth lexemes state state')
    (hmore : Runs maxDepth more state' state'') : Runs maxDepth (lexemes ++ more) state state'' := by
  rw [Runs, List.foldlM_append, h]
  exact hmore

end Runs

/-- A value starts in the same way wherever it stands. -/
theorem step_eq_start {expected : Expected} {lexeme : Lexeme} (hexpected : expected = .value ∨ expected = .firstItem)
    (hlexeme : lexeme ≠ .rightBracket) : step maxDepth ⟨stack, expected⟩ lexeme = start stack lexeme := by
  obtain rfl | rfl := hexpected
  · rfl
  · cases stack <;> cases lexeme <;> first | rfl | exact absurd rfl hlexeme

/-- Lexemes that make up a value put it into the innermost open array or object. -/
def Reads (maxDepth : Nat) (lexemes : List Lexeme) (json : Json) : Prop :=
  ∀ (stack : List Frame) (expected : Expected), expected = .value ∨ expected = .firstItem →
    Runs maxDepth lexemes ⟨stack, expected⟩ (put stack (json.cut (maxDepth - stack.length)))

/-- A value is read from its first lexeme on. -/
theorem reads_cons {first : Lexeme} {rest : List Lexeme} {json : Json} (hfirst : first ≠ .rightBracket)
    (h : ∀ stack, ∃ state, start stack first = some state ∧
      Runs maxDepth rest state (put stack (json.cut (maxDepth - stack.length)))) :
    Reads maxDepth (first :: rest) json := by
  intro stack expected hexpected
  obtain ⟨state, hstart, hrest⟩ := h stack
  exact .cons ((step_eq_start hexpected hfirst).trans hstart) hrest

theorem close_array {done items : List Json} (h : done.reverse = cutItems items (maxDepth - (stack.length + 1))) :
    close maxDepth (.array done) stack = put stack ((arr items).cut (maxDepth - stack.length)) := by
  rw [close]
  split
  next hdeep => rw [Nat.sub_eq_zero_of_le hdeep, cut]
  next hdeep =>
    obtain ⟨d, hd⟩ : ∃ d, maxDepth - stack.length = d + 1 := ⟨maxDepth - stack.length - 1, by omega⟩
    rw [h, hd, cut, show maxDepth - (stack.length + 1) = d by omega]

/-- The fields of a written object, whose keys can all be read. -/
def keyed (fields : List (String × Json)) : List (Option String × Json) :=
  fields.map fun (key, value) => (some key, value)

theorem fieldsInOrder?_reverse_keyed (fields : List (String × Json)) :
    fieldsInOrder? (keyed fields).reverse = some fields := by
  rw [fieldsInOrder?, List.reverse_reverse]
  induction fields with
  | nil => rfl
  | cons field rest ih => simp_all [keyed]

theorem close_object {done : List (Option String × Json)} {fields : List (String × Json)} {key? : Option String}
    (h : done = (keyed (cutFields fields (maxDepth - (stack.length + 1)))).reverse) :
    close maxDepth (.object done key?) stack = put stack ((obj fields).cut (maxDepth - stack.length)) := by
  rw [close]
  split
  next hdeep => rw [Nat.sub_eq_zero_of_le hdeep, cut]
  next hdeep =>
    obtain ⟨d, hd⟩ : ∃ d, maxDepth - stack.length = d + 1 := ⟨maxDepth - stack.length - 1, by omega⟩
    rw [h, hd, cut, show maxDepth - (stack.length + 1) = d by omega]
    simp only [fieldsInOrder?_reverse_keyed, Option.map_some, Option.getD_some]

/-- A bracket closes an array of items. -/
theorem runs_rightBracket {done items : List Json} {expected : Expected}
    (hexpected : expected = .firstItem ∨ expected = .separator)
    (h : done.reverse = cutItems items (maxDepth - (stack.length + 1))) :
    Runs maxDepth [.rightBracket] ⟨.array done :: stack, expected⟩
      (put stack ((arr items).cut (maxDepth - stack.length))) := by
  rw [← close_array h]
  obtain rfl | rfl := hexpected <;> exact rfl

/-- A brace closes an object of fields. -/
theorem runs_rightBrace {done : List (Option String × Json)} {fields : List (String × Json)} {expected : Expected}
    (hexpected : expected = .firstKey ∨ expected = .separator)
    (h : done = (keyed (cutFields fields (maxDepth - (stack.length + 1)))).reverse) :
    Runs maxDepth [.rightBrace] ⟨.object done none :: stack, expected⟩
      (put stack ((obj fields).cut (maxDepth - stack.length))) := by
  rw [← close_object h]
  obtain rfl | rfl := hexpected <;> exact rfl

mutual

/-- The lexemes of a value are read as what is left of it, by recursion on the value. -/
theorem reads_lexemes : ∀ json : Json, Reads maxDepth json.lexemes json
  | null => reads_cons nofun fun _ => ⟨_, rfl, .nil⟩
  | bool _ => reads_cons nofun fun _ => ⟨_, rfl, .nil⟩
  | num _ => reads_cons nofun fun _ => ⟨_, rfl, .nil⟩
  | str _ => reads_cons nofun fun _ => ⟨_, rfl, .nil⟩
  | arr [] => by
    rw [lexemes]
    exact reads_cons nofun fun _ => ⟨_, rfl, runs_rightBracket (.inl rfl) rfl⟩
  | arr (item :: rest) => by
    rw [lexemes]
    refine reads_cons nofun fun stack => ⟨_, rfl, ?_⟩
    have hitem := reads_lexemes item (.array [] :: stack) .firstItem (.inr rfl)
    refine .append hitem (.append (runs_itemsLexemes rest _ stack) (runs_rightBracket (.inr rfl) ?_))
    simp [cutItems]
  | obj [] => by
    rw [lexemes]
    exact reads_cons nofun fun _ => ⟨_, rfl, runs_rightBrace (.inl rfl) rfl⟩
  | obj ((key, value) :: rest) => by
    rw [lexemes]
    refine reads_cons nofun fun stack => ⟨_, rfl, .cons rfl (.cons rfl ?_)⟩
    have hvalue := reads_lexemes value (.object [] (some key) :: stack) .value (.inl rfl)
    refine .append hvalue (.append (runs_fieldsLexemes rest _ stack) (runs_rightBrace (.inr rfl) ?_))
    simp [cutFields, keyed]
  | unreadable => reads_cons nofun fun _ => ⟨_, rfl, .nil⟩
termination_by structural json => json

theorem runs_itemsLexemes : ∀ (items done : List Json) (stack : List Frame),
    Runs maxDepth (itemsLexemes items) ⟨.array done :: stack, .separator⟩
      ⟨.array ((cutItems items (maxDepth - (stack.length + 1))).reverse ++ done) :: stack, .separator⟩
  | [], _, _ => .nil
  | item :: rest, done, stack => by
    have hitem := reads_lexemes item (.array done :: stack) .value (.inl rfl)
    have hrest := runs_itemsLexemes rest (item.cut (maxDepth - (stack.length + 1)) :: done) stack
    rw [itemsLexemes, cutItems, List.reverse_cons, List.append_assoc]
    exact .cons rfl (.append hitem hrest)
termination_by structural items => items

theorem runs_fieldsLexemes : ∀ (fields : List (String × Json)) (done : List (Option String × Json)) (stack : List Frame),
    Runs maxDepth (fieldsLexemes fields) ⟨.object done none :: stack, .separator⟩
      ⟨.object ((keyed (cutFields fields (maxDepth - (stack.length + 1)))).reverse ++ done) none :: stack, .separator⟩
  | [], _, _ => .nil
  | (key, value) :: rest, done, stack => by
    have hvalue := reads_lexemes value (.object done (some key) :: stack) .value (.inl rfl)
    have hrest := runs_fieldsLexemes rest
      ((some key, value.cut (maxDepth - (stack.length + 1))) :: done) stack
    rw [fieldsLexemes, cutFields, keyed, List.map_cons, List.reverse_cons, List.append_assoc]
    exact .cons rfl (.cons rfl (.cons rfl (.append hvalue hrest)))
termination_by structural fields => fields

end

end ReadState

/-- Text that was written is read as the value, less what is nested too deep. -/
theorem parse?_pretty {json : Json} (h : json.WellFormed) (maxDepth : Nat) :
    parse? maxDepth (json.pretty 0 ++ "\n") = some (json.cut maxDepth) := by
  have hruns : ReadState.Runs maxDepth json.lexemes _ _ := ReadState.reads_lexemes json [] .value (.inl rfl)
  rw [parse?, scan_pretty h, Option.bind_eq_bind, Option.bind_some, ofLexemes?, ReadState.initial, hruns]
  rfl

end TemplateTree.Json
