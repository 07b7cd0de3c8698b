import TemplateTree.Json.Lexeme

namespace TemplateTree.Json

/-- An array or object that is still open, its parts in reverse order. The object also keeps the key
    whose value comes next. -/
inductive Frame where
  | array (items : List Json)
  | object (fields : List (Option String × Json)) (key? : Option String)

/-- What may come next. -/
inductive Expected where
  | value
  | firstItem
  | firstKey
  | key
  | colon
  | separator
  | nothing (result : Json)

/-- The open arrays and objects, innermost first, and what may come next. -/
structure ReadState where
  stack : List Frame
  expected : Expected

namespace ReadState

def initial : ReadState := ⟨[], .value⟩

/-- Puts a finished value into the innermost open array or object. -/
def put (stack : List Frame) (value : Json) : ReadState :=
  match stack with
  | [] => ⟨[], .nothing value⟩
  | .array items :: rest => ⟨.array (value :: items) :: rest, .separator⟩
  | .object fields key? :: rest => ⟨.object ((key?, value) :: fields) none :: rest, .separator⟩

/-- The fields of an object in the order in which they were written, if every key can be read. -/
def fieldsInOrder? (fields : List (Option String × Json)) : Option (List (String × Json)) :=
  fields.reverse.mapM fun (key?, value) => key?.map (·, value)

/-- Closes the innermost array or object. One that is nested deeper than `maxDepth` cannot be read.
    -/
def close (maxDepth : Nat) (frame : Frame) (rest : List Frame) : ReadState :=
  put rest <|
    if maxDepth ≤ rest.length then .unreadable
    else
      match frame with
      | .array items => .arr items.reverse
      | .object fields _ => ((fieldsInOrder? fields).map Json.obj).getD .unreadable

/-- Starts a value. -/
def start (stack : List Frame) : Lexeme → Option ReadState
  | .leftBrace => some ⟨.object [] none :: stack, .firstKey⟩
  | .leftBracket => some ⟨.array [] :: stack, .firstItem⟩
  | .null => some (put stack .null)
  | .bool value => some (put stack (.bool value))
  | .num numeral => some (put stack (.num numeral))
  | .str value? => some (put stack ((value?.map Json.str).getD .unreadable))
  | _ => none

/-- Reads one lexeme. -/
def step (maxDepth : Nat) (state : ReadState) (lexeme : Lexeme) : Option ReadState :=
  match state.expected, state.stack, lexeme with
  | .firstItem, frame :: rest, .rightBracket => some (close maxDepth frame rest)
  | .firstItem, stack, lexeme => start stack lexeme
  | .value, stack, lexeme => start stack lexeme
  | .firstKey, frame :: rest, .rightBrace => some (close maxDepth frame rest)
  | .firstKey, .object fields _ :: rest, .str key? => some ⟨.object fields key? :: rest, .colon⟩
  | .key, .object fields _ :: rest, .str key? => some ⟨.object fields key? :: rest, .colon⟩
  | .colon, stack, .colon => some ⟨stack, .value⟩
  | .separator, .array items :: rest, .comma => some ⟨.array items :: rest, .value⟩
  | .separator, .array items :: rest, .rightBracket => some (close maxDepth (.array items) rest)
  | .separator, .object fields key? :: rest, .comma => some ⟨.object fields key? :: rest, .key⟩
  | .separator, .object fields key? :: rest, .rightBrace => some (close maxDepth (.object fields key?) rest)
  | _, _, _ => none

/-- The value that was read, when nothing is open any more. -/
def result? (state : ReadState) : Option Json :=
  match state.expected with
  | .nothing result => some result
  | _ => none

end ReadState

/-- The value that a list of lexemes stands for. -/
def ofLexemes? (maxDepth : Nat) (lexemes : List Lexeme) : Option Json := do
  let state ← lexemes.foldlM (ReadState.step maxDepth) .initial
  state.result?

/-- The value that a text stands for. Parts that are nested deeper than `maxDepth` are checked for
    their syntax only. -/
def parse? (maxDepth : Nat) (text : String) : Option Json := do
  let lexemes ← Lexeme.scan text
  ofLexemes? maxDepth lexemes

end TemplateTree.Json
