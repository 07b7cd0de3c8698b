namespace TemplateTree

/-- What the command was asked to do. -/
structure Arguments where
  input : String
  output? : Option String
  noOptimize : Bool
  noCheck : Bool
  stats : Bool
  verbose : Bool
deriving DecidableEq

namespace Arguments

/-- An option without a value. -/
inductive Switch where
  | noOptimize
  | noCheck
  | stats
  | verbose
deriving DecidableEq

/-- An argument by its meaning. -/
inductive Item where
  | switch (switch : Switch)
  | output (path : String)
  | input (path : String)
deriving DecidableEq

def switchOfLong? : String → Option Switch
  | "no-optimize" => some .noOptimize
  | "no-check" => some .noCheck
  | "stats" => some .stats
  | "verbose" => some .verbose
  | _ => none

/-- A word that starts with a dash is an option, unless it is just the dash. -/
def isOption (word : String) : Bool :=
  match word.toList with
  | '-' :: _ :: _ => true
  | _ => false

/-- What is left of a value that may be joined to its option by an equals sign. -/
def joinedValue : List Char → List Char
  | '=' :: rest => rest
  | cs => cs

/-- Short options in one word. The output option takes the rest of the word as its value; when
    nothing is left, its value is the next word, which the result says by `true`. -/
def short? : List Char → Option (List Item × Bool)
  | [] => some ([], false)
  | 'v' :: rest => do
    let (items, needsValue) ← short? rest
    return (.switch .verbose :: items, needsValue)
  | 'o' :: [] => some ([], true)
  | 'o' :: rest => some ([.output (String.ofList (joinedValue rest))], false)
  | _ :: _ => none

/-- A long option. The result is `none` inside when its value is the next word. -/
def long? (word : List Char) : Option (Option Item) :=
  let name := String.ofList (word.takeWhile (· ≠ '='))
  match word.dropWhile (· ≠ '=') with
  | [] => if name = "output" then some none else (switchOfLong? name).map fun switch => some (.switch switch)
  | _ :: value => if name = "output" then some (some (.output (String.ofList value))) else none

/-- The meanings of the arguments in order. `awaiting` says that the last word was an output option
    without its value. -/
def items? (awaiting : Bool) : List String → Option (List Item)
  | [] => if awaiting then none else some []
  | word :: rest =>
    if awaiting then
      if isOption word then none else (items? false rest).map (.output word :: ·)
    else
      match word.toList with
      | ['-', '-'] => some (rest.map .input)
      | '-' :: '-' :: name =>
        match long? name with
        | none => none
        | some none => items? true rest
        | some (some item) => (items? false rest).map (item :: ·)
      | '-' :: c :: cs =>
        match short? (c :: cs) with
        | none => none
        | some (items, needsValue) => (items? needsValue rest).map (items ++ ·)
      | _ => (items? false rest).map (.input word :: ·)

def Item.output? : Item → Option String
  | output path => some path
  | _ => none

def Item.input? : Item → Option String
  | input path => some path
  | _ => none

/-- The arguments of the command, if they make sense: one input, no option twice, and no path empty.
    -/
def parse? (words : List String) : Option Arguments := do
  let items ← items? false words
  let has := fun switch => items.contains (.switch switch)
  guard (∀ switch ∈ [Switch.noOptimize, .noCheck, .stats, .verbose], items.count (.switch switch) ≤ 1)
  let outputs := items.filterMap Item.output?
  guard (outputs.length ≤ 1 && outputs.all (· ≠ ""))
  match items.filterMap Item.input? with
  | [input] =>
    guard (input ≠ "")
    return ⟨input, outputs.head?, has .noOptimize, has .noCheck, has .stats, has .verbose⟩
  | _ => none

end Arguments

end TemplateTree
