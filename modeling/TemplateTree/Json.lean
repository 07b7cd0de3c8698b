namespace TemplateTree

abbrev Digit := Fin 10

def Digit.zero : Digit := 0

/-- The digit that a character stands for. -/
def Digit.ofChar (c : Char) : Digit := Fin.ofNat 10 (c.toNat - '0'.toNat)

/-- A number as it is written: `-12.50e3` has the whole digits 1, 2, the fraction digits 5, 0 and
    the exponent 3. -/
structure Numeral where
  negative : Bool
  whole : List Digit
  fraction : List Digit
  exponent? : Option Int
deriving DecidableEq

inductive Json where
  | null
  | bool (value : Bool)
  | num (numeral : Numeral)
  | str (value : String)
  | arr (items : List Json)
  | obj (fields : List (String × Json))
  | unreadable

namespace Json

mutual

/-- How deep arrays and objects are nested. -/
def depth : Json → Nat
  | arr items => itemsDepth items + 1
  | obj fields => fieldsDepth fields + 1
  | _ => 0

def itemsDepth : List Json → Nat
  | [] => 0
  | item :: rest => max item.depth (itemsDepth rest)

def fieldsDepth : List (String × Json) → Nat
  | [] => 0
  | (_, value) :: rest => max value.depth (fieldsDepth rest)

end

end Json

end TemplateTree
