import TemplateTree.Json.Numeral

namespace TemplateTree

/-- How the values of a type are written and read. -/
structure Json.Coding (α : Type) where
  encode : α → Json
  decode? : Json → Option α

/-- How floating-point numbers of both widths are written and read, and which numerals that stand for
    no integer can be read at all. -/
structure RealForm where
  single : Json.Coding Float32
  double : Json.Coding Float
  isReal : Numeral → Bool

namespace Json

mutual

/-- Every part of the value can be read. -/
def isReadable (form : RealForm) : Json → Bool
  | num numeral => numeral.integer?.isSome || form.isReal numeral
  | arr items => areReadable form items
  | obj fields => fieldsReadable form fields
  | unreadable => false
  | _ => true

def areReadable (form : RealForm) : List Json → Bool
  | [] => true
  | item :: rest => item.isReadable form && areReadable form rest

def fieldsReadable (form : RealForm) : List (String × Json) → Bool
  | [] => true
  | (_, value) :: rest => value.isReadable form && fieldsReadable form rest

end

/-- How values are written to a text and read from one, and how deep a text that is read may be
    nested. -/
structure Dialect where
  reals : RealForm
  maxDepth : Nat
  parse? : String → Option Json
  print : Json → String

end Json

end TemplateTree
