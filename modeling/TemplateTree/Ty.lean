namespace TemplateTree

/-- The class of an object. An array kind carries its element type: the element's class and its two
    flags. -/
inductive Kind where
  | void
  | null
  | boolean
  | char
  | byte
  | short
  | int
  | long
  | float
  | double
  | number
  | string
  | object
  | named (name : String)
  | array (element : Kind) (primitive nonNull : Bool)
deriving DecidableEq, Inhabited

/-- A static type: an object class, whether the value is primitive, and whether it is declared
    non-null. -/
structure Ty where
  kind : Kind
  primitive : Bool
  nonNull : Bool
deriving DecidableEq, Inhabited

namespace Kind

/-- The name of the primitive form, for the kinds that have one. -/
def primitiveName? : Kind → Option String
  | void => some "void"
  | boolean => some "boolean"
  | char => some "char"
  | byte => some "byte"
  | short => some "short"
  | int => some "int"
  | long => some "long"
  | float => some "float"
  | double => some "double"
  | _ => none

/-- Whether values of this kind also exist in a primitive form. -/
def hasPrimitiveForm : Kind → Bool
  | void | boolean | char | byte | short | int | long | float | double => true
  | _ => false

/-- The numeric kinds, including their common class. -/
def isNumber : Kind → Bool
  | byte | short | int | long | float | double | number => true
  | _ => false

/-- How a type of this kind reads, given how its class reads. -/
def formText (kind : Kind) (className : String) (primitive nonNull : Bool) : String :=
  match primitive, kind.primitiveName? with
  | true, some name => name
  | _, _ =>
    if kind = null then "null"
    else if nonNull then "non-null " ++ className
    else className

/-- The name of the class. The null type is an object without a class of its own. -/
def className : Kind → String
  | void => "Void"
  | null | object => "Object"
  | boolean => "Boolean"
  | char => "Character"
  | byte => "Byte"
  | short => "Short"
  | int => "Integer"
  | long => "Long"
  | float => "Float"
  | double => "Double"
  | number => "Number"
  | string => "String"
  | named name => name
  | array element primitive nonNull => element.formText element.className primitive nonNull ++ "[]"

/-- The kind below all array levels. -/
def base : Kind → Kind
  | array element _ _ => element.base
  | kind => kind

/-- The number of array levels. -/
def dimensions : Kind → Nat
  | array element _ _ => element.dimensions + 1
  | _ => 0

end Kind

namespace Ty

/-- The nullable object form of a kind. -/
def ofKind (kind : Kind) : Ty := ⟨kind, false, false⟩

/-- The primitive form of a kind. A kind without one stays in object form. -/
def ofPrimitive (kind : Kind) : Ty := ⟨kind, kind.hasPrimitiveForm, kind.hasPrimitiveForm⟩

def void : Ty := ofPrimitive .void
def null : Ty := ofKind .null
def boolean : Ty := ofPrimitive .boolean
def char : Ty := ofPrimitive .char
def int : Ty := ofPrimitive .int
def long : Ty := ofPrimitive .long
def float : Ty := ofPrimitive .float
def double : Ty := ofPrimitive .double
def string : Ty := ofKind .string
def object : Ty := ofKind .object
def number : Ty := ofKind .number
def named (name : String) : Ty := ofKind (.named name)
def array (element : Ty) : Ty := ofKind (.array element.kind element.primitive element.nonNull)

/-- A primitive value is never null, whatever its other flag says. -/
def isNonNull (ty : Ty) : Bool := ty.primitive || ty.nonNull

def isNullable (ty : Ty) : Bool := !ty.isNonNull

def isVoid (ty : Ty) : Bool := ty.kind = .void

def isNumber (ty : Ty) : Bool := ty.kind.isNumber

def isBoolean (ty : Ty) : Bool := ty.kind = .boolean

def isString (ty : Ty) : Bool := ty.kind = .string

def toNonNull (ty : Ty) : Ty := { ty with nonNull := true }

/-- The type without its non-null flag. A primitive type has no nullable form. -/
def toNullable (ty : Ty) : Ty := if ty.primitive then ty else { ty with nonNull := false }

def nonNullString : Ty := string.toNonNull

/-- Whether values of this type can be boxed and unboxed. -/
def hasPrimitivePeer (ty : Ty) : Bool := ty.kind.hasPrimitiveForm && !ty.isVoid

/-- The unboxed form, where there is one. -/
def toPrimitive (ty : Ty) : Ty :=
  if ty.primitive || !ty.hasPrimitivePeer then ty else ofPrimitive ty.kind

/-- The boxed form. Boxing a primitive value never gives null. -/
def toBoxed (ty : Ty) : Ty := if ty.primitive then ⟨ty.kind, false, true⟩ else ty

/-- Whether a string can be stored in this type without a cast. -/
def acceptsString (ty : Ty) : Bool := !ty.primitive && (ty.kind = .string || ty.kind = .object)

/-- The element type of an array type. -/
def element? (ty : Ty) : Option Ty :=
  match ty.kind with
  | .array element primitive nonNull => some ⟨element, primitive, nonNull⟩
  | _ => none

def text (ty : Ty) : String := ty.kind.formText ty.kind.className ty.primitive ty.nonNull

end Ty

end TemplateTree
