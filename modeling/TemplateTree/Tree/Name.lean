import TemplateTree.Span
import TemplateTree.Ty

namespace TemplateTree

/-- A name and where it was written. -/
structure Name where
  span : Span
  name : String
deriving DecidableEq, Inhabited

/-- A type as it was written, and the type it was resolved to. -/
structure TypeName where
  span : Span
  name : String
  /-- The number of array levels that were written. A name made from a type has as many as the type.
      -/
  written : Option UInt64
  ty? : Option Ty
deriving DecidableEq, Inhabited

namespace TypeName

/-- A name that is not resolved yet. -/
def unresolved (span : Span) (name : String) (dimensions : UInt64) : TypeName := ⟨span, name, some dimensions, none⟩

/-- The name of a type: the class below its array levels. -/
def ofTy (span : Span) (ty : Ty) : TypeName := ⟨span, ty.kind.base.className, none, some ty⟩

/-- The number of array levels. -/
def dimensions (typeName : TypeName) : UInt64 :=
  typeName.written.getD (match typeName.ty? with
    | some ty => UInt64.ofNat ty.kind.dimensions
    | none => 0)

def setTy (typeName : TypeName) (ty : Ty) : TypeName := { typeName with ty? := some ty }

end TypeName

/-- A variable or a field. -/
structure Variable where
  span : Span
  name : String
  typeName : TypeName
  ty? : Option Ty
  isField : Bool
  isStatic : Bool
  isTransient : Bool
deriving DecidableEq, Inhabited

namespace Variable

/-- A local variable that has no type yet. -/
def ofTypeName (span : Span) (name : String) (typeName : TypeName) : Variable :=
  ⟨span, name, typeName, none, false, false, false⟩

/-- A local variable of a known type. -/
def ofTy (span : Span) (name : String) (ty : Ty) : Variable :=
  { ofTypeName span name (.ofTy span ty) with ty? := some ty }

/-- Gives the variable a type and a type name that agrees with it. -/
def setTy (v : Variable) (ty : Ty) : Variable := { v with typeName := .ofTy v.span ty, ty? := some ty }

/-- A variable that is no field is not static either. -/
def setField (v : Variable) (isField : Bool) : Variable := { v with isField, isStatic := isField && v.isStatic }

/-- A static variable is a field. -/
def setStatic (v : Variable) (isStatic : Bool) : Variable := { v with isStatic, isField := isStatic || v.isField }

def setTransient (v : Variable) (isTransient : Bool) : Variable := { v with isTransient }

end Variable

/-- A resolved function, template or property accessor. -/
structure Method where
  declaringTy : Option Ty
  name : String
  params : List Ty
  returnTy : Ty
deriving DecidableEq, Inhabited

/-- A name that refers to a variable, once it is bound. -/
structure VarRef where
  name : Name
  bound? : Option Variable
deriving DecidableEq, Inhabited

end TemplateTree
