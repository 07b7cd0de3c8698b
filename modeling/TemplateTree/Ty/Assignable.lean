import TemplateTree.Ty

namespace TemplateTree

namespace Kind

/-- The class that values of a kind belong to: null is an object. -/
def widest : Kind → Kind
  | null => object
  | kind => kind

/-- A variable of the first kind can hold every value of the second. Arrays are covariant as long as
    neither holds primitive elements. -/
def accepts : Kind → Kind → Bool
  | array target targetPrimitive targetNonNull, array source sourcePrimitive sourceNonNull =>
    array target targetPrimitive targetNonNull = array source sourcePrimitive sourceNonNull ||
      (!targetPrimitive && !sourcePrimitive && target.accepts source)
  | target, source =>
    target.widest = source.widest ||
      (target ≠ void && source ≠ void && (target.widest = object || (target = number && source.isNumber)))

end Kind

namespace Ty

/-- The class of `target` can hold every value of the class of `source`. -/
def accepts (target source : Ty) : Bool := target.kind.accepts source.kind

/-- An array of type `source` can be converted into one of type `target` element by element. -/
def acceptsElements (target source : Ty) : Bool :=
  match target.element?, source.element? with
  | some target, some source =>
    target = source || target.accepts source || (target.isNumber && source.isNumber) || target.acceptsString
  | _, _ => false

end Ty

end TemplateTree
