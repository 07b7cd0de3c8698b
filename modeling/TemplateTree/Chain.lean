import TemplateTree.Ty

namespace TemplateTree

/-- One step of a chain. The first step of a chain has no source type: it introduces the natural
    type. -/
structure Conversion where
  source : Option Ty
  target : Ty
  castPreferred : Bool
deriving DecidableEq, Inhabited

/-- The coercions of an expression in the order in which they apply. -/
structure Chain where
  steps : List Conversion
deriving DecidableEq, Inhabited

namespace Chain

def empty : Chain := ⟨[]⟩

/-- The chain that holds only a natural type. Its step prefers a cast, so that another natural type
    can take its place. -/
def ofTy (ty : Ty) : Chain := ⟨[⟨none, ty, true⟩]⟩

/-- The chain of an expression that may have a natural type. -/
def ofTy? : Option Ty → Chain
  | none => empty
  | some ty => ofTy ty

/-- The type at the end of the chain. -/
def ty? (chain : Chain) : Option Ty := chain.steps.getLast?.map (·.target)

/-- The natural type at the start of the chain. -/
def initialTy? (chain : Chain) : Option Ty := chain.steps.head?.map (·.target)

/-- Adds a step from the current type, unless the chain already ends in the target. -/
def push (chain : Chain) (target : Ty) (castPreferred : Bool) : Chain :=
  if chain.ty? = some target then chain else ⟨chain.steps ++ [⟨chain.ty?, target, castPreferred⟩]⟩

end Chain

end TemplateTree
