import TemplateTree.Error
import TemplateTree.Expr.Basic
import TemplateTree.Visit

namespace TemplateTree

/-- A call whose result is not used needs no type. -/
def Expr.isVoidPermitted : Expr → Bool
  | .call _ _ callee .. => callee.voidPermitted
  | _ => false

/-- Adds what violates the contract to what was found before: an expression without a type, a call
    without its method, a class test without its type, a reference without its variable. -/
def contractChecker : Visitor (List TreeError) where
  expr e walk found :=
    walk (if e.ty?.isNone && !e.isVoidPermitted then found ++ [.malformed .untyped e.span] else found)
  exprKind e walk found :=
    match e with
    | .call _ .function callee .. =>
      walk (if callee.method?.isNone then
        found ++ [.malformed (.unresolvedCall callee.target.name) callee.target.span] else found)
    | .isa _ _ _ tested =>
      walk (if tested.ty?.isNone then found ++ [.malformed (.unresolvedTest tested.name) tested.span] else found)
    | _ => walk found
  varRef ref walk found :=
    match ref.bound? with
    | some _ => walk found
    | none => found ++ [.malformed (.unboundVariable ref.name.name) ref.name.span]

namespace Template

/-- All violations of the contract, in the order of the walk. -/
def violations (t : Template) : List TreeError := contractChecker.visit t []

/-- The first violation of the contract. -/
def check (t : Template) : Except TreeError Unit :=
  match t.violations with
  | [] => .ok ()
  | violation :: _ => .error violation

end Template

end TemplateTree
