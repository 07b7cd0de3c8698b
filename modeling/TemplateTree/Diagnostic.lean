import TemplateTree.Span

namespace TemplateTree

inductive Severity where
  | error
  | warning
deriving DecidableEq, Inhabited

def Severity.label : Severity → String
  | error => "error"
  | warning => "warning"

structure Diagnostic where
  message : String
  severity : Severity
  span? : Option Span
deriving DecidableEq, Inhabited

/-- The message under its severity, with its place when that is known. -/
def Diagnostic.text (d : Diagnostic) : String :=
  let line := d.severity.label ++ ": " ++ d.message
  match d.span? with
  | none => line
  | some span => if span.isUnknown then line else line ++ " (" ++ span.text ++ ")"

end TemplateTree
