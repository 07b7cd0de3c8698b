import TemplateTree.Expr.Basic
import TemplateTree.Visit

namespace TemplateTree

structure Census where
  statements : Nat
  expressions : Nat
  literals : Nat
deriving DecidableEq, Inhabited

namespace Census

def zero : Census := ⟨0, 0, 0⟩

/-- Counts nodes. A block counts where it is met as a block. -/
def counter : Visitor Census where
  stmt s walk census :=
    match s with
    | .block _ => walk census
    | _ => walk { census with statements := census.statements + 1 }
  block _ walk census := walk { census with statements := census.statements + 1 }
  expr e walk census :=
    walk ⟨census.statements, census.expressions + 1, if e.isLiteral then census.literals + 1 else census.literals⟩

def total (census : Census) : Nat := census.statements + census.expressions

/-- How many nodes there are less than before; none when there are more. -/
def removed (before after : Census) : Nat := before.total - after.total

end Census

def Template.census (t : Template) : Census := Census.counter.visit t .zero

end TemplateTree
