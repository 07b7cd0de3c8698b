import TemplateTree.Census
import TemplateTree.Contract
import TemplateTree.Diagnostic
import TemplateTree.Folding

namespace TemplateTree

/-- Which passes run. -/
structure CompileOptions where
  optimize : Bool := true
  checkContract : Bool := true
deriving DecidableEq, Inhabited

/-- Node counts of a template before and after its folds. -/
structure CompileStats where
  before : Census
  after : Census
  folds : Nat
deriving DecidableEq, Inhabited

def CompileStats.removed (stats : CompileStats) : Nat := stats.before.removed stats.after

structure Compilation where
  template : Template
  stats : CompileStats

/-- Why a template was given up. -/
inductive CompileError where
  | contractViolated (template : String)
  | optimizingFailed (template : String)
deriving DecidableEq

def CompileError.message : CompileError → String
  | contractViolated template => "Template " ++ template ++ " violates the tree contract"
  | optimizingFailed template => "Optimizing template " ++ template ++ " failed"

structure Compiler where
  options : CompileOptions
  diagnostics : List Diagnostic
  internalErrors : Nat

namespace Compiler

/-- A compiler that has seen no template. -/
def ofOptions (options : CompileOptions) : Compiler := ⟨options, [], 0⟩

def report (compiler : Compiler) (d : Diagnostic) : Compiler :=
  { compiler with diagnostics := compiler.diagnostics ++ [d] }

/-- A tree error is a mistake of the compiler that made the tree, not of the author. -/
def reportInternal (compiler : Compiler) (error : TreeError) : Compiler :=
  let span? := if error.span.isUnknown then none else some error.span
  { compiler.report ⟨"internal compiler error: " ++ error.message, .error, span?⟩ with
    internalErrors := compiler.internalErrors + 1 }

/-- The folded template and the number of folds, or the template itself when folding is off. -/
def foldIfWanted (compiler : Compiler) (t : Template) : Except TreeError (Template × Nat) :=
  if compiler.options.optimize then
    let folded := t.fold
    folded.result.map fun t' => (t', folded.events.length)
  else .ok (t, 0)

def noEffect (t : Template) : Diagnostic :=
  ⟨"template " ++ t.name.name ++ " has no effect once constants are folded", .warning, some t.span⟩

/-- Compiles one template. -/
def compile (compiler : Compiler) (t : Template) : Compiler × Except CompileError Compilation :=
  let checked := if compiler.options.checkContract then t.check else .ok ()
  match checked with
  | .error error => (compiler.reportInternal error, .error (.contractViolated t.name.name))
  | .ok () =>
    match compiler.foldIfWanted t with
    | .error error => (compiler.reportInternal error, .error (.optimizingFailed t.name.name))
    | .ok (t', folds) =>
      let compiler := if t.body.isSome && t'.body.isNone then compiler.report (noEffect t') else compiler
      (compiler, .ok ⟨t', ⟨t.census, t'.census, folds⟩⟩)

end Compiler

end TemplateTree
