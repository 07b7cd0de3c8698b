import TemplateTree.Command.Arguments
import TemplateTree.Compiler
import TemplateTree.Directory
import TemplateTree.Document.Decode

namespace TemplateTree

namespace Template

/-- Reads a template tree from its text. -/
def read? (dialect : Json.Dialect) (text : String) : Option Template :=
  (dialect.parse? text).bind (ofJson? dialect.reals)

/-- The text of a template tree. -/
def write (dialect : Json.Dialect) (t : Template) : String := dialect.print (t.toJson dialect.reals)

end Template

namespace Command

/-- What the command leaves behind besides files. -/
structure Outcome where
  exitCode : Nat
  stdout : String
  stderr : String
deriving DecidableEq

/-- Why the command failed. -/
inductive Failure where
  | reading (path : String) (error : FileError)
  | notATree (path : String)
  | compiling (error : CompileError)
  | creating (path : String) (error : FileError)
  | writing (path : String) (error : FileError)

namespace Failure

def context : Failure → String
  | reading path _ => "Failed to read " ++ Text.quotedPath path
  | notATree path => path ++ " is not a template tree"
  | compiling _ => "Compilation failed"
  | creating path _ => "Failed to create " ++ path
  | writing path _ => "Failed to write " ++ path

def cause? : Failure → Option String
  | reading _ error => some error.message
  | notATree _ => none
  | compiling error => some error.message
  | creating _ error => some error.message
  | writing _ error => some error.message

/-- What failed and, on indented lines below, why. -/
def text (failure : Failure) : String :=
  "Error: " ++ failure.context ++
    match failure.cause? with
    | none => ""
    | some cause => "\n\nCaused by:\n    " ++ "\n    ".intercalate (cause.splitOn "\n") ++ "\n"

end Failure

/-- The mark in front of a diagnostic. -/
def marker : Severity → String
  | .error => "  -"
  | .warning => "  ~"

/-- A diagnostic on a line of its own, with its place on a second one. -/
def diagnosticText (path : String) (d : Diagnostic) : String :=
  marker d.severity ++ " " ++ d.severity.label ++ ": " ++ d.message ++ "\n" ++
    match d.span? with
    | none => ""
    | some span => "     --> " ++ path ++ ":" ++ span.line.toNat.repr ++ ":" ++ span.start.toNat.repr ++ "\n"

/-- All diagnostics under a heading, or nothing when there are none. -/
def diagnosticsText (path : String) (diagnostics : List Diagnostic) : String :=
  if diagnostics.isEmpty then ""
  else "Diagnostics:\n" ++ String.join (diagnostics.map (diagnosticText path))

/-- A label moved to the right end of its column. -/
def column (label : String) : String := String.ofList (List.replicate (12 - label.length) ' ') ++ label ++ ": "

/-- The counts before and after, one to a line. -/
def statsText (stats : CompileStats) : String :=
  let row := fun (label : String) (pick : Census → Nat) =>
    column label ++ (pick stats.before).repr ++ " -> " ++ (pick stats.after).repr ++ "\n"
  row "statements" (·.statements) ++ row "expressions" (·.expressions) ++ row "literals" (·.literals) ++
    column "folds" ++ stats.folds.repr ++ "\n" ++ column "removed" ++ stats.removed.repr ++ "\n"

/-- The passes that the arguments leave on. -/
def compileOptions (arguments : Arguments) : CompileOptions := ⟨!arguments.noOptimize, !arguments.noCheck⟩

/-- Compiles the text of a tree. The first result is what goes to the error stream in any case. -/
def compileText (dialect : Json.Dialect) (arguments : Arguments) (text : String) : String × Except Failure String :=
  match Template.read? dialect text with
  | none => ("", .error (.notATree arguments.input))
  | some t =>
    let (compiler, result) := (Compiler.ofOptions (compileOptions arguments)).compile t
    let diagnostics := diagnosticsText arguments.input compiler.diagnostics
    match result with
    | .error error => (diagnostics, .error (.compiling error))
    | .ok compilation =>
      (diagnostics ++ if arguments.stats then statsText compilation.stats else "",
        .ok (compilation.template.write dialect ++ "\n"))

variable {m : Type → Type} [Monad m] (files : FileSystem m)

/-- Writes a text to a file, after making the folders above it. -/
def writeFile (path text : String) : m (Except Failure Unit) := do
  let parent := (Path.parent? path).getD ""
  let created ← if parent = "" then pure (.ok ()) else files.createFolders parent
  match created with
  | .error error => return .error (.creating parent error)
  | .ok () =>
    match ← files.write path text with
    | .error error => return .error (.writing path error)
    | .ok () => return .ok ()

/-- Reads, compiles and writes as the arguments say. -/
def runWith (dialect : Json.Dialect) (arguments : Arguments) : m Outcome := do
  match ← files.read arguments.input with
  | .error error => return ⟨1, "", (Failure.reading arguments.input error).text⟩
  | .ok text =>
    let (stderr, result) := compileText dialect arguments text
    match result, arguments.output? with
    | .error failure, _ => return ⟨1, "", stderr ++ failure.text⟩
    | .ok tree, none => return ⟨0, tree, stderr⟩
    | .ok tree, some path =>
      match ← writeFile files path tree with
      | .error failure => return ⟨1, "", stderr ++ failure.text⟩
      | .ok () => return ⟨0, "", stderr⟩

/-- Runs the command. Arguments that make no sense end it before it looks at any file. -/
def run (dialect : Json.Dialect) (words : List String) : m Outcome :=
  match Arguments.parse? words with
  | none => pure ⟨2, "", ""⟩
  | some arguments => runWith files dialect arguments

end Command

end TemplateTree
