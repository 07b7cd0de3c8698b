import TemplateTree.Command
import TemplateTree.Json.Standard

namespace TemplateTree

/-- Whether an error has a given number. Some actions report it negated. -/
def hasNumber (code number : UInt32) : Bool := code = number || code = 0 - number

/-- What went wrong with a file, as the command reports it. -/
def fileErrorOf : IO.Error → FileError
  | .noFileOrDirectory .. => .notFound
  | .alreadyExists .. => .alreadyExists
  | .permissionDenied .. => .permissionDenied
  | .inappropriateType _ code _ => if hasNumber code 20 then .notDirectory else .isDirectory
  | error@(.invalidArgument _ code _) =>
    if hasNumber code 36 then .nameTooLong else .other (toString error)
  | .userError _ => .notText
  | error => .other (toString error)

/-- The result of an action on files. -/
def guardFile {α : Type} (action : IO α) : IO (Except FileError α) := do
  try return .ok (← action)
  catch error => return .error (fileErrorOf error)

/-- Access to the files of the machine. -/
def realFiles : FileSystem IO where
  read path := guardFile (IO.FS.readFile path)
  isFolder path := do
    try (← IO.FS.realPath path).isDir
    catch _ => return false
  makeFolder path := guardFile (IO.FS.createDir path)
  write path contents := guardFile (IO.FS.writeFile path contents)

end TemplateTree

/-- Runs the command and prints what it says. -/
def main (words : List String) : IO UInt32 := do
  let outcome ← TemplateTree.Command.run TemplateTree.realFiles .standard words
  IO.eprint outcome.stderr
  unless outcome.stderr.isEmpty || outcome.stderr.endsWith "\n" do IO.eprintln ""
  IO.print outcome.stdout
  return UInt32.ofNat outcome.exitCode
