namespace TemplateTree.Path

/-- Drops the slashes and dots at the end of a path, which is given in reverse. -/
def trimEnd : List Char → List Char
  | ['/'] => ['/']
  | '/' :: rest => trimEnd rest
  | '.' :: '/' :: rest => trimEnd ('/' :: rest)
  | cs => cs

/-- The path without its last part, dots after the first part apart; the root and the empty path have
    none. A single part lies in the unnamed directory. -/
def parent? (path : String) : Option String :=
  match trimEnd path.toList.reverse with
  | [] => none
  | ['/'] => none
  | cs => some (String.ofList (trimEnd (cs.dropWhile (· ≠ '/'))).reverse)

def isAbsolute (path : String) : Bool := path.toList.head? = some '/'

/-- A path with a slash at its end can only name a directory. -/
def endsInSlash (path : String) : Bool := path.toList.getLast? = some '/'

/-- The parts of a path, each of which leads from one directory to the next. -/
def parts (path : String) : List String := (path.splitOn "/").filter (· ≠ "")

/-- The path and the ones that `parent?` leads to, at most `count` of them, without the root and the
    unnamed directory. -/
def upward : (count : Nat) → String → List String
  | 0, _ => []
  | count + 1, path =>
    match parent? path with
    | none => []
    | some parent => path :: upward count parent

/-- A path and the directories above it, innermost first. A parent is shorter than its path, so there
    are no more of them than characters. -/
def ancestors (path : String) : List String := upward path.length path

end TemplateTree.Path
