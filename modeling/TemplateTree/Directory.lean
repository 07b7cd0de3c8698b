import TemplateTree.Path

namespace TemplateTree

/-- Why a file could not be read or written. -/
inductive FileError where
  | notFound
  | permissionDenied
  | alreadyExists
  | notDirectory
  | isDirectory
  | nameTooLong
  | notText
  | other (message : String)
deriving DecidableEq

def FileError.message : FileError → String
  | notFound => "No such file or directory (os error 2)"
  | permissionDenied => "Permission denied (os error 13)"
  | alreadyExists => "File exists (os error 17)"
  | notDirectory => "Not a directory (os error 20)"
  | isDirectory => "Is a directory (os error 21)"
  | nameTooLong => "File name too long (os error 36)"
  | notText => "stream did not contain valid UTF-8"
  | other message => message

/-- Access to files. -/
structure FileSystem (m : Type → Type) where
  read : (path : String) → m (Except FileError String)
  isFolder : (path : String) → m Bool
  /-- Makes one folder. The folder above it must be there. -/
  makeFolder : (path : String) → m (Except FileError Unit)
  write : (path contents : String) → m (Except FileError Unit)

namespace FileSystem

variable {m : Type → Type} [Monad m] (files : FileSystem m)

/-- Makes a folder unless it is there. -/
def ensureFolder (path : String) : m (Except FileError Unit) := do
  match ← files.makeFolder path with
  | .error .alreadyExists =>
    return if ← files.isFolder path then .ok () else .error .alreadyExists
  | outcome => return outcome

/-- Makes the first of some folders, each of which lies in the next, and the others only if they are
    missing. -/
def ensureFolders : List String → m (Except FileError Unit)
  | [] => return .ok ()
  | path :: above => do
    match ← files.ensureFolder path with
    | .error .notFound =>
      match ← ensureFolders above with
      | .ok () => files.ensureFolder path
      | .error error => return .error error
    | outcome => return outcome

/-- Makes the folder at a path and all folders above it. -/
def createFolders (path : String) : m (Except FileError Unit) :=
  files.ensureFolders (Path.ancestors path)

end FileSystem

/-- A place: the names on the way to it from the working directory. A place above the working
    directory starts with two dots for each step up, and one below the root with a slash. -/
abbrev Place := List String

/-- The files and folders below a working directory. Nothing is known of what lies around it, but for
    the folders above it. -/
structure Directory where
  files : List (Place × String)
  folders : List Place

namespace Directory

/-- The longest name of a file or folder, in bytes. -/
def maxNameBytes : Nat := 255

/-- The longest path, in bytes. -/
def maxPathBytes : Nat := 4095

/-- The root, the working directory and the folders above it. -/
def isFixed (place : Place) : Bool := place = ["/"] || place.all (· = "..")

def isFolder (dir : Directory) (place : Place) : Bool := isFixed place || dir.folders.contains place

def contents? (dir : Directory) (place : Place) : Option String := dir.files.lookup place

/-- Where one part of a path leads to. The folder above the root is the root. -/
def follow (place : Place) (part : String) : Place :=
  if part = "." then place
  else if part ≠ ".." then place ++ [part]
  else if place = ["/"] then place
  else if isFixed place then place ++ [".."]
  else place.dropLast

/-- There is no folder at a place: it is a file, or there is nothing. -/
def noFolder (dir : Directory) (place : Place) : FileError :=
  if (dir.contents? place).isSome then .notDirectory else .notFound

/-- The place that the parts of a path lead to. All folders on the way must be there. -/
def walk (dir : Directory) : Place → List String → Except FileError Place
  | place, [] => .ok place
  | place, part :: rest =>
    if !dir.isFolder place then .error (dir.noFolder place)
    else if maxNameBytes < part.utf8ByteSize then .error .nameTooLong
    else dir.walk (follow place part) rest

/-- The place that a path leads to. There need not be anything. -/
def locate (dir : Directory) (path : String) : Except FileError Place :=
  if maxPathBytes < path.utf8ByteSize then .error .nameTooLong
  else dir.walk (if Path.isAbsolute path then ["/"] else []) (Path.parts path)

/-- The text of the file at a path. -/
def read (dir : Directory) (path : String) : Except FileError String := do
  let place ← dir.locate path
  if dir.isFolder place then .error .isDirectory
  else
    match dir.contents? place with
    | none => .error .notFound
    | some contents => if Path.endsInSlash path then .error .notDirectory else .ok contents

/-- Makes a folder at a path. -/
def makeFolder (dir : Directory) (path : String) : Except FileError Directory := do
  let place ← dir.locate path
  if dir.isFolder place || (dir.contents? place).isSome then .error .alreadyExists
  else .ok { dir with folders := dir.folders ++ [place] }

/-- Puts a text into the file at a path. -/
def write (dir : Directory) (path contents : String) : Except FileError Directory := do
  let place ← dir.locate path
  if Path.endsInSlash path || dir.isFolder place then .error .isDirectory
  else .ok { dir with files := (place, contents) :: dir.files.filter (·.1 ≠ place) }

/-- A directory that holds just some files, each under its path. -/
def ofFiles (files : List (String × String)) : Directory :=
  files.foldl (fun dir (path, contents) =>
    let place := (Path.parts path).foldl follow []
    let folders := (List.range place.length).map fun n => place.take (n + 1)
    ⟨dir.files ++ [(place, contents)], dir.folders ++ folders.dropLast⟩) ⟨[], []⟩

/-- Keeps the directory that a change leads to. -/
def change (result : Directory → Except FileError Directory) :
    StateM Directory (Except FileError Unit) := do
  match result (← get) with
  | .ok dir => set dir; return .ok ()
  | .error error => return .error error

/-- Access to the files of a directory in memory. -/
def fileSystem : FileSystem (StateM Directory) where
  read path := do return (← get).read path
  isFolder path := do
    let dir ← get
    return (dir.locate path).toOption.any dir.isFolder
  makeFolder path := change (·.makeFolder path)
  write path contents := change (·.write path contents)

end Directory

end TemplateTree
