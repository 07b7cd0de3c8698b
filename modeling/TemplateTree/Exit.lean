import TemplateTree.Tree

namespace TemplateTree

/-- The two ways of leaving the code around a statement. -/
inductive Exit where
  | return
  | break
deriving DecidableEq

mutual

/-- Control always leaves the statement in the given way. -/
def Stmt.exits (exit : Exit) : Stmt → Bool
  | .ret .. => exit = .return
  | .breakLoop _ => exit = .break
  | .list _ statements => lastExits exit statements
  | .block b => b.exits exit
  | .cond _ _ thenPart elsePart _ => partExits exit thenPart && partExits exit elsePart
  | _ => false

/-- The last statement of a list leaves in the given way. -/
def lastExits (exit : Exit) : List Stmt → Bool
  | [] => false
  | [s] => s.exits exit
  | _ :: rest => lastExits exit rest

/-- Control always leaves the block in the given way. -/
def Block.exits (exit : Exit) : Block → Bool
  | ⟨_, statements, _, _⟩ => lastExits exit statements

/-- The part of a conditional is there and leaves in the given way. -/
def partExits (exit : Exit) : Option Block → Bool
  | none => false
  | some b => b.exits exit

end

def Stmt.isReturn (s : Stmt) : Bool := s.exits .return

def Stmt.isBreak (s : Stmt) : Bool := s.exits .break

def Block.isReturn (b : Block) : Bool := b.exits .return

def Block.isBreak (b : Block) : Bool := b.exits .break

end TemplateTree
