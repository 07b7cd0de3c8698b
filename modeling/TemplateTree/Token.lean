import TemplateTree.Span

namespace TemplateTree

inductive TokenKind where
  | plus
  | minus
  | mult
  | div
  | mod
  | concat
  | eq
  | ne
  | lt
  | gt
  | le
  | ge
  | isa
  | and
  | or
  | not
  | dot
  | lBracket
deriving DecidableEq, Inhabited

namespace TokenKind

def isArithmetic : TokenKind → Bool
  | plus | minus | mult | div | mod => true
  | _ => false

def isRelational : TokenKind → Bool
  | eq | ne | lt | gt | le | ge | isa => true
  | _ => false

def isEquality : TokenKind → Bool
  | eq | ne => true
  | _ => false

/-- The token as it is written in the source. -/
def lexeme : TokenKind → String
  | plus => "+"
  | minus => "-"
  | mult => "*"
  | div => "/"
  | mod => "%"
  | concat => "&"
  | eq => "=="
  | ne => "!="
  | lt => "<"
  | gt => ">"
  | le => "<="
  | ge => ">="
  | isa => "isa"
  | and => "and"
  | or => "or"
  | not => "not"
  | dot => "."
  | lBracket => "["

end TokenKind

structure Token where
  kind : TokenKind
  span : Span
deriving DecidableEq, Inhabited

end TemplateTree
