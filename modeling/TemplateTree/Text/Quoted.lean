import TemplateTree.Text.Extender
import TemplateTree.Text.Unprintable

namespace TemplateTree.Text

/-- A number in lower-case hexadecimal. -/
def hex (n : Nat) : String := String.ofList (Nat.toDigits 16 n)

/-- One character between quotes. -/
def escape (c : Char) : String :=
  if c = '"' then "\\\""
  else if c = '\\' then "\\\\"
  else if c = '\t' then "\\t"
  else if c = '\n' then "\\n"
  else if c = '\r' then "\\r"
  else if c = Char.ofNat 0 then "\\0"
  else if 0x20 ≤ c.toNat && c.toNat < 0x7F then String.singleton c
  else if isUnprintable c || isFiller c || isExtender c then "\\u\x7b" ++ hex c.toNat ++ "\x7d"
  else String.singleton c

/-- A text in double quotes. A single quote in it stands for itself. -/
def quoted (s : String) : String := "\"" ++ String.join (s.toList.map escape) ++ "\""

/-- A path in double quotes. Here a single quote is escaped too. -/
def quotedPath (path : String) : String :=
  "\"" ++ String.join (path.toList.map fun c => if c = '\'' then "\\'" else escape c) ++ "\""

end TemplateTree.Text
