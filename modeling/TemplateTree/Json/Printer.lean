import TemplateTree.Json.Numeral
import TemplateTree.Text.Quoted

namespace TemplateTree.Json

/-- One character of a JSON string. -/
def escapeChar (c : Char) : String :=
  if c = '"' then "\\\""
  else if c = '\\' then "\\\\"
  else if c = '\x08' then "\\b"
  else if c = '\x0c' then "\\f"
  else if c = '\n' then "\\n"
  else if c = '\r' then "\\r"
  else if c = '\t' then "\\t"
  else if c.toNat < 0x10 then "\\u000" ++ Text.hex c.toNat
  else if c.toNat < 0x20 then "\\u00" ++ Text.hex c.toNat
  else String.singleton c

/-- A text as a JSON string. -/
def quote (s : String) : String := "\"" ++ String.join (s.toList.map escapeChar) ++ "\""

mutual

/-- The value on one line without blanks. -/
def compact : Json → String
  | null => "null"
  | bool value => if value then "true" else "false"
  | num numeral => numeral.text
  | str value => quote value
  | arr items => "[" ++ compactItems "" items ++ "]"
  | obj fields => "\x7b" ++ compactFields "" fields ++ "\x7d"
  | unreadable => "null"

def compactItems (separator : String) : List Json → String
  | [] => ""
  | item :: rest => separator ++ item.compact ++ compactItems "," rest

def compactFields (separator : String) : List (String × Json) → String
  | [] => ""
  | (key, value) :: rest => separator ++ quote key ++ ":" ++ value.compact ++ compactFields "," rest

end

/-- A new line at an indentation. -/
def newline (indent : Nat) : String := "\n" ++ String.ofList (List.replicate indent ' ')

mutual

/-- The value with each part on a line of its own, two columns further in than the whole. -/
def pretty (indent : Nat) : Json → String
  | null => "null"
  | bool value => if value then "true" else "false"
  | num numeral => numeral.text
  | str value => quote value
  | arr [] => "[]"
  | arr (item :: rest) =>
    "[" ++ newline (indent + 2) ++ item.pretty (indent + 2) ++ prettyItems (indent + 2) rest ++ newline indent ++ "]"
  | obj [] => "\x7b\x7d"
  | obj ((key, value) :: rest) =>
    "\x7b" ++ newline (indent + 2) ++ quote key ++ ": " ++ value.pretty (indent + 2) ++ prettyFields (indent + 2) rest ++
      newline indent ++ "\x7d"
  | unreadable => "null"

/-- The items after the first. -/
def prettyItems (indent : Nat) : List Json → String
  | [] => ""
  | item :: rest => "," ++ newline indent ++ item.pretty indent ++ prettyItems indent rest

/-- The fields after the first. -/
def prettyFields (indent : Nat) : List (String × Json) → String
  | [] => ""
  | (key, value) :: rest =>
    "," ++ newline indent ++ quote key ++ ": " ++ value.pretty indent ++ prettyFields indent rest

end

end TemplateTree.Json
