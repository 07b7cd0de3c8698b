namespace TemplateTree.Text

/-- The one or two units of a character. -/
def unitsOfChar (c : Char) : List Nat :=
  if c.toNat < 0x10000 then [c.toNat]
  else [0xD800 + (c.toNat - 0x10000) / 0x400, 0xDC00 + (c.toNat - 0x10000) % 0x400]

/-- The UTF-16 units of a string. -/
def units (s : String) : List Nat := s.toList.flatMap unitsOfChar

/-- The lexicographic order of two unit sequences. -/
def compareUnits : List Nat → List Nat → Ordering
  | [], [] => .eq
  | [], _ :: _ => .lt
  | _ :: _, [] => .gt
  | a :: as, b :: bs =>
    if a < b then .lt
    else if b < a then .gt
    else compareUnits as bs

end TemplateTree.Text
