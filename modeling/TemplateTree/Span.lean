namespace TemplateTree

/-- A line and a character range in the source of a template. -/
structure Span where
  line : UInt64
  start : UInt64
  stop : UInt64
deriving DecidableEq, Inhabited

namespace Span

/-- The span of a node whose position is not known. -/
def unknown : Span := ⟨0, 0, 0⟩

def isUnknown (span : Span) : Bool := span = unknown

/-- The empty range at one position. -/
def point (line position : UInt64) : Span := ⟨line, position, position⟩

/-- The smallest span over both arguments. The one that starts first gives the line, and the first
    argument does when both start together. -/
def union (a b : Span) : Span :=
  if a.isUnknown then b
  else if b.isUnknown then a
  else if a.start ≤ b.start then ⟨a.line, a.start, max a.stop b.stop⟩
  else ⟨b.line, b.start, max a.stop b.stop⟩

/-- The union of all spans of a list, unknown for the empty list. -/
def join (spans : List Span) : Span := spans.foldl union unknown

def text (span : Span) : String :=
  "line " ++ span.line.toNat.repr ++ ", " ++ span.start.toNat.repr ++ ".." ++ span.stop.toNat.repr

@[simp]
theorem isUnknown_iff {span : Span} : span.isUnknown = true ↔ span = unknown := by simp [isUnknown]

@[simp]
theorem unknown_union (span : Span) : unknown.union span = span := by simp [union]

@[simp]
theorem union_unknown (span : Span) : span.union unknown = span := by
  by_cases h : span = unknown <;> simp [union, h]

end Span

end TemplateTree
