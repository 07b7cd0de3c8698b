import TemplateTree.Json.Printer
import TemplateTree.Json.Reader
import TemplateTree.Json.Real

namespace TemplateTree

/-- Texts with one part to a line, and numbers as decimals. -/
def Json.Dialect.standard : Dialect where
  reals := .decimal
  maxDepth := 127
  parse? := Json.parse? 127
  print := Json.pretty 0

end TemplateTree
