import TemplateTree.Main
import TemplateTree.Exit
import TemplateTree.Tree.Agree
import TemplateTree.Proofs.Contract
import TemplateTree.Proofs.Expr.Coerce
import TemplateTree.Proofs.Transform
import TemplateTree.Proofs.Chain.Fits
import TemplateTree.Proofs.Chain.Replay
import TemplateTree.Proofs.Folding.Rewrite
import TemplateTree.Proofs.Folding.Induction
import TemplateTree.Proofs.Folding.Remains
import TemplateTree.Proofs.Folding.Contract
import TemplateTree.Proofs.Folding.Normal
import TemplateTree.Proofs.Folding.Malformed
import TemplateTree.Proofs.Folding.Calls
import TemplateTree.Proofs.Folding.Parens
import TemplateTree.Proofs.Folding.Silent
import TemplateTree.Proofs.Folding.Exit
import TemplateTree.Proofs.Folding.Size
import TemplateTree.Proofs.Meaning.Constants
import TemplateTree.Proofs.Meaning.Rules
import TemplateTree.Proofs.Meaning.Fold
import TemplateTree.Proofs.Meaning.Run
import TemplateTree.Proofs.Meaning.Statements
import TemplateTree.Proofs.Meaning.Width
import TemplateTree.Proofs.Document.RoundTrip
import TemplateTree.Proofs.Command.Reread
import TemplateTree.Proofs.Chain.Narrowing
import TemplateTree.Proofs.Chain.Unboxing
import TemplateTree.Proofs.Expr.Array
import TemplateTree.Proofs.Expr.Operator
import TemplateTree.Proofs.Chain.Linked
import TemplateTree.Proofs.Chain.InPlace
import TemplateTree.Proofs.Chain.Legal
import TemplateTree.Proofs.Number.Arithmetic
import TemplateTree.Proofs.Folding.Lists
import TemplateTree.Proofs.Visit
import TemplateTree.Proofs.Chain.InPlace
