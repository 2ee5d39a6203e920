import TemplateScript.Document.Assembly
import TemplateScript.Document.Attributes
import TemplateScript.Expr.Assembly
import TemplateScript.Main
import TemplateScript.Value.Workspace
import TemplateScript.Proofs.Document.Lossless
import TemplateScript.Proofs.Document.Placement
import TemplateScript.Proofs.Document.Balance
import TemplateScript.Proofs.Expr.Balance
import TemplateScript.Proofs.Document.Border
import TemplateScript.Proofs.Document.Edit
import TemplateScript.Proofs.Evaluation.Run
import TemplateScript.Proofs.Expr.Embedding
import TemplateScript.Proofs.Evaluation.Filling
import TemplateScript.Proofs.Evaluation.Pieces
import TemplateScript.Proofs.Document.Link
import TemplateScript.Proofs.Evaluation.Globals
import TemplateScript.Proofs.Evaluation.Link
import TemplateScript.Proofs.Evaluation.Nesting
import TemplateScript.Proofs.Expr.Reading
import TemplateScript.Proofs.Expr.Writing
import TemplateScript.Proofs.Expr.Follower
import TemplateScript.Proofs.Expr.Phrase
import TemplateScript.Proofs.Expr.Suffix
import TemplateScript.Proofs.Expr.Level
import TemplateScript.Proofs.Expr.RoundTrip
import TemplateScript.Proofs.Document.Replacement
import TemplateScript.Proofs.Evaluation.Turns
import TemplateScript.Proofs.Evaluation.Sites
import TemplateScript.Proofs.Evaluation.Cancellation
import TemplateScript.Proofs.Evaluation.Isolation
import TemplateScript.Proofs.Number.Exact
import TemplateScript.Proofs.Value.Keys
import TemplateScript.Proofs.Value.HostForm
import TemplateScript.Proofs.Value.History
import TemplateScript.Proofs.Evaluation.Augmentation
import TemplateScript.Proofs.Evaluation.Blame
import TemplateScript.Proofs.Evaluation.Mirroring
import TemplateScript.Proofs.Evaluation.Reentry
import TemplateScript.Proofs.Evaluation.Redisplay
import TemplateScript.Proofs.Evaluation.Adjustment
import TemplateScript.Proofs.Evaluation.HostContainers
import TemplateScript.Proofs.Evaluation.Operations
import TemplateScript.Proofs.Evaluation.Tostring
import TemplateScript.Proofs.Library.Quotation
import TemplateScript.Proofs.Document.Extraction
import TemplateScript.Proofs.Document.Cleaning
import TemplateScript.Proofs.Value.Dates
import TemplateScript.Proofs.Expr.Hashing
import TemplateScript.Proofs.ScopeTree
import TemplateScript.Proofs.Value.HostRoundTrip
import TemplateScript.Proofs.Expr.Numeral
import TemplateScript.Proofs.Expr.Located
import TemplateScript.Proofs.Library.Slices
import TemplateScript.Proofs.Library.Concatenation
import TemplateScript.Proofs.Library.Formats
import TemplateScript.Proofs.Number.FloorDivision
import TemplateScript.Proofs.Document.Queries
import TemplateScript.Proofs.Number.Shown
import TemplateScript.Proofs.Number.PowerSign
