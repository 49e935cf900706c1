import ItemFilter.Main
import ItemFilter.Proofs.Memo
import ItemFilter.Proofs.Pass
import ItemFilter.Proofs.Validation
import ItemFilter.Proofs.Renumbering
import ItemFilter.Proofs.Locality
import ItemFilter.Proofs.Color
import ItemFilter.Proofs.Isolation
import ItemFilter.Proofs.Placement
import ItemFilter.Proofs.Fit
import ItemFilter.Proofs.Failure
import ItemFilter.Proofs.Order
import ItemFilter.Proofs.Traversal
import ItemFilter.Proofs.Selection
import ItemFilter.Proofs.Construction
import ItemFilter.Proofs.Recall
import ItemFilter.Proofs.Rendering
import ItemFilter.Proofs.Nesting
import ItemFilter.Proofs.EmptyBlock
import ItemFilter.Proofs.Outcome
import ItemFilter.Proofs.Insertion
import ItemFilter.Proofs.Comment
import ItemFilter.Proofs.Columns
import ItemFilter.Proofs.Layout
import ItemFilter.Proofs.Bounds
import ItemFilter.Proofs.Declaration
import ItemFilter.Proofs.Merging
import ItemFilter.Proofs.Unknown
import ItemFilter.Proofs.Vocabulary
import ItemFilter.Proofs.Replacement
import ItemFilter.Proofs.EditDistance
import ItemFilter.Proofs.CaptureGroup
import ItemFilter.Proofs.Json.Scalar
import ItemFilter.Proofs.Json.Value
import ItemFilter.Proofs.Json.Document
import ItemFilter.Proofs.Decoding
import ItemFilter.Proofs.Pattern.Language
import ItemFilter.Proofs.Pattern.Wording
import ItemFilter.Proofs.Normalization
import ItemFilter.Proofs.Choices
import ItemFilter.Proofs.Quoting
import ItemFilter.Proofs.Pattern.Search
import ItemFilter.Proofs.Violation
import ItemFilter.Proofs.Pattern.Branches
import ItemFilter.Proofs.Pattern.Lookahead
import ItemFilter.Proofs.Pattern.Move
import ItemFilter.Proofs.Pattern.Joining
import ItemFilter.Proofs.Pattern.Loosening
import ItemFilter.Proofs.Pattern.Blankless
import ItemFilter.Proofs.Pattern.Twin
import ItemFilter.Proofs.Pattern.Steps
import ItemFilter.Proofs.Pattern.Simulation
import ItemFilter.Proofs.Leniency
import ItemFilter.Proofs.Suggestion
import ItemFilter.Proofs.Component
import ItemFilter.Proofs.Pattern.Regular
import ItemFilter.Proofs.Pattern.Spans
import ItemFilter.Proofs.QuotedValue
import ItemFilter.Proofs.Depth
import ItemFilter.Proofs.Numbering
import ItemFilter.Proofs.Surplus
import ItemFilter.Proofs.Pattern.Outline
import ItemFilter.Proofs.Truncation
import ItemFilter.Proofs.GroupCount
import ItemFilter.Proofs.Probing
import ItemFilter.Proofs.Repetition
import ItemFilter.Proofs.Reordering
import ItemFilter.Proofs.Downgrade
import ItemFilter.Proofs.Lines
import ItemFilter.Proofs.Aliases
import ItemFilter.Proofs.Console.Check
import ItemFilter.Proofs.CodeLine
import ItemFilter.Proofs.Pattern.Refusal
import ItemFilter.Proofs.Pattern.Limits
import ItemFilter.Proofs.Rejection
