import ServerIncludes.Configuration
import ServerIncludes.Evaluator
import ServerIncludes.Proofs.Condition.Depth
import ServerIncludes.Proofs.Document.Nesting
import ServerIncludes.Proofs.Document.Scanning
import ServerIncludes.Proofs.Evaluation.Termination
import ServerIncludes.Proofs.Evaluation.Failures
import ServerIncludes.Proofs.Evaluation.Interruption
import ServerIncludes.Proofs.Template.Writing
import ServerIncludes.Proofs.Condition.Yield
import ServerIncludes.Proofs.Condition.Writing
import ServerIncludes.Proofs.Document.Policy
import ServerIncludes.Proofs.Tag.Writing
import ServerIncludes.Proofs.Document.Attributes
import ServerIncludes.Proofs.Document.Held
import ServerIncludes.Proofs.Document.Writing
import ServerIncludes.Proofs.Document.Accounting
import ServerIncludes.Proofs.Document.Appending
import ServerIncludes.Proofs.Evaluation.Expanding
import ServerIncludes.Proofs.Evaluation.Accesses
import ServerIncludes.Proofs.Evaluation.Effects
import ServerIncludes.Proofs.Evaluation.Likeness
import ServerIncludes.Proofs.Evaluation.IncludedContent
import ServerIncludes.Proofs.Evaluation.UnreadVariables
import ServerIncludes.Proofs.Evaluation.Rearrangement
import ServerIncludes.Proofs.Evaluation.Positions
import ServerIncludes.Proofs.Evaluation.ReportedTags
import ServerIncludes.Proofs.Evaluation.Succession
import ServerIncludes.Proofs.Evaluation.TimeFormats
import ServerIncludes.Proofs.Evaluation.QuietDirectives
import ServerIncludes.Proofs.Evaluation.Inclusions
import ServerIncludes.Proofs.Unicode.Digits
import ServerIncludes.Proofs.Pattern.GroupNames
import ServerIncludes.Proofs.Evaluation.Searches
import ServerIncludes.Proofs.Tag.Agreement
import ServerIncludes.Proofs.Document.LastValues
import ServerIncludes.Proofs.Condition.Columns
import ServerIncludes.Proofs.Template.Form
import ServerIncludes.Proofs.Condition.Rewriting
import ServerIncludes.Proofs.Sizes
import ServerIncludes.Proofs.Condition.Descent.Bounds
import ServerIncludes.Proofs.Encodings
import ServerIncludes.Proofs.Template.Splitting
import ServerIncludes.Proofs.Condition.Cursor
