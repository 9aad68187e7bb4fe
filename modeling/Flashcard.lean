import Flashcard.Unicode.Alphanumeric
import Flashcard.Unicode.Lowercase
import Flashcard.Unicode.Width
import Flashcard.Syntax.Outline
import Flashcard.Syntax.Lint
import Flashcard.Highlight
import Flashcard.Query.Predicate
import Flashcard.Query.Completion
import Flashcard.Template.Kind
import Flashcard.Template.Token
import Flashcard.Template.Content
import Flashcard.Template.Document
import Flashcard.Template.Card
import Flashcard.Json.Basic
import Flashcard.Json.Reader
import Flashcard.Diagnostic.Json
import Flashcard.Query.Json
import Flashcard.Template.Json
import Flashcard.Diagnostic.Report
import Flashcard.CommandLine.Arguments
import Flashcard.CommandLine.Invocation
import Flashcard.CommandLine.Run
import Flashcard.Main
import Flashcard.Proofs.Syntax.Walk
import Flashcard.Proofs.Query.Reading
import Flashcard.Proofs.Query.Leaf
import Flashcard.Proofs.Query.Evaluation
import Flashcard.Proofs.Query.Realization
import Flashcard.Proofs.Query.Meaning
import Flashcard.Proofs.Query.Lexical
import Flashcard.Proofs.Query.Lossless
import Flashcard.Proofs.Query.Placeholder
import Flashcard.Proofs.Template.Linting
import Flashcard.Proofs.Template.ClozeToken
import Flashcard.Proofs.Template.References
import Flashcard.Proofs.Template.Markup
import Flashcard.Proofs.Template.Deletion
import Flashcard.Proofs.Template.HiddenAnswer
import Flashcard.Proofs.Template.Lexical
import Flashcard.Proofs.Template.WellFormed
import Flashcard.Proofs.Template.Leaf
import Flashcard.Proofs.Template.TagEnd
import Flashcard.Proofs.Template.Lossless
import Flashcard.Proofs.Query.Fitting
import Flashcard.Proofs.Query.Grammar
import Flashcard.Proofs.Query.Printing
import Flashcard.Proofs.Query.RoundTrip
import Flashcard.Proofs.Query.Schema
import Flashcard.Proofs.Query.Juxtaposition
import Flashcard.Proofs.Template.Blocks
import Flashcard.Proofs.Template.Fitting
import Flashcard.Proofs.Template.Seam
import Flashcard.Proofs.Template.Printing
import Flashcard.Proofs.Template.RoundTrip
import Flashcard.Proofs.Template.Concatenation
import Flashcard.Proofs.Syntax.NoPanic
import Flashcard.Proofs.Query.NestingLimit
import Flashcard.Proofs.Template.NestingLimit
import Flashcard.Proofs.Template.Complement
import Flashcard.Proofs.Template.Unclosed
import Flashcard.Proofs.Query.StringExtent
import Flashcard.Proofs.Template.Numbering
import Flashcard.Proofs.Template.Scanning
import Flashcard.Proofs.Query.Wildcard
import Flashcard.Proofs.Text.Part
import Flashcard.Proofs.Diagnostic.About
import Flashcard.Proofs.Syntax.NodeRange
import Flashcard.Proofs.Template.TagNodes
import Flashcard.Proofs.Template.Solid
import Flashcard.Proofs.Template.Problem
import Flashcard.Proofs.Template.Located
import Flashcard.Proofs.Template.Anchor
import Flashcard.Proofs.Template.SyntaxErrors
import Flashcard.Proofs.Template.TagOrder
import Flashcard.Proofs.Diagnostic.Range
import Flashcard.Proofs.Highlighting
import Flashcard.Proofs.Query.Accepting
import Flashcard.Proofs.Query.Edges
import Flashcard.Proofs.Template.Verbatim
import Flashcard.Proofs.Outline
import Flashcard.Proofs.CommandLine.Status
import Flashcard.Proofs.CommandLine.Acceptance
