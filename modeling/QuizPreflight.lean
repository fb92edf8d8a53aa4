import QuizPreflight.Command.Run
import QuizPreflight.Tool
import QuizPreflight.Proofs.Markup.Writing
import QuizPreflight.Proofs.Package.Recording
import QuizPreflight.Proofs.Package.Relocation
import QuizPreflight.Proofs.Package.Verdict
import QuizPreflight.Proofs.Package.Wording
import QuizPreflight.Proofs.Markup.Nesting
import QuizPreflight.Proofs.Package.Acceptance
import QuizPreflight.Proofs.Package.Inspection
import QuizPreflight.Proofs.Package.Registration
import QuizPreflight.Proofs.Package.Strictness
import QuizPreflight.Proofs.Package.Dispatch
import QuizPreflight.Proofs.Package.Uniqueness
import QuizPreflight.Proofs.Package.Security
import QuizPreflight.Proofs.Package.Resource
import QuizPreflight.Proofs.Package.Completion
import QuizPreflight.Proofs.Package.Coverage
import QuizPreflight.Proofs.Package.Presence
import QuizPreflight.Proofs.Text.Lines
import QuizPreflight.Proofs.Quiz.Cut
import QuizPreflight.Proofs.Text.Matching
import QuizPreflight.Proofs.Quiz.Outline
import QuizPreflight.Proofs.Quiz.Arrow
import QuizPreflight.Proofs.Quiz.Parsing
import QuizPreflight.Proofs.Quiz.Totality
import QuizPreflight.Proofs.Archive.Defect
import QuizPreflight.Proofs.Package.Unzipping
import QuizPreflight.Proofs.Text.Trimming
import QuizPreflight.Proofs.Decimal.Numeral
import QuizPreflight.Proofs.Quiz.Tag
import QuizPreflight.Proofs.Quiz.Marking
import QuizPreflight.Proofs.Quiz.Writing
import QuizPreflight.Proofs.Quiz.RoundTrip
import QuizPreflight.Proofs.Lint.Selection
import QuizPreflight.Proofs.Lint.Verdict
import QuizPreflight.Proofs.Quiz.Boldface
import QuizPreflight.Proofs.Lint.Deprecation
import QuizPreflight.Proofs.Lint.Displacement
import QuizPreflight.Proofs.Quiz.Solution
import QuizPreflight.Proofs.Quiz.Attribution
import QuizPreflight.Proofs.Command.Printing
import QuizPreflight.Proofs.Command.Ending
import QuizPreflight.Proofs.Text.Encoding
import QuizPreflight.Proofs.Text.Newline
import QuizPreflight.Proofs.Text.Trailing
import QuizPreflight.Proofs.Lint.BareMark
import QuizPreflight.Proofs.Quiz.Normalising
import QuizPreflight.Proofs.Lint.Agreement
import QuizPreflight.Proofs.Quiz.PlainChoice
import QuizPreflight.Proofs.Quiz.Delimiter
import QuizPreflight.Proofs.Quiz.CodeBlock
import QuizPreflight.Proofs.Lint.Ordering
import QuizPreflight.Proofs.Lint.Identifier
import QuizPreflight.Proofs.Markup.Naming
import QuizPreflight.Proofs.Package.Comparison
import QuizPreflight.Proofs.Markup.Rereading
import QuizPreflight.Proofs.Package.ImageSource
import QuizPreflight.Proofs.Package.Spelling
import QuizPreflight.Proofs.Package.Walk
import QuizPreflight.Proofs.Decimal.Whole
import QuizPreflight.Proofs.Package.Isolation
import QuizPreflight.Proofs.Package.Shortcoming
import QuizPreflight.Proofs.Lint.Repetition
import QuizPreflight.Proofs.Package.Requests
import QuizPreflight.Proofs.Package.Collection
import QuizPreflight.Proofs.Markup.Expansion
import QuizPreflight.Proofs.Markup.Respelling
