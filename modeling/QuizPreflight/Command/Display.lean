import QuizPreflight.Console.Renderer
import QuizPreflight.Lint.Diagnostic
import QuizPreflight.Package.Report
import QuizPreflight.Text.Json

/-!
# How reports are shown

Every report can be shown as JSON or, for readers, as a table with a summary. What comes from
outside is escaped before it is drawn.
-/
namespace QuizPreflight.Command

open QuizPreflight.Console

def diagnosticJson (d : Diagnostic) : Json :=
  .object
    ([("rule", .text d.rule), ("severity", .text d.severity.name), ("message", .text d.message)] ++
      (d.line.map fun n => ("line", .number n)).toList ++
      (d.context.map fun s => ("context", .text s)).toList)

def lintReportJson (r : LintReport) : Json :=
  .object
    [("source_path", .text r.sourcePath), ("total_issues", .number r.totalIssues),
     ("warnings", .number r.warnings), ("errors", .number r.errors),
     ("diagnostics", .list (r.diagnostics.map diagnosticJson))]

def packageReportJson (r : Package.Report) : Json :=
  .object
    [("is_valid", .bool r.isValid), ("errors", .list (r.errors.map .text)),
     ("warnings", .list (r.warnings.map .text)),
     ("details", .object
       [("manifest_found", .bool r.details.manifestFound),
        ("resource_count", .number r.details.resourceCount),
        ("item_count", .number r.details.itemCount),
        ("test_found", .bool r.details.testFound)])]

def truth (b : Bool) : String := if b then "True" else "False"

/-- What is told of an error. -/
def complaintBlock (message : String) : Block :=
  .tagged (styled .red "Error:" ++ " " ++ message)

def summary (errors warnings : Nat) : Block := .tagged s!"{errors} errors, {warnings} warnings"

def severityStyle : Severity → TextStyle
  | .error => .red
  | .warning => .yellow

def severityCell (s : Severity) : String := styled (severityStyle s) s.name

section Reports

variable (escape : String → String)

/-- A message, and below it the place that it is about. -/
def messageCell (d : Diagnostic) : String :=
  match d.context with
  | none | some "" => escape d.message
  | some context => escape d.message ++ "\n" ++ styled .dim (escape context)

def diagnosticRow (d : Diagnostic) : List String :=
  [(d.line.map toString).getD "-", severityCell d.severity, d.rule, messageCell escape d]

def lintReportBlocks (r : LintReport) : List Block :=
  if r.diagnostics.isEmpty then
    [.tagged (styled .green "✓" ++ s!" {escape r.sourcePath}: no issues")]
  else
    [.table
      { title := some (escape r.sourcePath)
        columns := [⟨"Line", .right⟩, ⟨"Severity", .left⟩, ⟨"Rule", .left⟩, ⟨"Message", .left⟩]
        rows := r.diagnostics.map (diagnosticRow escape) },
     summary r.errors r.warnings]

def verdict (r : Package.Report) : String :=
  if r.isValid then styled .green "VALID" else styled .red "INVALID"

def detailsLine (d : Package.Details) : String :=
  s!"  manifest: {truth d.manifestFound}  resources: {d.resourceCount}  " ++
    s!"items: {d.itemCount}  test: {truth d.testFound}"

def messageRows (s : Severity) (messages : List String) : List (List String) :=
  messages.map fun m => [severityCell s, escape m]

def packageReportBlocks (path : String) (r : Package.Report) : List Block :=
  [.tagged s!"{escape path}: {verdict r}", .tagged (detailsLine r.details)] ++
  (if r.errors.isEmpty && r.warnings.isEmpty then []
  else
    [.table
      { title := none
        columns := [⟨"Severity", .left⟩, ⟨"Message", .left⟩]
        rows := messageRows escape .error r.errors ++ messageRows escape .warning r.warnings }]) ++
  [summary r.errors.length r.warnings.length]

def rulesBlocks (rules : List (String × String)) : List Block :=
  [.table
    { title := some "Lint rules"
      columns := [⟨"Rule", .left⟩, ⟨"Description", .left⟩]
      rows := rules.map fun (name, description) => [name, escape description] }]

end Reports

end QuizPreflight.Command
