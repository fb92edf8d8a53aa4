/-!
# Diagnostics

A diagnostic is one problem found in a quiz document; a report counts those of one source.
-/
namespace QuizPreflight

inductive Severity where
  | warning
  | error
  deriving DecidableEq, Repr

def Severity.name : Severity → String
  | .warning => "warning"
  | .error => "error"

structure Diagnostic where
  rule : String
  severity : Severity
  message : String
  line : Option Int
  context : Option String
  deriving DecidableEq, Repr

structure LintReport where
  sourcePath : String
  totalIssues : Nat
  warnings : Nat
  errors : Nat
  diagnostics : List Diagnostic
  deriving DecidableEq, Repr

def LintReport.start (sourcePath : String) : LintReport := ⟨sourcePath, 0, 0, 0, []⟩

def LintReport.add (r : LintReport) (d : Diagnostic) : LintReport :=
  { r with
    diagnostics := r.diagnostics ++ [d]
    totalIssues := r.totalIssues + 1
    warnings := r.warnings + (if d.severity = .warning then 1 else 0)
    errors := r.errors + (if d.severity = .error then 1 else 0) }

def LintReport.addAll (r : LintReport) (ds : List Diagnostic) : LintReport := ds.foldl add r

def LintReport.isClean (r : LintReport) : Bool := r.errors == 0

theorem LintReport.addAll_diagnostics (r : LintReport) (ds : List Diagnostic) :
    (r.addAll ds).diagnostics = r.diagnostics ++ ds := by
  induction ds generalizing r with
  | nil => simp [addAll]
  | cons d ds ih => simpa [addAll, add] using ih (r.add d)

end QuizPreflight
