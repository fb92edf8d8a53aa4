import QuizPreflight.Host
import QuizPreflight.Lint.Check

/-!
# Tools

The checks as calls of an assistant, which get an answer where a program would stop. A call
breaks down only on a path that cannot be looked up.
-/
namespace QuizPreflight.Tool

/-- What a call is told in the place of a report. -/
inductive Complaint where
  | missing (p : Path)
  | notQuiz (suffix : String)
  | source (f : Lint.SourceFault)

def Complaint.message : Complaint → String
  | .missing p => s!"File not found: {p.toString}"
  | .notQuiz suffix => s!"Expected .md file, got: {suffix}"
  | .source f => f.message

/-- Endings of the names of quiz files, in lower case. -/
def quizSuffixes : List String := [".md", ".markdown"]

def isQuizName (p : Path) : Bool :=
  quizSuffixes.contains (String.ofList (Text.lower p.suffix.toList))

/-- Lints the file at a path, in which a tilde may stand for a home folder. -/
def lintQuiz (host : Host) (settings : Settings) (env : Environment) (fs : FileSystem)
    (path : String) (selection : Lint.Selection) :
    Except PathFault (Except Complaint LintReport) := do
  let p ← env.expandHome (Path.ofString path)
  if !(← host.access.guard p (fs.exists? p)) then return .error (.missing p)
  if !isQuizName p then return .error (.notQuiz p.suffix)
  return (Lint.reportOnFile host.loader host.access fs p selection
    (some settings.contextWidth)).mapError .source

/-- What a text without a file is called. -/
def contentName : String := "<content>"

def lintQuizContent (host : Host) (settings : Settings) (content : String)
    (selection : Lint.Selection) : Except Complaint LintReport :=
  (Lint.reportOn host.loader contentName content selection (some settings.contextWidth)).mapError
    fun f => .source (.frontmatter f)

def validatePackage (host : Host) (settings : Settings) (fs : FileSystem) (path : String)
    (strict : Option Bool) : Package.Report × FileSystem :=
  host.validate settings fs (Path.ofString path) strict

end QuizPreflight.Tool
