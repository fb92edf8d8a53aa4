import QuizPreflight.Files.FileSystem
import QuizPreflight.Lint.Marker
import QuizPreflight.Lint.Structure
import QuizPreflight.Quiz.Document

/-!
# Linting

First the lines below the front matter are scanned for deprecated markers, then the questions
are checked one by one and all together. A quiz without questions gets that finding alone after
the scan. Selecting rules leaves the order of the findings as it is. A report names its source:
linting the text of a file finds what linting the file finds.
-/
namespace QuizPreflight.Lint

/-- The rules to run; none named means all. -/
abbrev Selection := Option (List String)

def isSelected (selection : Selection) (name : String) : Bool :=
  match selection with
  | none | some [] => true
  | some names => names.contains name

def questionFindings (selection : Selection) (q : Question) (index : Nat) : List Diagnostic :=
  (questionRules.filter (isSelected selection ·.name)).flatMap (·.check q index)

/-- The findings on questions of which the first has the given index. -/
def eachQuestion (selection : Selection) : Nat → List Question → List Diagnostic
  | _, [] => []
  | index, q :: qs => questionFindings selection q index ++ eachQuestion selection (index + 1) qs

def quizFindings (selection : Selection) (qs : List Question) : List Diagnostic :=
  (quizRules.filter (isSelected selection ·.name)).flatMap (·.check qs)

/-- The findings on the raw lines of a document, front matter left out. -/
def markerFindings (content : String) (selection : Selection) (width : Width) :
    List Diagnostic :=
  let c := Quiz.cut content.toList
  scanMarkers c.body (markerRules.filter (isSelected selection ·.name)) width c.offset

def structureFindings (selection : Selection) (qs : List Question) : List Diagnostic :=
  if qs.isEmpty then noQuestions qs
  else eachQuestion selection 1 qs ++ quizFindings selection qs

/-- Lints a document whose questions are given. -/
def lintQuestions (content : String) (questions : List Question) (selection : Selection)
    (width : Width) : List Diagnostic :=
  markerFindings content selection width ++ structureFindings selection questions

/-- Lints a document that a parser makes a quiz of, unless it fails. -/
def lintWith {ε : Type} (parser : String → Except ε Quiz) (content : String)
    (selection : Selection) (width : Width) : Except ε (List Diagnostic) := do
  return lintQuestions content (← parser content).questions selection width

theorem lintWith_of_ok {ε : Type} {parser : String → Except ε Quiz} {content : String}
    {quiz : Quiz} (h : parser content = .ok quiz) (selection : Selection) (width : Width) :
    lintWith parser content selection width =
      .ok (lintQuestions content quiz.questions selection width) := by
  rw [lintWith, h]
  rfl

/-- What keeps a document from being parsed keeps it from being linted, and nothing else does. -/
theorem lintWith_eq_error_iff {ε : Type} {parser : String → Except ε Quiz} {content : String}
    {selection : Selection} {width : Width} {e : ε} :
    lintWith parser content selection width = .error e ↔ parser content = .error e := by
  unfold lintWith
  cases parser content <;> simp [bind, Except.bind, pure, Except.pure]

/-- Lints a document. -/
def lint (loader : Yaml.Loader) :
    String → Selection → Width → Except Quiz.Fault (List Diagnostic) :=
  lintWith (Quiz.parse loader)

/-- Every rule with a description of one line. -/
def availableRules : List (String × String) :=
  markerRules.map (fun r => (r.name, r.description)) ++
    questionRules.map (fun r => (r.name, r.description)) ++
    quizRules.map (fun r => (r.name, r.description)) ++
    [("no_questions", noQuestionsDescription)]

/-! ### Reports of files and texts -/

/-- Why there is no report on a source. -/
inductive SourceFault where
  | refused (message : String)
  | text (e : TextError)
  | frontmatter (f : Quiz.Fault)

def SourceFault.message : SourceFault → String
  | .refused message => message
  | .text e => e.message
  | .frontmatter f => f.message

/-- The report on a text under the name of its source. -/
def reportOn (loader : Yaml.Loader) (source content : String) (selection : Selection)
    (width : Width) : Except Quiz.Fault LintReport := do
  return (LintReport.start source).addAll (← lint loader content selection width)

def reportOnFile (loader : Yaml.Loader) (access : Access) (fs : FileSystem) (p : Path)
    (selection : Selection) (width : Width) : Except SourceFault LintReport := do
  if let some message := access.read p then throw (.refused message)
  let content ← (fs.readText p).mapError .text
  (reportOn loader p.toString content selection width).mapError .frontmatter

end QuizPreflight.Lint
