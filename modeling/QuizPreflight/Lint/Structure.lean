import QuizPreflight.Text.Character
import QuizPreflight.Lint.Diagnostic
import QuizPreflight.Quiz.Basic

/-!
# Structure of a quiz

Rules over the questions of a quiz, one question at a time, and over all of them together.
-/
namespace QuizPreflight.Lint

def minChoices : Nat := 2

/-- The number of a question with the beginning of its stem. -/
def questionContext (q : Question) (index : Nat) : String :=
  s!"Question {index} (\"{String.ofList (q.stem.toList.take 30)}...\")"

def finding (q : Question) (index : Nat) (rule : String) (severity : Severity)
    (message : String) : Diagnostic :=
  ⟨rule, severity, message, some q.sourceLine, some (questionContext q index)⟩

def tooFewChoices (q : Question) (index : Nat) : List Diagnostic :=
  if q.type.hasChoices && q.choices.length < minChoices then
    [finding q index "too_few_options" .error
      s!"Question type '{q.type.name}' must have at least {minChoices} options. Found {q.choices.length}."]
  else []

def missingCorrectAnswer (q : Question) (index : Nat) : List Diagnostic :=
  if q.type.hasChoices && q.correctChoices.isEmpty then
    [finding q index "missing_correct_answer" .error
      "No correct answer marked. Use [x] or ✓ to mark the correct option."]
  else []

def ambiguousSingleChoice (q : Question) (index : Nat) : List Diagnostic :=
  if q.type = .multipleChoice && 1 < q.correctChoices.length then
    [finding q index "ambiguous_single_choice" .warning
      ("Multiple correct answers found for 'multiple_choice'. " ++
        "Use 'Multiple Answer' type or ensure only one is correct.")]
  else []

def missingStem (q : Question) (index : Nat) : List Diagnostic :=
  if Text.allBlank q.stem.toList then
    [finding q index "missing_stem" .error "Question is missing a question stem/text."]
  else []

structure QuestionRule where
  name : String
  description : String
  check : Question → Nat → List Diagnostic

def questionRules : List QuestionRule :=
  [⟨"too_few_options", "Flag choice questions with fewer than two options.", tooFewChoices⟩,
   ⟨"missing_correct_answer", "Flag choice questions with no option marked correct.",
     missingCorrectAnswer⟩,
   ⟨"ambiguous_single_choice", "Flag multiple-choice questions with more than one correct option.",
     ambiguousSingleChoice⟩,
   ⟨"missing_stem", "Flag questions whose stem is empty.", missingStem⟩]

def noQuestions (qs : List Question) : List Diagnostic :=
  if qs.isEmpty then
    [⟨"no_questions", .error,
      "No questions found. Ensure headers start with ## and follow the correct format.",
      none, none⟩]
  else []

def countId (id : String) (qs : List Question) : Nat := qs.countP (·.id == id)

/-- One finding for each id borne twice, at the first question that bears it. -/
def duplicatesFrom (all : List Question) :
    List String → Nat → List Question → List Diagnostic
  | _, _, [] => []
  | reported, index, q :: qs =>
    if countId q.id all < 2 || reported.contains q.id then
      duplicatesFrom all reported (index + 1) qs
    else
      finding q index "duplicate_question_ids" .error s!"Duplicate Question ID found: {q.id}" ::
        duplicatesFrom all (q.id :: reported) (index + 1) qs

def duplicateIds (qs : List Question) : List Diagnostic := duplicatesFrom qs [] 1 qs

structure QuizRule where
  name : String
  description : String
  check : List Question → List Diagnostic

def quizRules : List QuizRule :=
  [⟨"duplicate_question_ids", "Flag question ids used more than once.", duplicateIds⟩]

def noQuestionsDescription : String := "Flag documents in which no question header was found."

end QuizPreflight.Lint
