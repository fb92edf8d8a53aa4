import QuizPreflight.Yaml.Value

/-!
# Quizzes

A quiz is a list of questions in document order. A question offers choices unless its type is
answered in another way.
-/
namespace QuizPreflight

inductive QuestionType where
  | multipleChoice
  | multipleAnswers
  | trueFalse
  | other
  deriving DecidableEq, Repr

def QuestionType.name : QuestionType → String
  | .multipleChoice => "multiple_choice"
  | .multipleAnswers => "multiple_answers"
  | .trueFalse => "true_false"
  | .other => "other"

/-- Answered by picking from a list. -/
def QuestionType.hasChoices (t : QuestionType) : Bool := t != .other

structure Choice where
  text : String
  isCorrect : Bool
  deriving DecidableEq, Repr

structure Question where
  id : String
  stem : String
  type : QuestionType
  points : Float
  /-- Counted from one over the whole document. -/
  sourceLine : Int
  choices : List Choice
  sectionTitle : Option String

def Question.correctChoices (q : Question) : List Choice := q.choices.filter Choice.isCorrect

structure Section where
  title : String
  type : QuestionType
  sourceLine : Int
  deriving DecidableEq, Repr

structure Quiz where
  title : String
  questions : List Question
  sections : List Section
  metadata : List (Yaml.Value × Yaml.Value)

end QuizPreflight
