import QuizPreflight.Quiz.ChoiceLine
import QuizPreflight.Quiz.Header
import QuizPreflight.Quiz.Line
import QuizPreflight.Quiz.Metadata

/-!
# Quiz documents

The lines below the front matter are read in order. A section heading closes the question above
it, a question header opens the next one, and every other active line is a choice, an arrow
answer or a line of the stem.
-/
namespace QuizPreflight.Quiz

open QuizPreflight.Text

/-- A question whose lines are still being read. -/
structure Draft where
  id : List Char
  header : List Char
  points : Float
  sourceLine : Nat
  type : QuestionType
  sectionTitle : Option (List Char)
  body : List (List Char)
  choices : List Choice
  arrow : Option Arrow

def Draft.stem (d : Draft) : List Char := strip (joinLines (d.header :: d.body))

/-- The choices of an arrow answer. -/
def Arrow.choices (a : Arrow) : List Choice := [⟨"True", a == .true⟩, ⟨"False", a == .false⟩]

def Draft.finish (d : Draft) : Question where
  id := String.ofList d.id
  stem := String.ofList d.stem
  type := if d.arrow.isSome then .trueFalse else d.type
  points := d.points
  sourceLine := d.sourceLine
  choices :=
    match d.choices, d.arrow with
    | [], some a => a.choices
    | choices, _ => choices
  sectionTitle := d.sectionTitle.map String.ofList

/-- What has been read of a document. -/
structure Progress where
  title : String
  titleSeen : Bool
  type : QuestionType
  sectionTitle : Option (List Char)
  questions : List Question
  sections : List Section
  pending : Option Draft

def Progress.start (title : String) : Progress :=
  ⟨title, false, .multipleChoice, none, [], [], none⟩

/-- The questions with the pending one closed. -/
def Progress.closed (p : Progress) : List Question :=
  match p.pending with
  | some d => p.questions ++ [d.finish]
  | none => p.questions

def Progress.close (p : Progress) : Progress := { p with questions := p.closed, pending := none }

def Progress.addBody (p : Progress) (line : List Char) : Progress :=
  { p with pending := p.pending.map fun d => { d with body := d.body ++ [line] } }

/-- A heading without prefix and keyword is the title of the quiz the first time. -/
def Progress.readHeading (p : Progress) (lineNumber : Nat) (heading : List Char) : Progress :=
  let p := p.close
  let prefixed := startsWith sectionPrefix heading
  let name := strip (skip sectionPrefix heading)
  let type := headingType? name
  if !prefixed && type.isNone && !p.titleSeen then
    { p with titleSeen := true, title := if p.title.isEmpty then String.ofList name else p.title }
  else
    let type := type.getD .multipleChoice
    { p with
      type := type
      sectionTitle := some name
      sections := p.sections ++ [⟨String.ofList name, type, lineNumber⟩] }

def generatedId (n : Nat) : List Char := 'q' :: (toString n).toList

def Progress.readQuestion (p : Progress) (default : Float) (lineNumber : Nat)
    (header : List Char) : Progress :=
  let p := p.close
  let h := readHeader header
  let draft : Draft :=
    { id := h.id.getD (generatedId (p.questions.length + 1))
      header := h.text
      points := h.points.getD default
      sourceLine := lineNumber
      type := p.type
      sectionTitle := p.sectionTitle
      body := []
      choices := []
      arrow := h.arrow }
  { p with pending := some draft }

def Draft.readLine (d : Draft) (line : List Char) : Draft :=
  match readChoice? line with
  | some c => { d with choices := d.choices ++ [c] }
  | none =>
    match splitArrow line with
    | some (before, a) =>
      let before := strip before
      { d with
        arrow := some a
        body := if before.isEmpty then d.body else d.body ++ [before] }
    | none => { d with body := d.body ++ [strip line] }

def Progress.readActive (p : Progress) (default : Float) (lineNumber : Nat)
    (line : List Char) : Progress :=
  match heading? line with
  | some heading => p.readHeading lineNumber heading
  | none =>
    match questionHeader? line with
    | some header => p.readQuestion default lineNumber header
    | none =>
      if allBlank line then p else { p with pending := p.pending.map (·.readLine line) }

def Progress.read (p : Progress) (default : Float) (lineNumber : Nat)
    (line : Role × List Char) : Progress :=
  match line.1 with
  | .hidden => p
  | .verbatim => p.addBody line.2
  | .active => p.readActive default lineNumber line.2

/-- Reads lines of which the first has the given number. -/
def Progress.readAll (default : Float) : Nat → Progress → List (Role × List Char) → Progress
  | _, p, [] => p
  | n, p, line :: lines => Progress.readAll default (n + 1) (p.read default n line) lines

/-- The quiz of a body whose first line has the given number. -/
def readBody (metadata : Metadata) (default : Float) (first : Nat) (body : List Char) : Quiz :=
  let lines := assignRoles Place.start (splitLines body)
  let p := Progress.readAll default first (Progress.start (titleOf metadata)) lines
  ⟨p.title, p.closed, p.sections, metadata⟩

/-- Reads a quiz. It fails only where something in the front matter has no value. -/
def parse (loader : Yaml.Loader) (content : String) : Except Fault Quiz := do
  let c := cut content.toList
  let metadata ← readMetadata loader c.inner
  let default ← pointsOf metadata
  return readBody metadata default (c.offset + 1) c.body

end QuizPreflight.Quiz
