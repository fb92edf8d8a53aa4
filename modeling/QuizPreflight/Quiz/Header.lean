import QuizPreflight.Text.Match
import QuizPreflight.Decimal.Literal
import QuizPreflight.Quiz.Basic

/-!
# Headings and question headers

A section heading starts with one hash sign and a question header with two. A header may carry
the id of its question, a points tag in square brackets and an arrow answer at its end.
-/
namespace QuizPreflight.Quiz

open QuizPreflight.Text

/-- The text of a section heading; a heading of blanks alone keeps its last one. -/
def heading? (line : List Char) : Option (List Char) :=
  match line with
  | '#' :: c :: rest =>
    if isBlank c then
      match dropBlanks rest with
      | [] => rest.getLast?.map ([·])
      | text => some (dropBlanksEnd text)
    else none
  | _ => none

/-- The text of a question header, which may be empty. -/
def questionHeader? (line : List Char) : Option (List Char) :=
  match line with
  | '#' :: '#' :: c :: rest => if isBlank c then some (strip rest) else none
  | _ => none

def sectionPrefix : Matcher := fun s => do
  let s ← word "section".toList s
  let s ← literal [':'] (dropBlanks s)
  some (dropBlanks s)

def isJoiner (c : Char) : Bool := isBlank c || c == '_' || c == '-'

/-- Two words with a joiner between them. -/
def joined (first second : String) : Matcher := fun s => do
  let s ← word first.toList s
  let s ← many isJoiner s
  word second.toList s

def trueOrFalse : Matcher := fun s => do
  let s := dropBlanks (← word "true".toList s)
  let s ← literal ['/'] s <|> literal ['-'] s <|> word "or".toList s
  word "false".toList (dropBlanks s)

/-- The first type whose keyword occurs in a heading; several answers win over one. -/
def headingType? (name : List Char) : Option QuestionType :=
  if occurs (joined "multiple" "answer") name then some .multipleAnswers
  else if occurs trueOrFalse name then some .trueFalse
  else if occurs (joined "multiple" "choice") name then some .multipleChoice
  else if occurs (word "essay".toList) name || occurs (joined "short" "answer") name ||
      occurs (word "numeric".toList) name || occurs (joined "fill" "in") name then some .other
  else none

def isIdChar (c : Char) : Bool := c.isAlphanum || c == '_' || c == '-'

/-- The id in front of a header, with the text after it. -/
def leadingId? (header : List Char) : Option (List Char × List Char) :=
  let id := header.takeWhile isIdChar
  match id, header.dropWhile isIdChar with
  | [], _ => none
  | _, c :: rest =>
    if c == '.' || c == ')' then
      match rest with
      | [] => some (id, [])
      | b :: rest => if isBlank b then some (id, dropBlanks rest) else none
    else none
  | _, [] => none

/-- A number of points: digits with an optional fraction. -/
def pointsNumber (s : List Char) : Option (List Char × List Char) :=
  let whole := s.takeWhile isDigit
  let rest := s.dropWhile isDigit
  if whole.isEmpty then none else
  match rest with
  | '.' :: d :: more =>
    if isDigit d then
      some (whole ++ '.' :: (d :: more).takeWhile isDigit, (d :: more).dropWhile isDigit)
    else some (whole, rest)
  | _ => some (whole, rest)

/-- The word for points: short or long, with or without a plural. -/
def pointsWord : Matcher := fun s => do
  let s ← word "pt".toList s <|> word "point".toList s
  some (skip (word ['s']) s)

/-- A points tag with the blanks before it; its brackets may be escaped. -/
def pointsTag (s : List Char) : Option (List Char × List Char) := do
  let s ← literal ['['] (skip (literal ['\\']) (dropBlanks s))
  let (number, s) ← pointsNumber (dropBlanks s)
  let s ← pointsWord (dropBlanks s)
  let s ← literal [']'] (skip (literal ['\\']) (dropBlanks s))
  some (number, s)

/-- The answer an arrow names. Written with a long s it is an arrow that names neither. -/
inductive Arrow where
  | true
  | false
  | neither
  deriving DecidableEq, Repr

def arrowWord (s : List Char) : Option (Arrow × List Char) :=
  match word "true".toList s with
  | some rest => some (.true, rest)
  | none => (word "false".toList s).map fun rest =>
      (if lower (s.take 5) = "false".toList then .false else .neither, rest)

/-- An arrow answer that ends the text. -/
def arrowEnd? (s : List Char) : Option Arrow := do
  let s := dropBlanks s
  let s ← literal ['-', '>'] s <|> literal ['→'] s
  let (answer, s) ← arrowWord (dropBlanks s)
  if allBlank s then some answer else none

/-- The text before a final arrow answer, with the answer. -/
def splitArrow (s : List Char) : Option (List Char × Arrow) := do
  let (before, rest) ← splitAtMatch (fun s => (arrowEnd? s).map fun _ => []) s
  some (before, ← arrowEnd? rest)

/-- What a question header says. -/
structure Header where
  id : Option (List Char)
  points : Option Float
  arrow : Option Arrow
  text : List Char

def readHeader (header : List Char) : Header :=
  let (id, text) := match leadingId? header with
    | some (id, rest) => (some id, rest)
    | none => (none, header)
  let (points, text) :=
    match splitAtMatch (fun s => (pointsTag s).map Prod.snd) text with
    | some (before, rest) =>
      match pointsTag rest with
      | some (number, after) => (Decimal.readFloat? number, before ++ after)
      | none => (none, text)
    | none => (none, text)
  let (arrow, text) := match splitArrow text with
    | some (before, answer) => (some answer, before)
    | none => (none, text)
  ⟨id, points, arrow, strip text⟩

end QuizPreflight.Quiz
