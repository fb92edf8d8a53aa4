import QuizPreflight.Text.Match
import QuizPreflight.Quiz.Basic

/-!
# Choice lines

A choice is written behind a label such as `a)` or `12)`, or behind a dash. It is correct when
it carries a marker, stands in bold as a whole or has an asterisk before its label; the text of
the choice keeps none of these.
-/
namespace QuizPreflight.Quiz

open QuizPreflight.Text

def closingParen : Matcher := literal [')']

/-- One or two digits. -/
def shortNumber : Matcher := fun s => (one isDigit s).map (skip (one isDigit))

/-- What stands behind a label, with whether an asterisk stood before it. -/
def labelled? (line : List Char) : Option (Bool × List Char) := do
  let s := dropBlanks line
  let starred := startsWith (literal ['*']) s
  let s := skip (literal ['*']) s
  let s ← one isAsciiLetter s <|> shortNumber s
  some (starred, ← blanks (← closingParen s))

def dashed? (line : List Char) : Option (List Char) :=
  (literal ['-'] (dropBlanks line)).bind blanks

/-- A bracketed marker with the blanks around it. -/
def bracketMarker : Matcher := fun s => do
  let s ← literal ['['] (dropBlanks s)
  let s ← word ['x'] s <|> word "correct".toList s
  some (dropBlanks (← literal [']'] s))

def isCheckMark (c : Char) : Bool := c == '✓' || c == '✔'

/-- A check mark with the blanks around it. -/
def checkMarker : Matcher := fun s => (one isCheckMark (dropBlanks s)).map dropBlanks

def isGap (c : Char) : Bool := c == ' ' || c == '\t'

/-- Two gaps at least. -/
def wideGap : Matcher := fun s => (one isGap s).bind (many isGap)

/-- The text inside a single bold span. -/
def bold? (s : List Char) : Option (List Char) := do
  let s ← literal ['*', '*'] s
  let inner := s.takeWhile (· != '*')
  if inner.isEmpty then none
  else if s.dropWhile (· != '*') = ['*', '*'] then some inner else none

/-- The text without its markers and with single gaps, and whether there was a marker. -/
def dropMarkers (s : List Char) : List Char × Bool :=
  let marked := occurs bracketMarker s
  let s := replaceAll bracketMarker [' '] s
  let marked := marked || occurs checkMarker s
  let s := replaceAll checkMarker [' '] s
  (strip (replaceAll wideGap [' '] s), marked)

/-- The plain text of a choice, and whether a marker or bold type made it correct. -/
def stripMarkers (s : List Char) : List Char × Bool :=
  let (s, marked) := dropMarkers s
  match bold? s with
  | some inner => (strip inner, true)
  | none => (s, marked)

def readChoice? (line : List Char) : Option Choice :=
  let labelled := labelled? line <|> (dashed? line).map fun text => (false, text)
  labelled.map fun (starred, text) =>
    let (text, marked) := stripMarkers text
    ⟨String.ofList text, marked || starred⟩

end QuizPreflight.Quiz
