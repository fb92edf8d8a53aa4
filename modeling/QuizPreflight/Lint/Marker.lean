import QuizPreflight.Text.Match
import QuizPreflight.Lint.Diagnostic

/-!
# Deprecated markers

Rules over single lines for ways of marking a correct choice that are no longer recommended.
They see a line as it was typed.
-/
namespace QuizPreflight.Lint

open QuizPreflight.Text

structure MarkerRule where
  name : String
  «matches» : List Char → Bool
  message : String
  description : String
  severity : Severity

/-- A label of a letter or of one or two digits, with its parenthesis. -/
def label : Matcher := fun s => do
  let s ← one isLatinLetter s <|> (one isDigit s).map (skip (one isDigit))
  literal [')'] s

/-- A bold span that is not empty. -/
def boldSpan : Matcher := fun s => do
  let s ← many (· != '*') (← literal ['*', '*'] s)
  literal ['*', '*'] s

def hasBoldMarker (line : List Char) : Bool :=
  let s := dropBlanks line
  startsWith (fun s => do
    let s ← label (skip (literal ['*']) s) <|> literal ['-'] s
    boldSpan (← blanks s)) s

/-- An asterisk before a label; two asterisks are bold type. -/
def hasPrefixMarker (line : List Char) : Bool :=
  let s := dropBlanks line
  startsWith (fun s => do blanks (← label (← literal ['*'] s))) s &&
    !startsWith (literal ['*', '*']) s

def deprecatedBold : MarkerRule where
  name := "deprecated_bold_marker"
  «matches» := hasBoldMarker
  message := "Deprecated: **bold** marker for correct answers. Use [x] or ✓ instead. " ++
    "Bold conflicts with LaTeX formulas and reveals answers in preview."
  description := "Flag **bold** used to mark the correct option."
  severity := .warning

def deprecatedPrefix : MarkerRule where
  name := "deprecated_prefix_marker"
  «matches» := hasPrefixMarker
  message := "Deprecated: *prefix marker for correct answers. Use [x] or ✓ instead. " ++
    "Asterisk prefix conflicts with Markdown lists."
  description := "Flag an asterisk prefix before the option label."
  severity := .warning

def markerRules : List MarkerRule := [deprecatedBold, deprecatedPrefix]

/-- How much of a line is quoted: all of it, a number of characters, or all but that many. -/
abbrev Width := Option Int

def defaultWidth : Width := some 50

/-- A negative width counts from the end. -/
def cutTo (width : Width) (s : List Char) : List Char :=
  match width with
  | none => s
  | some n => if 0 ≤ n then s.take n.toNat else s.take (s.length - n.natAbs)

/-- The findings of the rules on one line, in the order of the rules. -/
def scanLine (rules : List MarkerRule) (width : Width) (number : Int) (line : List Char) :
    List Diagnostic :=
  (rules.filter (·.matches line)).map fun r =>
    ⟨r.name, r.severity, r.message, some number, some (String.ofList (cutTo width (strip line)))⟩

/-- The findings on lines of which the first has the given number. -/
def scanLines (rules : List MarkerRule) (width : Width) : Int → List (List Char) → List Diagnostic
  | _, [] => []
  | n, line :: lines => scanLine rules width n line ++ scanLines rules width (n + 1) lines

def scanMarkers (content : List Char) (rules : List MarkerRule) (width : Width) (offset : Int) :
    List Diagnostic :=
  scanLines rules width (offset + 1) (splitLines content)

end QuizPreflight.Lint
