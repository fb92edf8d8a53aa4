import QuizPreflight.Text.Match
import QuizPreflight.Text.Word
import QuizPreflight.Quiz.Basic

/-!
# Roles of lines

A fence line opens or closes a code block whose lines are kept as they are. A solution block
starts at a line that opens a solution div and ends where the count of its divs returns to
zero; its lines are left out. All other lines are read as quiz text.
-/
namespace QuizPreflight.Quiz

open QuizPreflight.Text

def isFence (line : List Char) : Bool :=
  let s := dropBlanks line
  startsWith (literal "```".toList) s || startsWith (literal "~~~".toList) s

/-- Whether `p` holds somewhere before the first character of class `stop`; it is told the
character before the place. -/
def somewhere (stop : Char → Bool) (p : Option Char → List Char → Bool) :
    Option Char → List Char → Bool
  | before, [] => p before []
  | before, c :: s => p before (c :: s) || (!stop c && somewhere stop p (some c) s)

def isQuote (c : Char) : Bool := c == '"' || c == '\''

/-- The class name of a solution, as a whole word. -/
def solutionWord (before : Option Char) (s : List Char) : Bool :=
  match word "solution".toList s with
  | some rest => atBoundary before s && atBoundary (some 'n') rest
  | none => false

/-- A class attribute whose value names a solution. -/
def solutionClass (s : List Char) : Bool :=
  let value := do
    let s ← word "class".toList s
    let s ← literal ['='] (dropBlanks s)
    match dropBlanks s with
    | q :: s => if isQuote q then some (q, s) else none
    | [] => none
  match value with
  | some (q, s) => somewhere isQuote solutionWord (some q) s
  | none => false

/-- A div tag that opens a solution block. -/
def solutionTag (s : List Char) : Bool :=
  match word "<div".toList s with
  | some rest =>
    atBoundary (some 'v') rest && somewhere (· == '>') (fun _ s => solutionClass s) none rest
  | none => false

def opensSolution (line : List Char) : Bool :=
  occurs (fun s => if solutionTag s then some [] else none) line

/-- The number of places where a test holds. -/
def countAt (p : List Char → Bool) : List Char → Nat
  | [] => 0
  | c :: s => (if p (c :: s) then 1 else 0) + countAt p s

def opensDiv (s : List Char) : Bool :=
  match literal "<div".toList s with
  | some rest => atBoundary (some 'v') rest
  | none => false

def closesDiv (s : List Char) : Bool := startsWith (literal "</div>".toList) s

/-- Divs opened less divs closed on a line. -/
def divBalance (line : List Char) : Int :=
  let line := lower line
  (countAt opensDiv line : Int) - (countAt closesDiv line : Int)

inductive Role where
  /-- Part of a solution block. -/
  | hidden
  /-- A fence or a line of a code block. -/
  | verbatim
  | active
  deriving DecidableEq, Repr

/-- Whether a code block is open, and the divs of a solution block still open. -/
structure Place where
  inFence : Bool
  depth : Int
  deriving DecidableEq, Repr

def Place.start : Place := ⟨false, 0⟩

def Place.step (p : Place) (line : List Char) : Role × Place :=
  if 0 < p.depth then (.hidden, { p with depth := p.depth + divBalance line })
  else if !p.inFence && opensSolution line then (.hidden, { p with depth := divBalance line })
  else if isFence line then (.verbatim, { p with inFence := !p.inFence })
  else if p.inFence then (.verbatim, p)
  else (.active, p)

/-- Each line with its role. -/
def assignRoles : Place → List (List Char) → List (Role × List Char)
  | _, [] => []
  | p, line :: lines => ((p.step line).1, line) :: assignRoles (p.step line).2 lines

theorem assignRoles_length (p : Place) (lines : List (List Char)) :
    (assignRoles p lines).length = lines.length := by
  induction lines generalizing p with
  | nil => rfl
  | cons line lines ih => simp [assignRoles, ih]

end QuizPreflight.Quiz
