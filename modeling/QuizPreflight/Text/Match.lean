import QuizPreflight.Text.Character

/-!
# Matching at the front of a text

A matcher reads a piece at the front of a text and returns what follows it. `occurs` looks for
a match anywhere, `splitAtMatch` finds the first one, and `replaceAll` replaces the matches
from left to right.
-/
namespace QuizPreflight.Text

abbrev Matcher := List Char → Option (List Char)

def literal : List Char → Matcher
  | [], s => some s
  | _ :: _, [] => none
  | p :: ps, c :: s => if p = c then literal ps s else none

/-- As `literal`, without regard to case; the word is written in lower case. -/
def word : List Char → Matcher
  | [], s => some s
  | _ :: _, [] => none
  | p :: ps, c :: s => if sameLetter p c then word ps s else none

/-- One blank at least. -/
def blanks : Matcher
  | [] => none
  | c :: s => if isBlank c then some (dropBlanks s) else none

/-- One character of a class. -/
def one (p : Char → Bool) : Matcher
  | [] => none
  | c :: s => if p c then some s else none

/-- Leaves the text as it is where the piece is missing. -/
def skip (m : Matcher) (s : List Char) : List Char := (m s).getD s

/-- One character of a class at least. -/
def many (p : Char → Bool) : Matcher
  | [] => none
  | c :: s => if p c then some (s.dropWhile p) else none

def startsWith (m : Matcher) (s : List Char) : Bool := (m s).isSome

def occurs (m : Matcher) : List Char → Bool
  | [] => startsWith m []
  | c :: s => startsWith m (c :: s) || occurs m s

/-- The text before the first match, with the text from the match on. -/
def splitAtMatch (m : Matcher) : List Char → Option (List Char × List Char)
  | [] => if startsWith m [] then some ([], []) else none
  | c :: s =>
    if startsWith m (c :: s) then some ([], c :: s)
    else (splitAtMatch m s).map fun (before, rest) => (c :: before, rest)

/-- A match has to take at least one character to be replaced. -/
def replaceAll (m : Matcher) (replacement : List Char) (s : List Char) : List Char :=
  match s with
  | [] => []
  | c :: tail =>
    match m (c :: tail) with
    | none => c :: replaceAll m replacement tail
    | some rest =>
      if rest.length ≤ tail.length then replacement ++ replaceAll m replacement rest
      else c :: replaceAll m replacement tail
termination_by s.length
decreasing_by all_goals (simp only [List.length_cons]; omega)

theorem literal_append (p s : List Char) : literal p (p ++ s) = some s := by
  induction p with
  | nil => rfl
  | cons c p ih => simp [literal, ih]

theorem eq_append_of_literal {p s rest : List Char} (h : literal p s = some rest) :
    s = p ++ rest := by
  induction p generalizing s with
  | nil => simpa [literal] using h
  | cons c p ih =>
    cases s with
    | nil => simp [literal] at h
    | cons d s =>
      by_cases hcd : c = d
      · simp only [literal, hcd, if_true] at h
        simp [hcd, ih h]
      · simp [literal, hcd] at h

theorem append_of_splitAtMatch {m : Matcher} {s before rest : List Char}
    (h : splitAtMatch m s = some (before, rest)) : s = before ++ rest := by
  induction s generalizing before with
  | nil =>
    simp only [splitAtMatch] at h
    split at h <;> simp_all
  | cons c s ih =>
    simp only [splitAtMatch] at h
    split at h
    · simp_all
    · obtain ⟨⟨b, r⟩, hbr, heq⟩ := Option.map_eq_some_iff.1 h
      simp only [Prod.mk.injEq] at heq
      obtain ⟨rfl, rfl⟩ := heq
      simp [ih hbr]

end QuizPreflight.Text
