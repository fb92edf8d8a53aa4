import QuizPreflight.Text.Match

/-!
# Front matter

A document may begin with front matter between two delimiter lines of three dashes. Blank lines
after a delimiter belong to it; the opening one takes as many as it can while a closing
delimiter still follows.
-/
namespace QuizPreflight.Quiz

open QuizPreflight.Text

def dashes : List Char := ['-', '-', '-']

/-- What follows the last newline of a run of blanks, if the run has one. -/
def afterBlankLines? (s : List Char) : Option (List Char) :=
  match s with
  | [] => none
  | c :: rest =>
    if isBlank c then
      match afterBlankLines? rest with
      | some after => some after
      | none => if c = '\n' then some rest else none
    else none

/-- A closing delimiter on a line of its own, from the newline before it on. -/
def closing? (s : List Char) : Option (List Char) :=
  (literal ('\n' :: dashes) s).bind afterBlankLines?

/-- The text before the first closing delimiter, with the text after it. -/
def untilClosing? : List Char → Option (List Char × List Char)
  | [] => none
  | c :: s =>
    match closing? (c :: s) with
    | some after => some ([], after)
    | none => (untilClosing? s).map fun (inner, after) => (c :: inner, after)

/-- The inner text and the body, the opening delimiter taking as many blank lines as it can. -/
def openThenClose? : List Char → Option (List Char × List Char)
  | [] => none
  | c :: s =>
    if isBlank c then
      match openThenClose? s with
      | some found => some found
      | none => if c = '\n' then untilClosing? s else none
    else none

/-- A document cut at its front matter. -/
structure Cut where
  /-- The text between the delimiters, if there are delimiters. -/
  inner : Option (List Char)
  body : List Char
  /-- Lines before the body. -/
  offset : Nat
  deriving DecidableEq, Repr

def cut (content : List Char) : Cut :=
  match (literal dashes content).bind openThenClose? with
  | some (inner, body) =>
    ⟨some inner, body, (content.take (content.length - body.length)).count '\n'⟩
  | none => ⟨none, content, 0⟩

end QuizPreflight.Quiz
