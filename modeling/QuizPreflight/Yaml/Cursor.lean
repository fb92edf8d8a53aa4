import QuizPreflight.Yaml.Fault

/-!
# Positions in a document

A cursor is the text still to be read together with the line and column reached. Lines end at a
line feed, a carriage return, a next-line mark or one of the two separators; a byte order mark
takes no column.
-/
namespace QuizPreflight.Yaml

structure Cursor where
  rest : List Char
  index : Nat
  line : Nat
  column : Nat

def Cursor.start (s : List Char) : Cursor := ⟨s, 0, 0, 0⟩

def isBreak (c : Char) : Bool :=
  c == '\n' || c == '\r' || c == '\u0085' || c == '\u2028' || c == '\u2029'

def isSpace (c : Char) : Bool := c == ' '

def isSpaceOrTab (c : Char) : Bool := c == ' ' || c == '\t'

/-- At the end of the text or of a line. -/
def endsLine (s : List Char) : Bool := s.head?.all isBreak

/-- At the end of the text, of a line, or before a space. -/
def endsWord (s : List Char) : Bool := s.head?.all fun c => isBreak c || c == ' '

/-- At the end of the text, of a line, or before a space or tab. -/
def endsToken (s : List Char) : Bool := s.head?.all fun c => isBreak c || isSpaceOrTab c

def Cursor.peek? (c : Cursor) : Option Char := c.rest.head?

def Cursor.step (c : Cursor) : Cursor :=
  match c.rest with
  | [] => c
  | ch :: rest =>
    if isBreak ch && !(ch == '\r' && rest.head? == some '\n') then
      ⟨rest, c.index + 1, c.line + 1, 0⟩
    else if ch == '\ufeff' then ⟨rest, c.index + 1, c.line, c.column⟩
    else ⟨rest, c.index + 1, c.line, c.column + 1⟩

def Cursor.drop : Nat → Cursor → Cursor
  | 0, c => c
  | n + 1, c => Cursor.drop n c.step

/-- The longest run of a class, with the cursor behind it. -/
def Cursor.span (p : Char → Bool) (c : Cursor) : List Char × Cursor :=
  let run := c.rest.takeWhile p
  (run, c.drop run.length)

def Cursor.skipWhile (p : Char → Bool) (c : Cursor) : Cursor := (c.span p).2

/-- A line break as the text keeps it: a newline, or one of the two separators. -/
def Cursor.lineBreak? (c : Cursor) : Option (Char × Cursor) :=
  match c.rest with
  | '\r' :: '\n' :: _ => some ('\n', c.drop 2)
  | ch :: _ =>
    if ch == '\u2028' || ch == '\u2029' then some (ch, c.step)
    else if isBreak ch then some ('\n', c.step)
    else none
  | [] => none

def Cursor.skipBreak (c : Cursor) : Cursor := (c.lineBreak?.map Prod.snd).getD c

/-- Skips a comment up to the end of its line. -/
def Cursor.skipComment (c : Cursor) : Cursor :=
  if c.peek? == some '#' then c.skipWhile (!isBreak ·) else c

/-- A document marker: three dashes or three dots as a word of their own. -/
def isMarker (s : List Char) : Bool :=
  (s.take 3 == ['-', '-', '-'] || s.take 3 == ['.', '.', '.']) && endsToken (s.drop 3)

/-- What is left of a line after a directive or a block header: blanks and a comment. -/
def Cursor.finishLine (c : Cursor) : Except Fault Cursor :=
  let c := (c.skipWhile isSpace).skipComment
  if endsLine c.rest then .ok c.skipBreak else .error .malformed

end QuizPreflight.Yaml
