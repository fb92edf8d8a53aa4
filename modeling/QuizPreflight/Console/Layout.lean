import QuizPreflight.Console.Renderer
import QuizPreflight.Text.Width

/-!
# Lines of text

A text is laid out in lines of a given width: tabs are expanded, long lines are broken between
words, and lines are filled up on one or both sides. A word that is too long for a line is
folded, or else cut with an ellipsis.
-/
namespace QuizPreflight.Console

open QuizPreflight.Text

inductive Overflow where
  | fold
  | ellipsis
  deriving DecidableEq, Repr

def spaces (n : Nat) : List Char := List.replicate n ' '

def tabSize : Nat := 8

/-- Every tab becomes one space at least, up to the next multiple of the tab size. -/
def expandTabs (position : Nat) : List (List Char) → List Char
  | [] => []
  | [piece] => piece
  | piece :: pieces =>
    let stop := position + width piece + 1
    let filled := (stop + tabSize - 1) / tabSize * tabSize
    piece ++ spaces (filled - stop + 1) ++ expandTabs filled pieces

/-- The words of a text with the blanks after them, and before the first one. -/
def wordsFrom : Nat → List Char → List (List Char)
  | 0, _ => []
  | fuel + 1, s =>
    let lead := s.takeWhile isBlank
    let rest := s.dropWhile isBlank
    let word := rest.takeWhile (!isBlank ·)
    let after := rest.dropWhile (!isBlank ·)
    if word.isEmpty then []
    else (lead ++ word ++ after.takeWhile isBlank) :: wordsFrom fuel (after.dropWhile isBlank)

def wordsOf (s : List Char) : List (List Char) := wordsFrom s.length s

/-- The pieces of a text that fill lines of a width; the first piece is being filled. -/
def chop (limit : Nat) : Nat → List Char → List Char → List (List Char)
  | _, line, [] => [line]
  | used, line, c :: s =>
    if limit < used + charWidth c then line :: chop limit (charWidth c) [c] s
    else chop limit (used + charWidth c) (line ++ [c]) s

/-- Lines finished so far, the latest first, and the one being filled with its width. -/
structure Filling where
  finished : List (List Char)
  line : List Char
  used : Nat

def Filling.isStart (f : Filling) : Bool := f.finished.isEmpty && f.line.isEmpty

/-- Puts a word on the line, or on the next one. -/
def Filling.add (limit : Nat) (overflow : Overflow) (f : Filling) (word : List Char) : Filling :=
  let size := width (dropBlanksEnd word)
  if f.used + size ≤ limit then { f with line := f.line ++ word, used := f.used + width word }
  else if limit < size && overflow = .fold then
    let earlier := if f.isStart then [] else f.line :: f.finished
    match (chop limit 0 [] word).reverse with
    | [] => f
    | last :: pieces => ⟨pieces ++ earlier, last, width last⟩
  else if 0 < f.used && !f.isStart then ⟨f.line :: f.finished, word, width word⟩
  else { f with line := f.line ++ word }

/-- Breaks a line between words. What holds no word stays as it is. -/
def breakLine (limit : Nat) (overflow : Overflow) (s : List Char) : List (List Char) :=
  match wordsOf s with
  | [] => [s]
  | words =>
    let f := words.foldl (Filling.add limit overflow) ⟨[], [], 0⟩
    (f.line :: f.finished).reverse

/-- As much of a text as fits, filled up where half a character would stand. -/
def fit (limit : Nat) : List Char → List Char
  | [] => []
  | c :: s =>
    if charWidth c ≤ limit then c :: fit (limit - charWidth c) s else spaces limit

def truncate (limit : Nat) (overflow : Overflow) (s : List Char) : List Char :=
  if width s ≤ limit then s
  else match overflow with
    | .fold => fit limit s
    | .ellipsis => fit (limit - 1) s ++ ['…']

/-- Drops blanks at the end of a text that has too many characters. -/
def dropExcessBlanks (limit : Nat) (s : List Char) : List Char :=
  let blanks := s.length - (dropBlanksEnd s).length
  s.take (s.length - min blanks (s.length - limit))

def align (limit : Nat) (alignment : Alignment) (overflow : Overflow) (s : List Char) :
    List Char :=
  match alignment with
  | .natural => truncate limit overflow s
  | .left =>
    let s := truncate limit overflow s
    s ++ spaces (limit - width s)
  | .right =>
    let s := truncate limit overflow (dropBlanksEnd s)
    spaces (limit - width s) ++ s
  | .centre =>
    let s := truncate limit overflow (dropBlanksEnd s)
    let s := spaces ((limit - width s) / 2) ++ s
    s ++ spaces (limit - width s)

/-- The lines of a text. -/
def layout (limit : Nat) (alignment : Alignment) (overflow : Overflow) (s : List Char) :
    List (List Char) :=
  (splitLines s).flatMap fun line =>
    (breakLine limit overflow (expandTabs 0 (splitOn '\t' line))).map fun line =>
      align limit alignment overflow (dropExcessBlanks limit line)

def isLineEnd (c : Char) : Bool :=
  c == '\n' || c == '\x1c' || c == '\x1d' || c == '\x1e' || c == '\u0085' || c == '\u2028' ||
  c == '\u2029'

/-- The width of the widest line; separators of every kind end a line. -/
def naturalWidth (s : List Char) : Nat :=
  ((splitOn '\n' (s.map fun c => if isLineEnd c then '\n' else c)).map width).foldl max 0

end QuizPreflight.Console
