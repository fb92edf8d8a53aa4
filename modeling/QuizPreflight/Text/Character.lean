/-!
# Classes of characters

Blanks are spaces of every script, line and paragraph separators and the information separators.
`trim` removes them from both ends; lines are separated by the newline character alone. Every
script has its ten digits in a row, so a table of the zeros is enough. Without regard to case, a
lower-case ASCII letter also stands for its capital and for the few letters of other scripts that
share its case pair: the dotted and dotless i, the long s and the Kelvin sign.
-/
namespace QuizPreflight.Text

def inRanges (ranges : List (Nat × Nat)) (c : Char) : Bool :=
  ranges.any fun r => r.1 ≤ c.toNat && c.toNat ≤ r.2

def blankRanges : List (Nat × Nat) :=
  [(0x9, 0xd), (0x1c, 0x20), (0x85, 0x85), (0xa0, 0xa0), (0x1680, 0x1680), (0x2000, 0x200a),
   (0x2028, 0x2029), (0x202f, 0x202f), (0x205f, 0x205f), (0x3000, 0x3000)]

def isBlank (c : Char) : Bool := inRanges blankRanges c

def dropBlanks (s : List Char) : List Char := s.dropWhile isBlank

def dropBlanksEnd (s : List Char) : List Char := (s.reverse.dropWhile isBlank).reverse

def strip (s : List Char) : List Char := dropBlanksEnd (dropBlanks s)

def trim (s : String) : String := String.ofList (strip s.toList)

def allBlank (s : List Char) : Bool := s.all isBlank

/-- The pieces between separators; always at least one. -/
def splitOn (sep : Char) : List Char → List (List Char)
  | [] => [[]]
  | c :: rest =>
    if c = sep then [] :: splitOn sep rest
    else match splitOn sep rest with
      | [] => [[c]]
      | piece :: pieces => (c :: piece) :: pieces

def splitLines (s : List Char) : List (List Char) := splitOn '\n' s

def joinWith (sep : List Char) : List (List Char) → List Char
  | [] => []
  | [piece] => piece
  | piece :: pieces => piece ++ sep ++ joinWith sep pieces

def joinLines (lines : List (List Char)) : List Char := joinWith ['\n'] lines

/-- Every line ending, of any convention, becomes one newline. -/
def normaliseNewlines : List Char → List Char
  | [] => []
  | '\r' :: '\n' :: rest => '\n' :: normaliseNewlines rest
  | c :: rest => (if c = '\r' then '\n' else c) :: normaliseNewlines rest

theorem splitOn_ne_nil (sep : Char) (s : List Char) : splitOn sep s ≠ [] := by
  cases s with
  | nil => simp [splitOn]
  | cons c rest =>
    simp only [splitOn]
    split
    · simp
    · split <;> simp

theorem joinWith_splitOn (sep : Char) (s : List Char) :
    joinWith [sep] (splitOn sep s) = s := by
  induction s with
  | nil => rfl
  | cons c rest ih =>
    simp only [splitOn]
    split
    · next h =>
      subst h
      cases hs : splitOn c rest with
      | nil => exact absurd hs (splitOn_ne_nil c rest)
      | cons piece pieces => rw [hs] at ih; simp [joinWith, ih]
    · cases hs : splitOn sep rest with
      | nil => exact absurd hs (splitOn_ne_nil sep rest)
      | cons piece pieces =>
        rw [hs] at ih
        cases pieces with
        | nil => simpa [joinWith] using ih
        | cons p ps => simpa [joinWith] using ih

theorem joinLines_splitLines (s : List Char) : joinLines (splitLines s) = s :=
  joinWith_splitOn '\n' s

/-! ### Digits -/

/-- The zero of each script. -/
def zeros : List Nat :=
  [0x30, 0x660, 0x6f0, 0x7c0, 0x966, 0x9e6, 0xa66, 0xae6, 0xb66, 0xbe6,
   0xc66, 0xce6, 0xd66, 0xde6, 0xe50, 0xed0, 0xf20, 0x1040, 0x1090, 0x17e0,
   0x1810, 0x1946, 0x19d0, 0x1a80, 0x1a90, 0x1b50, 0x1bb0, 0x1c40, 0x1c50, 0xa620,
   0xa8d0, 0xa900, 0xa9d0, 0xa9f0, 0xaa50, 0xabf0, 0xff10, 0x104a0, 0x10d30, 0x11066,
   0x110f0, 0x11136, 0x111d0, 0x112f0, 0x11450, 0x114d0, 0x11650, 0x116c0, 0x11730, 0x118e0,
   0x11950, 0x11c50, 0x11d50, 0x11da0, 0x16a60, 0x16ac0, 0x16b50, 0x1d7ce, 0x1d7d8, 0x1d7e2,
   0x1d7ec, 0x1d7f6, 0x1e140, 0x1e2f0, 0x1e950, 0x1fbf0]

def digitValue? (c : Char) : Option Nat :=
  if c.toNat < 128 then
    if c.isDigit then some (c.toNat - '0'.toNat) else none
  else
    (zeros.find? fun z => z ≤ c.toNat && c.toNat < z + 10).map (c.toNat - ·)

def isDigit (c : Char) : Bool := (digitValue? c).isSome

/-- The digit written in ASCII. -/
def asciiDigit? (c : Char) : Option Char :=
  (digitValue? c).map fun d => Char.ofNat ('0'.toNat + d)

/-! ### Letters -/

/-- `sameLetter p c` holds when `c` may stand where the lower-case pattern letter `p` is written. -/
def sameLetter (p c : Char) : Bool :=
  c.toLower == p ||
  (p == 'i' && (c == '\u0130' || c == '\u0131')) ||
  (p == 's' && c == '\u017f') ||
  (p == 'k' && c == '\u212a')

def isAsciiLetter (c : Char) : Bool := c.isAlpha

/-- An ASCII letter or one of the letters that share a case pair with one. -/
def isLatinLetter (c : Char) : Bool :=
  c.isAlpha || c == '\u0130' || c == '\u0131' || c == '\u017f' || c == '\u212a'

/-- Lower case as far as comparisons with ASCII words can tell: letters of other scripts stay,
except the two whose lower case is or begins with an ASCII letter. -/
def lowerChar (c : Char) : List Char :=
  if c == '\u0130' then ['i', '\u0307']
  else if c == '\u212a' then ['k']
  else [c.toLower]

def lower (s : List Char) : List Char := s.flatMap lowerChar

end QuizPreflight.Text
