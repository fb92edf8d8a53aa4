import QuizPreflight.Markup.Name

/-!
# Scanning markup

A scanner reads one piece of markup at the front of a text. It stops at the first character
that cannot continue the piece, or where the text breaks off in the middle of it.
-/
namespace QuizPreflight.Markup

inductive Stop where
  | invalid (rest : List Char)
  | cut

def dropSpaces (s : List Char) : List Char := s.dropWhile isSpace

theorem length_dropWhile_le {α : Type} (p : α → Bool) (s : List α) :
    (s.dropWhile p).length ≤ s.length := by
  induction s with
  | nil => simp
  | cons c s ih =>
    simp only [List.dropWhile_cons]
    split
    · simp only [List.length_cons]; omega
    · simp

/-- A character is expected next. -/
def expect (c : Char) : List Char → Except Stop (List Char)
  | [] => .error .cut
  | d :: s => if d = c then .ok s else .error (.invalid (d :: s))

/-- A character that begins a name is expected next; it is not consumed. -/
def expectName : List Char → Except Stop Unit
  | [] => .error .cut
  | c :: s => if isNameStart c then .ok () else .error (.invalid (c :: s))

/-- A name without a colon. -/
def scanName (s : List Char) : Except Stop (List Char × List Char) := do
  expectName s
  return (s.takeWhile isNameChar, s.dropWhile isNameChar)

/-- A name with at most one colon, which stands neither first nor last. -/
def scanQualifiedName (s : List Char) : Except Stop (List Char × List Char) := do
  let (first, s) ← scanName s
  match s with
  | ':' :: s =>
    let (second, s) ← scanName s
    match s with
    | ':' :: rest => .error (.invalid (':' :: rest))
    | s => return (first ++ ':' :: second, s)
  | s => return (first, s)

/-- What an ampersand begins: a character by its number, if there is one, or an entity. -/
inductive Reference where
  | character (c : Option Char)
  | entity (name : List Char)

def isHexDigit (c : Char) : Bool :=
  c.isDigit || ('a' ≤ c && c ≤ 'f') || ('A' ≤ c && c ≤ 'F')

def hexValue (c : Char) : Nat :=
  if c.isDigit then c.toNat - '0'.toNat
  else if 'a' ≤ c then c.toNat - 'a'.toNat + 10
  else c.toNat - 'A'.toNat + 10

def digitsIn (base : Nat) (digits : List Char) : Nat :=
  digits.foldl (fun n c => n * base + hexValue c) 0

/-- The character with a number, where it may stand in a document. -/
def numberedChar? (n : Nat) : Option Char :=
  if 0x110000 ≤ n || (0xd800 ≤ n && n < 0xe000) then none
  else if isAllowed (Char.ofNat n) then some (Char.ofNat n)
  else none

/-- Digits up to a semicolon; one digit at least. -/
def scanNumber (isDigit : Char → Bool) (base : Nat) (s : List Char) : Except Stop (Reference × List Char) :=
  match s with
  | [] => .error .cut
  | c :: _ =>
    if isDigit c then do
      let rest ← expect ';' (s.dropWhile isDigit)
      return (.character (numberedChar? (digitsIn base (s.takeWhile isDigit))), rest)
    else .error (.invalid s)

/-- A reference after its ampersand. -/
def scanReference (s : List Char) : Except Stop (Reference × List Char) :=
  match s with
  | '#' :: 'x' :: s => scanNumber isHexDigit 16 s
  | '#' :: s => scanNumber Char.isDigit 10 s
  | s => do
    let (name, s) ← scanName s
    let s ← expect ';' s
    return (.entity name, s)

/-- The end of a comment; two hyphens in a row must be it. -/
def scanComment : List Char → Except Stop (List Char)
  | [] => .error .cut
  | '-' :: [] => .error .cut
  | '-' :: '-' :: [] => .error .cut
  | '-' :: '-' :: '>' :: s => .ok s
  | '-' :: '-' :: c :: s => .error (.invalid (c :: s))
  | c :: s => if isAllowed c then scanComment s else .error (.invalid (c :: s))

/-- The end of a processing instruction. -/
def scanInstructionEnd : List Char → Except Stop (List Char)
  | [] => .error .cut
  | '?' :: [] => .error .cut
  | '?' :: '>' :: s => .ok s
  | c :: s => if isAllowed c then scanInstructionEnd s else .error (.invalid (c :: s))

/-- The name that only the declaration at the very start may have. -/
def reservedTarget : List Char := ['x', 'm', 'l']

inductive Instruction where
  | declaration
  | other
  deriving DecidableEq

/-- What a target makes of an instruction; the reserved name is written in lower case. -/
def instructionOf? (target : List Char) : Option Instruction :=
  if target = reservedTarget then some .declaration
  else if target.map Char.toLower = reservedTarget then none
  else some .other

/-- A processing instruction after its opening. -/
def scanInstruction (s : List Char) : Except Stop (Instruction × List Char) := do
  let (target, s) ← scanName s
  match s with
  | [] => .error .cut
  | c :: rest =>
    if isSpace c then
      match instructionOf? target with
      | none => .error (.invalid s)
      | some i => return (i, ← scanInstructionEnd rest)
    else if c = '?' then
      match instructionOf? target with
      | none => .error (.invalid s)
      | some i => return (i, ← expect '>' rest)
    else .error (.invalid s)

/-- The number of bytes a text takes. -/
def byteLength (s : List Char) : Nat := s.foldl (fun size c => size + c.utf8Size) 0

/-- A fixed word; the text is not looked at before it is long enough. -/
def scanKeyword (keyword s : List Char) : Except Stop (List Char) :=
  if byteLength (s.take keyword.length) < keyword.length then .error .cut
  else keyword.foldlM (fun s c => expect c s) s

theorem length_expect {c : Char} {s rest : List Char} (h : expect c s = .ok rest) :
    rest.length < s.length := by
  cases s with
  | nil => simp [expect] at h
  | cons d s =>
    simp only [expect] at h
    split at h <;> simp_all

theorem length_scanName {s name rest : List Char} (h : scanName s = .ok (name, rest)) :
    rest.length < s.length := by
  cases s with
  | nil => simp [scanName, expectName, bind, Except.bind] at h
  | cons c s =>
    by_cases hc : isNameStart c
    · have hn : isNameChar c := by
        simp only [isNameStart] at hc
        simp only [isNameChar]
        split <;> simp_all [Char.isAlphanum]
        rcases hc with hc | hc <;> simp [hc]
      simp only [scanName, expectName, hc, if_true, bind, Except.bind, pure, Except.pure,
        Except.ok.injEq, Prod.mk.injEq, List.dropWhile_cons, hn] at h
      have := length_dropWhile_le isNameChar s
      rw [← h.2]
      simp only [List.length_cons]
      omega
    · simp [scanName, expectName, hc, bind, Except.bind] at h

end QuizPreflight.Markup
