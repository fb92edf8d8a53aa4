import QuizPreflight.Text.Quoted

/-!
# Characters from bytes

A character takes one to four bytes, in its shortest form. A malformed sequence is reported
with the bytes that could still have begun a character; reading leniently puts one substitute
in the place of each such sequence.

In percent-encoded text, a percent sign with two hexadecimal digits stands for a byte. The bytes
of a run of ASCII characters are decoded together; a percent sign without its digits stands for
itself.
-/
namespace QuizPreflight.Text.Utf8

inductive Reason where
  | start
  | continuation
  | ending
  deriving DecidableEq, Repr

def Reason.text : Reason → String
  | .start => "invalid start byte"
  | .continuation => "invalid continuation byte"
  | .ending => "unexpected end of data"

/-- The first malformed sequence of a text: its first byte and its place. -/
structure Fault where
  reason : Reason
  byte : UInt8
  position : Nat
  length : Nat
  deriving DecidableEq, Repr

def Fault.message (f : Fault) : String :=
  let place :=
    if f.length = 1 then
      s!"byte 0x{String.ofList (hexDigits 2 f.byte.toNat)} in position {f.position}"
    else s!"bytes in position {f.position}-{f.position + f.length - 1}"
  s!"'utf-8' codec can't decode {place}: {f.reason.text}"

/-- What stands at the front of a byte string. -/
inductive Front where
  | char (c : Char) (rest : List UInt8)
  | bad (reason : Reason) (length : Nat) (rest : List UInt8)

def isContinuation (b : UInt8) : Bool := 0x80 ≤ b && b < 0xc0

def low (b : UInt8) : Nat := b.toNat % 64

def charOf (n : Nat) : Char := Char.ofNat n

/-- The second byte of a sequence excludes longer forms and codes that are no characters. -/
def isSecond (lead second : UInt8) : Bool :=
  isContinuation second &&
    !(lead == 0xe0 && second < 0xa0) && !(lead == 0xed && 0xa0 ≤ second) &&
    !(lead == 0xf0 && second < 0x90) && !(lead == 0xf4 && 0x90 ≤ second)

def front (a : UInt8) (rest : List UInt8) : Front :=
  if a < 0x80 then .char (charOf a.toNat) rest
  else if a < 0xc2 || 0xf4 < a then .bad .start 1 rest
  else match rest with
    | [] => .bad .ending 1 []
    | b :: rest₂ =>
      if !isSecond a b then .bad .continuation 1 rest
      else if a < 0xe0 then .char (charOf ((a.toNat - 0xc0) * 64 + low b)) rest₂
      else match rest₂ with
        | [] => .bad .ending 2 []
        | c :: rest₃ =>
          if !isContinuation c then .bad .continuation 2 rest₂
          else if a < 0xf0 then
            .char (charOf (((a.toNat - 0xe0) * 64 + low b) * 64 + low c)) rest₃
          else match rest₃ with
            | [] => .bad .ending 3 []
            | d :: rest₄ =>
              if !isContinuation d then .bad .continuation 3 rest₃
              else .char (charOf ((((a.toNat - 0xf0) * 64 + low b) * 64 + low c) * 64 + low d))
                rest₄

theorem front_length (a : UInt8) (rest : List UInt8) :
    match front a rest with
    | .char _ r => r.length ≤ rest.length
    | .bad _ _ r => r.length ≤ rest.length := by
  fun_cases front a rest <;> simp_all <;> omega

/-- The characters of a byte string whose first byte has the given place. -/
def decodeFrom (position : Nat) (bytes : List UInt8) : Except Fault (List Char) :=
  match bytes with
  | [] => .ok []
  | a :: rest =>
    match h : front a rest with
    | .char c rest' =>
      have hlen : rest'.length ≤ rest.length := by simpa [h] using front_length a rest
      (decodeFrom (position + (rest.length + 1 - rest'.length)) rest').map (c :: ·)
    | .bad reason length _ => .error ⟨reason, a, position, length⟩
termination_by bytes.length
decreasing_by
  all_goals
    rw [List.length_cons]
    omega

def decode (bytes : List UInt8) : Except Fault (List Char) := decodeFrom 0 bytes

/-- A substitute stands for each malformed sequence. -/
def decodeLenient (bytes : List UInt8) : List Char :=
  match bytes with
  | [] => []
  | a :: rest =>
    match h : front a rest with
    | .char c rest' =>
      have hlen : rest'.length ≤ rest.length := by simpa [h] using front_length a rest
      c :: decodeLenient rest'
    | .bad _ _ rest' =>
      have hlen : rest'.length ≤ rest.length := by simpa [h] using front_length a rest
      '\ufffd' :: decodeLenient rest'
termination_by bytes.length
decreasing_by
  all_goals
    rw [List.length_cons]
    omega

def encodeChar (c : Char) : List UInt8 :=
  let n := c.toNat
  if n < 0x80 then [UInt8.ofNat n]
  else if n < 0x800 then [UInt8.ofNat (0xc0 + n / 64), UInt8.ofNat (0x80 + n % 64)]
  else if n < 0x10000 then
    [UInt8.ofNat (0xe0 + n / 4096), UInt8.ofNat (0x80 + n / 64 % 64), UInt8.ofNat (0x80 + n % 64)]
  else
    [UInt8.ofNat (0xf0 + n / 262144), UInt8.ofNat (0x80 + n / 4096 % 64),
      UInt8.ofNat (0x80 + n / 64 % 64), UInt8.ofNat (0x80 + n % 64)]

def encode (s : List Char) : List UInt8 := s.flatMap encodeChar

end QuizPreflight.Text.Utf8

namespace QuizPreflight.Text

/-! ### Percent-encoded text -/

def hexDigitValue? (c : Char) : Option Nat :=
  if '0' ≤ c && c ≤ '9' then some (c.toNat - '0'.toNat)
  else if 'a' ≤ c && c ≤ 'f' then some (c.toNat - 'a'.toNat + 10)
  else if 'A' ≤ c && c ≤ 'F' then some (c.toNat - 'A'.toNat + 10)
  else none

/-- Decodes a text; the bytes of the run under way are kept, latest first. -/
def percentDecodeFrom (run : List UInt8) (s : List Char) : List Char :=
  match s with
  | [] => Utf8.decodeLenient run.reverse
  | '%' :: a :: b :: rest =>
    match hexDigitValue? a, hexDigitValue? b with
    | some x, some y => percentDecodeFrom (UInt8.ofNat (x * 16 + y) :: run) rest
    | _, _ => percentDecodeFrom (0x25 :: run) (a :: b :: rest)
  | c :: rest =>
    if c.toNat < 128 then percentDecodeFrom (UInt8.ofNat c.toNat :: run) rest
    else Utf8.decodeLenient run.reverse ++ c :: percentDecodeFrom [] rest
termination_by s.length
decreasing_by all_goals (simp only [List.length_cons]; omega)

def percentDecode (s : List Char) : List Char := percentDecodeFrom [] s

end QuizPreflight.Text
