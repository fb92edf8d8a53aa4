import QuizPreflight.Text.Character
import QuizPreflight.Decimal.Rounding

/-!
# Numbers read from text

Surrounding blanks are ignored, digits may come from any script and a single underscore may
stand between two digits. Whole numbers of more than `maxDigits` digits are refused.
-/
namespace QuizPreflight.Decimal

open QuizPreflight.Text

def maxDigits : Nat := 4300

/-- Blanks around a number: the information separators do not count. -/
def isNumberBlank (c : Char) : Bool := isBlank c && !(0x1c ≤ c.toNat && c.toNat ≤ 0x1f)

def stripNumber (s : List Char) : List Char :=
  ((s.dropWhile isNumberBlank).reverse.dropWhile isNumberBlank).reverse

/-- Digits of other scripts in ASCII; every other character as it is. -/
def plainDigits (s : List Char) : List Char := s.map fun c => (asciiDigit? c).getD c

/-- Removes the underscores, each of which has to stand between two digits. -/
def dropUnderscores? : Bool → List Char → Option (List Char)
  | _, [] => some []
  | afterDigit, '_' :: rest =>
    if afterDigit && rest.head?.any Char.isDigit then dropUnderscores? false rest else none
  | _, c :: rest => (dropUnderscores? c.isDigit rest).map (c :: ·)

def sign (s : List Char) : Bool × List Char :=
  match s with
  | '-' :: rest => (true, rest)
  | '+' :: rest => (false, rest)
  | _ => (false, s)

def digitsValue (ds : List Char) : Nat :=
  ds.foldl (fun n c => 10 * n + (c.toNat - '0'.toNat)) 0

inductive IntFault where
  | malformed
  | tooLong (digits : Nat)
  deriving DecidableEq, Repr

/-- A whole number in decimal. -/
def readInt (s : List Char) : Except IntFault Int :=
  let (negative, body) := sign (stripNumber (plainDigits s))
  match dropUnderscores? false body with
  | none => .error .malformed
  | some ds =>
    if ds.isEmpty || !ds.all Char.isDigit then .error .malformed
    else if maxDigits < ds.length then .error (.tooLong ds.length)
    else
      let n : Int := digitsValue ds
      .ok (if negative then -n else n)

/-- The exponent of a literal, once its mark is read. -/
def readExponent? (s : List Char) : Option Int :=
  let (negative, ds) := sign s
  if ds.isEmpty || !ds.all Char.isDigit then none
  else
    let n : Int := digitsValue ds
    some (if negative then -n else n)

/-- Digits with an optional fraction and an optional exponent; at least one digit. -/
def readUnsigned? (s : List Char) : Option Float :=
  let whole := s.takeWhile Char.isDigit
  let rest := s.dropWhile Char.isDigit
  let (fraction, rest) := match rest with
    | '.' :: rest => (rest.takeWhile Char.isDigit, rest.dropWhile Char.isDigit)
    | _ => ([], rest)
  let digits := whole ++ fraction
  if digits.isEmpty then none else
  let value (e : Int) : Float := ofDecimal (digitsValue digits) (e - (fraction.length : Int))
  match rest with
  | [] => some (value 0)
  | mark :: rest =>
    if mark == 'e' || mark == 'E' then (readExponent? rest).map value else none

def readFloat? (s : List Char) : Option Float :=
  let (negative, body) := sign (stripNumber (plainDigits s))
  let magnitude : Option Float :=
    let name := body.map Char.toLower
    if name = "inf".toList || name = "infinity".toList then some (Float.ofBits infinityBits)
    else if name = "nan".toList then some (0.0 / 0.0)
    else (dropUnderscores? false body).bind readUnsigned?
  magnitude.map fun x => if negative then -x else x

end QuizPreflight.Decimal
