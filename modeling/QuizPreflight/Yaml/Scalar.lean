import QuizPreflight.Text.Base64
import QuizPreflight.Text.Character
import QuizPreflight.Decimal.Literal
import QuizPreflight.Yaml.Calendar

/-!
# Scalars

A plain scalar takes its tag from its form; a tagged scalar is read as its tag demands, whatever
its form. Words for truth values include yes, no, on and off, a leading zero makes a number
octal and a colon makes it sexagesimal.
-/
namespace QuizPreflight.Yaml

open QuizPreflight.Text QuizPreflight.Decimal

inductive Tag where
  | null
  | bool
  | int
  | float
  | binary
  | timestamp
  | omap
  | pairs
  | set
  | str
  | seq
  | map
  | merge
  | value
  | unknown
  deriving DecidableEq, Repr

def coreTags : List (String × Tag) :=
  [("null", .null), ("bool", .bool), ("int", .int), ("float", .float), ("binary", .binary),
   ("timestamp", .timestamp), ("omap", .omap), ("pairs", .pairs), ("set", .set), ("str", .str),
   ("seq", .seq), ("map", .map), ("merge", .merge), ("value", .value)]

def corePrefix : String := "tag:yaml.org,2002:"

def Tag.ofName (name : String) : Tag :=
  ((coreTags.find? fun t => corePrefix ++ t.1 == name).map Prod.snd).getD .unknown

/-- Lower case, capitalised or upper case. -/
def inThreeCases (w : String) (s : List Char) : Bool :=
  let w := w.toList
  let capital := match w with
    | [] => []
    | c :: rest => c.toUpper :: rest
  s == w || s == capital || s == w.map Char.toUpper

def boolWords : List (String × Bool) :=
  [("yes", true), ("no", false), ("true", true), ("false", false), ("on", true), ("off", false)]

def isBoolForm (s : List Char) : Bool := boolWords.any fun w => inThreeCases w.1 s

def isNullForm (s : List Char) : Bool := s.isEmpty || s == ['~'] || inThreeCases "null" s

def isDigitOrLine (c : Char) : Bool := c.isDigit || c == '_'

/-- Sexagesimal places behind the first number: a colon and one or two digits below sixty. -/
def sexagesimalPlaces : Nat → List Char → List Char
  | 0, s => s
  | fuel + 1, s =>
    match s with
    | ':' :: a :: b :: rest =>
      if '0' ≤ a && a ≤ '5' && b.isDigit then sexagesimalPlaces fuel rest
      else if a.isDigit then sexagesimalPlaces fuel (b :: rest)
      else s
    | [':', a] => if a.isDigit then [] else s
    | _ => s

/-- The text behind a number and its sexagesimal places, of which there is one at least. -/
def sexagesimal? (s : List Char) : Option (List Char) :=
  let rest := s.dropWhile isDigitOrLine
  let after := sexagesimalPlaces rest.length rest
  if after.length < rest.length then some after else none

def dropSign (s : List Char) : List Char := (sign s).2

def isIntForm (s : List Char) : Bool :=
  match dropSign s with
  | [] => false
  | ['0'] => true
  | '0' :: 'b' :: rest => !rest.isEmpty && rest.all fun c => c == '0' || c == '1' || c == '_'
  | '0' :: 'x' :: rest =>
    !rest.isEmpty && rest.all fun c => isDigitOrLine c || ('a' ≤ c.toLower && c.toLower ≤ 'f')
  | '0' :: rest => rest.all fun c => ('0' ≤ c && c ≤ '7') || c == '_'
  | c :: rest =>
    c.isDigit && (rest.all isDigitOrLine || sexagesimal? (c :: rest) == some [])

/-- An exponent, with its sign, that ends the text; it may be missing. -/
def isExponentEnd (s : List Char) : Bool :=
  match s with
  | [] => true
  | e :: g :: ds =>
    (e == 'e' || e == 'E') && (g == '+' || g == '-') && !ds.isEmpty && ds.all Char.isDigit
  | _ => false

def isFloatForm (s : List Char) : Bool :=
  let body := dropSign s
  let pointed := match body with
    | c :: _ =>
      c.isDigit &&
        (match body.dropWhile isDigitOrLine with
         | '.' :: rest => isExponentEnd (rest.dropWhile isDigitOrLine)
         | _ => false)
    | [] => false
  let bare := match s with
    | '.' :: c :: rest => c.isDigit && isExponentEnd (rest.dropWhile isDigitOrLine)
    | _ => false
  let sixties := match body with
    | c :: _ =>
      c.isDigit &&
        (match sexagesimal? body with
         | some ('.' :: rest) => rest.all isDigitOrLine
         | _ => false)
    | [] => false
  let infinite := match body with
    | '.' :: rest => inThreeCases "inf" rest
    | _ => false
  let notNumber := s == ".nan".toList || s == ".NaN".toList || s == ".NAN".toList
  pointed || bare || sixties || infinite || notNumber

/-- The tag a plain scalar takes from its form; a newline alone is text. -/
def plainTag (s : List Char) : Tag :=
  let form := dropFinalBreak s
  if s == ['\n'] then .str
  else if isBoolForm form then .bool
  else if isFloatForm form then .float
  else if isIntForm form then .int
  else if form == ['<', '<'] then .merge
  else if isNullForm form then .null
  else if isMoment s then .timestamp
  else if form == ['='] then .value
  else .str

def dropLines (s : List Char) : List Char := s.filter (· != '_')

def decimalPart (s : List Char) : Except Fault Int :=
  match readInt s with
  | .ok n => .ok n
  | .error .malformed => .error (.notInteger 10 s)
  | .error (.tooLong digits) => .error (.tooManyDigits digits)

def hexValue? (c : Char) : Option Nat :=
  if c.isDigit then some (c.toNat - '0'.toNat)
  else if 'a' ≤ c.toLower && c.toLower ≤ 'z' then some (c.toLower.toNat - 'a'.toNat + 10)
  else none

def baseMark? : Nat → Option Char
  | 2 => some 'b'
  | 8 => some 'o'
  | 16 => some 'x'
  | _ => none

def digitsIn (base : Nat) (ds : List Char) : Option Nat :=
  if ds.isEmpty then none else
  ds.foldlM (fun n c => do
    let d ← hexValue? c
    if d < base then some (base * n + d) else none) 0

/-- A whole number in another base, the mark of the base being optional. -/
def basedInt (base : Nat) (s : List Char) : Except Fault Int :=
  let (negative, body) := sign (stripNumber (plainDigits s))
  let body := match body with
    | '0' :: c :: rest => if baseMark? base == some c.toLower then rest else body
    | _ => body
  match digitsIn base body with
  | some n => .ok (if negative then -(n : Int) else n)
  | none => .error (.notInteger base s)

/-- Places of a sexagesimal number, the least significant first. -/
def sexagesimalValue (places : List Int) : Int :=
  places.reverse.foldr (fun d n => d + 60 * n) 0

def readIntScalar (s : List Char) : Except Fault Int := do
  let s := dropLines s
  if s.isEmpty then throw .noNumber
  let (negative, s) := sign s
  let n ← match s with
    | ['0'] => pure 0
    | '0' :: 'b' :: rest => basedInt 2 rest
    | '0' :: 'x' :: rest => basedInt 16 rest
    | '0' :: _ => basedInt 8 s
    | [] => throw .noNumber
    | _ =>
      if s.contains ':' then
        let places ← (splitOn ':' s).mapM decimalPart
        pure (sexagesimalValue places)
      else decimalPart s
  return if negative then -n else n

def floatPart (s : List Char) : Except Fault Float :=
  match readFloat? s with
  | some x => .ok x
  | none => .error (.notFloat s)

/-- The sum of the places, the least significant first, each by its power of sixty. -/
def sexagesimalFloat : Float → Int → List Float → Except Fault Float
  | total, _, [] => .ok total
  | total, base, place :: places =>
    match ofInt? base with
    | some b => sexagesimalFloat (total + place * b) (base * 60) places
    | none => .error .integerTooLarge

def readFloatScalar (s : List Char) : Except Fault Float := do
  let s := lower (dropLines s)
  if s.isEmpty then throw .noNumber
  let (negative, s) := sign s
  if s == ".nan".toList then return 0.0 / 0.0
  let x ←
    if s == ".inf".toList then pure (Float.ofBits infinityBits)
    else if s.contains ':' then do
      let places ← (splitOn ':' s).mapM floatPart
      sexagesimalFloat 0.0 1 places.reverse
    else floatPart s
  return if negative then -x else x

def readBoolScalar (s : List Char) : Except Fault Bool :=
  let s := lower s
  match boolWords.find? fun w => w.1.toList == s with
  | some (_, b) => .ok b
  | none => .error (.notBoolean s)

def readBinaryScalar (s : List Char) : Except Fault (List UInt8) :=
  if s.all fun c => c.toNat < 128 then
    match Base64.decode? s with
    | some bytes => .ok bytes
    | none => .error .malformed
  else .error .malformed

/-- The value of a scalar under a tag. -/
def scalarValue (tag : Tag) (s : List Char) : Except Fault Value :=
  match tag with
  | .null => .ok .null
  | .bool => (readBoolScalar s).map .bool
  | .int => (readIntScalar s).map .int
  | .float => (readFloatScalar s).map .float
  | .binary => (readBinaryScalar s).map .bytes
  | .timestamp =>
    match moment? s with
    | some m => m.check
    | none => .error .notTimestamp
  | .str => .ok (.text (String.ofList s))
  | _ => .error .malformed

end QuizPreflight.Yaml
