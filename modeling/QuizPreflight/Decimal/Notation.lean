import QuizPreflight.Decimal.Shortest

/-!
# Written numbers

Two styles of writing a double: the full one keeps every digit needed to read the value back
and a fraction of at least one digit; the general one keeps six significant digits and drops a
fraction that is zero. Both turn to an exponent outside their positional range.
-/
namespace QuizPreflight.Decimal

structure Style where
  /-- Positional notation ends below this many leading digits. -/
  lowest : Int
  /-- Positional notation ends above this many leading digits. -/
  highest : Int
  keepFraction : Bool
  deriving DecidableEq, Repr

def fullStyle : Style := ⟨-3, 16, true⟩

def generalStyle : Style := ⟨-3, 6, false⟩

def zerosOf (n : Nat) : List Char := List.replicate n '0'

def exponentText (e : Int) : List Char :=
  let ds := (toString e.natAbs).toList
  (if e < 0 then '-' else '+') :: (if ds.length < 2 then '0' :: ds else ds)

def positional (keepFraction : Bool) (d : Digits) : List Char :=
  let n : Int := d.digits.length
  if d.point ≤ 0 then '0' :: '.' :: (zerosOf (-d.point).toNat ++ d.digits)
  else if n ≤ d.point then
    d.digits ++ zerosOf (d.point - n).toNat ++ (if keepFraction then ['.', '0'] else [])
  else d.digits.take d.point.toNat ++ '.' :: d.digits.drop d.point.toNat

def scientific (d : Digits) : List Char :=
  let fraction := d.digits.drop 1
  d.digits.take 1 ++ (if fraction.isEmpty then [] else '.' :: fraction) ++
    'e' :: exponentText (d.point - 1)

def writeDigits (style : Style) (d : Digits) : List Char :=
  if style.lowest ≤ d.point && d.point ≤ style.highest then positional style.keepFraction d
  else scientific d

def writeWith (style : Style) (digitsOf : Float → Digits) (x : Float) : String :=
  if x.isNaN then "nan" else
  let parts := partsOf x
  let sign := if parts.negative then ['-'] else []
  let body :=
    if x.isInf then "inf".toList
    else if parts.mantissa = 0 then '0' :: (if style.keepFraction then ['.', '0'] else [])
    else writeDigits style (digitsOf x)
  String.ofList (sign ++ body)

/-- Every digit needed to read the value back. -/
def writeFull (x : Float) : String := writeWith fullStyle shortest x

/-- Six significant digits. -/
def writeGeneral (x : Float) : String := writeWith generalStyle (rounded · 6) x

end QuizPreflight.Decimal
