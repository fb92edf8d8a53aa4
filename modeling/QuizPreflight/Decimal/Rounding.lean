/-!
# Rounding to binary floating point

A finite double is `mantissa * 2 ^ exponent`. A ratio of naturals is rounded to the nearest
double, a tie going to the even mantissa; past the largest double the result is infinite.
-/
namespace QuizPreflight.Decimal

/-- The quotient rounded to the nearest natural, a tie going to the even one. -/
def roundDiv (num den : Nat) : Nat :=
  let q := num / den
  let r := num % den
  if 2 * r < den then q
  else if den < 2 * r then q + 1
  else if q % 2 = 0 then q else q + 1

def minExponent : Int := -1074

def maxExponent : Int := 971

/-- The bits of the double `mantissa * 2 ^ exponent`, whose mantissa has at most 53 bits. -/
def bitsOf (mantissa : Nat) (exponent : Int) : UInt64 :=
  if mantissa < Nat.pow 2 52 then UInt64.ofNat mantissa
  else
    UInt64.ofNat ((exponent - minExponent + 1).toNat * Nat.pow 2 52 + (mantissa - Nat.pow 2 52))

def infinityBits : UInt64 := 0x7ff0000000000000

/-- `num * 2 ^ -shift / den` rounded. -/
def roundScaled (num den : Nat) (shift : Int) : Nat :=
  if 0 ≤ shift then roundDiv num (den * Nat.pow 2 shift.toNat)
  else roundDiv (num * Nat.pow 2 (-shift).toNat) den

/-- The double nearest to `num / den`. -/
def ofRatio (num den : Nat) : Float :=
  if num = 0 ∨ den = 0 then 0.0 else
  let guess : Int := (num.log2 : Int) - (den.log2 : Int) - 52
  let guess := if roundScaled num den guess < Nat.pow 2 52 then guess - 1 else guess
  let exponent := max guess minExponent
  let mantissa := roundScaled num den exponent
  let (mantissa, exponent) :=
    if mantissa < Nat.pow 2 53 then (mantissa, exponent) else (mantissa / 2, exponent + 1)
  if maxExponent < exponent then Float.ofBits infinityBits
  else Float.ofBits (bitsOf mantissa exponent)

/-- The double nearest to `digits * 10 ^ exponent`; beyond four hundred places either way the
answer needs no arithmetic. -/
def ofDecimal (digits : Nat) (exponent : Int) : Float :=
  if digits = 0 then 0.0 else
  let size : Int := (digits.log2 : Int) * 301 / 1000 + exponent
  if 400 < size then Float.ofBits infinityBits
  else if size < -400 then 0.0
  else if 0 ≤ exponent then ofRatio (digits * Nat.pow 10 exponent.toNat) 1
  else ofRatio digits (Nat.pow 10 (-exponent).toNat)

/-- The double nearest to an integer, unless it would be infinite. -/
def ofInt? (n : Int) : Option Float :=
  let magnitude := ofDecimal n.natAbs 0
  if magnitude.isInf then none else some (if n < 0 then -magnitude else magnitude)

/-- A finite double taken apart. -/
structure Parts where
  negative : Bool
  mantissa : Nat
  exponent : Int
  deriving DecidableEq, Repr

def partsOf (x : Float) : Parts :=
  let bits := x.toBits.toNat
  let field : Nat := bits / Nat.pow 2 52 % Nat.pow 2 11
  let fraction : Nat := bits % Nat.pow 2 52
  let negative : Bool := Nat.pow 2 63 ≤ bits
  if field = 0 then ⟨negative, fraction, minExponent⟩
  else ⟨negative, fraction + Nat.pow 2 52, (field : Int) - 1 + minExponent⟩

end QuizPreflight.Decimal
