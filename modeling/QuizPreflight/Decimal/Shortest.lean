import QuizPreflight.Decimal.Rounding

/-!
# The fewest digits that read back

For each number of digits from one to seventeen the two decimals around the value are tried;
the first number of digits with a decimal that rounds to the value wins, the nearer decimal if
both do and the even one on a tie.
-/
namespace QuizPreflight.Decimal

/-- The decimal `0.digits * 10 ^ point`: `point` digits stand before the decimal point. -/
structure Digits where
  digits : List Char
  point : Int
  deriving DecidableEq, Repr

/-- A positive rational, with the open or closed interval of reals that round to it. -/
structure Target where
  value : Nat
  low : Nat
  high : Nat
  /-- All three are divided by this. -/
  scale : Nat
  closed : Bool

def Target.ofParts (p : Parts) : Target :=
  let atPower := p.mantissa = Nat.pow 2 52 && minExponent < p.exponent
  let value := 4 * p.mantissa
  let low := if atPower then value - 1 else value - 2
  let high := value + 2
  let closed := p.mantissa % 2 = 0
  if 2 ≤ p.exponent then
    let unit := Nat.pow 2 (p.exponent - 2).toNat
    ⟨value * unit, low * unit, high * unit, 1, closed⟩
  else ⟨value, low, high, Nat.pow 2 (2 - p.exponent).toNat, closed⟩

/-- Whether `candidate * stepNum / stepDen` lies in the interval. -/
def Target.holds (t : Target) (candidate stepNum stepDen : Nat) : Bool :=
  let point := candidate * stepNum * t.scale
  if t.closed then t.low * stepDen ≤ point && point ≤ t.high * stepDen
  else t.low * stepDen < point && point < t.high * stepDen

/-- The least `k` with `value < 10 ^ k`, searched upward from an underestimate. -/
def decimalPoint (num den : Nat) : Int :=
  let start : Int := ((num.log2 : Int) - (den.log2 : Int) - 1) * 301 / 1000 - 1
  let fits (k : Int) : Bool :=
    if 0 ≤ k then num < Nat.pow 10 k.toNat * den else num * Nat.pow 10 (-k).toNat < den
  let rec search : Nat → Int → Int
    | 0, k => k
    | fuel + 1, k => if fits k then k else search fuel (k + 1)
  search 8 start

/-- The decimal of `places` digits chosen for a target below `10 ^ point`, if one reads back. -/
def Target.atPlaces (t : Target) (point : Int) (places : Nat) : Option Nat :=
  let step := point - (places : Int)
  let stepNum := if 0 ≤ step then Nat.pow 10 step.toNat else 1
  let stepDen := if 0 ≤ step then 1 else Nat.pow 10 (-step).toNat
  let num := t.value * stepDen
  let den := t.scale * stepNum
  let below := num / den
  let above := below + 1
  match t.holds below stepNum stepDen, t.holds above stepNum stepDen with
  | true, true =>
    let fromBelow := num - below * den
    let fromAbove := above * den - num
    if fromBelow < fromAbove then some below
    else if fromAbove < fromBelow then some above
    else if below % 2 = 0 then some below else some above
  | true, false => some below
  | false, true => some above
  | false, false => none

def dropTrailingZeros (ds : List Char) : List Char :=
  (ds.reverse.dropWhile (· == '0')).reverse

/-- A whole number of steps written out; a carry past the first place moves the point. -/
def digitsOf (n places : Nat) (point : Int) : Digits :=
  let ds := (toString n).toList
  ⟨dropTrailingZeros ds, point + (ds.length : Int) - (places : Int)⟩

/-- The shortest digits of a finite double other than zero, its sign left out. -/
def shortest (x : Float) : Digits :=
  let t := Target.ofParts (partsOf x)
  let point := decimalPoint t.value t.scale
  let rec search : Nat → Nat → Digits
    | 0, _ => ⟨['0'], 1⟩
    | fuel + 1, places =>
      match t.atPlaces point places with
      | some n => digitsOf n places point
      | none => search fuel (places + 1)
  search 17 1

/-- The digits of a finite double other than zero, rounded exactly to a number of places. -/
def rounded (x : Float) (places : Nat) : Digits :=
  let t := Target.ofParts (partsOf x)
  let point := decimalPoint t.value t.scale
  let step := point - (places : Int)
  let n := if 0 ≤ step then roundDiv t.value (t.scale * Nat.pow 10 step.toNat)
    else roundDiv (t.value * Nat.pow 10 (-step).toNat) t.scale
  digitsOf n places point

end QuizPreflight.Decimal
