/-!
# Range-coded data

Bits are coded by ranges that their probabilities divide; probabilities adapt to the bits seen
in the same context. The bits say what comes next: a byte, or a copy of bytes written before,
from a new distance or from one of the last four. A copy from the greatest distance is the end.
-/
namespace QuizPreflight.Archive.Lzma

/-- Reading stops where the data ends too early or is invalid. -/
inductive Stop where
  | cut
  | invalid
  deriving DecidableEq, Repr

/-- The range of a code, the code, what follows in the data, and the probabilities. -/
structure Coder where
  range : Nat
  code : Nat
  data : List UInt8
  chances : Array Nat

abbrev Decoder := StateT Coder (Except Stop)

def topRange : Nat := Nat.pow 2 24

def evenChance : Nat := 1024

/-- Takes in a byte where the range has become small. -/
def normalize : Decoder Unit := do
  let c ← get
  if topRange ≤ c.range then return
  match c.data with
  | [] => throw .cut
  | b :: data => set { c with range := c.range * 256, code := c.code * 256 + b.toNat, data := data }

/-- The next bit in a context. -/
def bit (context : Nat) : Decoder Nat := do
  normalize
  let c ← get
  let chance := c.chances.getD context evenChance
  let bound := c.range / 2048 * chance
  if c.code < bound then
    set { c with
      range := bound
      chances := c.chances.setIfInBounds context (chance + (2048 - chance) / 32) }
    return 0
  else
    set { c with
      range := c.range - bound
      code := c.code - bound
      chances := c.chances.setIfInBounds context (chance - chance / 32) }
    return 1

/-- Bits that are as likely to be zero as one, the highest first. -/
def evenBits : Nat → Nat → Decoder Nat
  | 0, x => return x
  | n + 1, x => do
    normalize
    let c ← get
    let half := c.range / 2
    if c.code < half then
      set { c with range := half }
      evenBits n (2 * x)
    else
      set { c with range := half, code := c.code - half }
      evenBits n (2 * x + 1)

/-- A number of so many bits, the highest first; the bits before one are its context. -/
def tree (base : Nat) : Nat → Nat → Decoder Nat
  | 0, node => return node
  | n + 1, node => do tree base n (2 * node + (← bit (base + node)))

def number (base width : Nat) : Decoder Nat := do return (← tree base width 1) - Nat.pow 2 width

/-- As `number`, the lowest bit first. -/
def reverseTree (base : Nat) : Nat → Nat → Nat → Decoder Nat
  | 0, _, _ => return 0
  | n + 1, node, weight => do
    let b ← bit (base + node)
    return b * weight + (← reverseTree base n (2 * node + b) (2 * weight))

/-- How many bits of context literals have, how many of the position count, and how far back
copies may reach. -/
structure Properties where
  literalBits : Nat
  literalPositionBits : Nat
  positionBits : Nat
  reach : Nat
  deriving DecidableEq, Repr

def matchBase : Nat := 0
def repeatBase : Nat := 192
def repeatFirstBase : Nat := 204
def repeatSecondBase : Nat := 216
def repeatThirdBase : Nat := 228
def repeatLongBase : Nat := 240
def slotBase : Nat := 432
def specialBase : Nat := 688
def alignBase : Nat := 804
def lengthBase : Nat := 820
def repeatLengthBase : Nat := 1334
def literalBase : Nat := 1848

def contexts (p : Properties) : Nat :=
  literalBase + 0x300 * Nat.pow 2 (p.literalBits + p.literalPositionBits)

/-- Where the decoding stands: a summary of the last items, and the last distances. -/
structure Progress where
  state : Nat
  first : Nat
  second : Nat
  third : Nat
  fourth : Nat
  out : Array UInt8

def Progress.start : Progress := ⟨0, 0, 0, 0, 0, #[]⟩

/-- The byte at a distance back, the last one being at zero. -/
def Progress.byteAt (p : Progress) (distance : Nat) : Nat :=
  if distance < p.out.size then (p.out.getD (p.out.size - 1 - distance) 0).toNat else 0

/-- The length of a copy. -/
def copyLength (base position : Nat) : Decoder Nat := do
  if (← bit base) = 0 then return 2 + (← number (base + 2 + 8 * position) 3)
  else if (← bit (base + 1)) = 0 then return 10 + (← number (base + 130 + 8 * position) 3)
  else return 18 + (← number (base + 258) 8)

/-- A distance, by the length of the copy. -/
def copyDistance (length : Nat) : Decoder Nat := do
  let slot ← number (slotBase + 64 * min (length - 2) 3) 6
  if slot < 4 then return slot
  let width := slot / 2 - 1
  let least := (2 + slot % 2) * Nat.pow 2 width
  if slot < 14 then return least + (← reverseTree (specialBase + least - slot) width 1 1)
  else
    let high ← evenBits (width - 4) 0
    return least + 16 * high + (← reverseTree alignBase 4 1 1)

/-- A byte whose bits are expected to be those of another one, until one is not. -/
def matchedByte (base : Nat) : Nat → Nat → Nat → Decoder Nat
  | 0, _, node => return node
  | n + 1, expected, node => do
    let wanted := expected / 128 % 2
    let b ← bit (base + 256 * (1 + wanted) + node)
    if b = wanted then matchedByte base n (2 * expected) (2 * node + b)
    else tree base n (2 * node + b)

def stateAfterByte (state : Nat) : Nat :=
  if state < 4 then 0 else if state < 10 then state - 3 else state - 6

/-- A byte on its own. -/
def literal (properties : Properties) (p : Progress) : Decoder Progress := do
  let before := p.byteAt 0 / Nat.pow 2 (8 - properties.literalBits)
  let place := p.out.size % Nat.pow 2 properties.literalPositionBits
  let base := literalBase + 0x300 * (place * Nat.pow 2 properties.literalBits + before)
  let node ← if p.state < 7 then tree base 8 1 else matchedByte base 8 (p.byteAt p.first) 1
  return { p with out := p.out.push (UInt8.ofNat (node - 256)), state := stateAfterByte p.state }

/-- Repeats bytes from a distance back, one by one. -/
def repeatBytes (distance : Nat) : Nat → Array UInt8 → Array UInt8
  | 0, out => out
  | n + 1, out => repeatBytes distance n (out.push (out.getD (out.size - 1 - distance) 0))

/-- Copies from the first of the last distances, which has to lie in what is within reach. -/
def Progress.copy (reach : Nat) (p : Progress) (length : Nat) : Decoder Progress := do
  if min p.out.size reach ≤ p.first then throw .invalid
  return { p with out := repeatBytes p.first length p.out }

/-- A copy from one of the last distances. -/
def repeated (reach position : Nat) (p : Progress) : Decoder Progress := do
  if p.out.isEmpty then throw .invalid
  let ended (p : Progress) : Decoder Progress := do
    let length ← copyLength repeatLengthBase position
    Progress.copy reach { p with state := if p.state < 7 then 8 else 11 } length
  if (← bit (repeatFirstBase + p.state)) = 0 then
    if (← bit (repeatLongBase + 16 * p.state + position)) = 0 then
      Progress.copy reach { p with state := if p.state < 7 then 9 else 11 } 1
    else ended p
  else if (← bit (repeatSecondBase + p.state)) = 0 then
    ended { p with first := p.second, second := p.first }
  else if (← bit (repeatThirdBase + p.state)) = 0 then
    ended { p with first := p.third, second := p.first, third := p.second }
  else
    ended { p with first := p.fourth, second := p.first, third := p.second, fourth := p.third }

def endDistance : Nat := 0xffffffff

/-- A copy from a new distance; the end mark gives nothing, and leaves nothing of the code. -/
def copied (reach position : Nat) (p : Progress) : Decoder (Option Progress) := do
  let length ← copyLength lengthBase position
  let distance ← copyDistance length
  if distance = endDistance then
    normalize
    if (← get).code != 0 then throw .invalid
    return none
  else
    let p := { p with
      state := if p.state < 7 then 7 else 10
      first := distance
      second := p.first
      third := p.second
      fourth := p.third }
    return some (← p.copy reach length)

/-- The next item; the end mark gives nothing. -/
def item (properties : Properties) (p : Progress) : Decoder (Option Progress) := do
  let position := p.out.size % Nat.pow 2 properties.positionBits
  if (← bit (matchBase + 16 * p.state + position)) = 0 then some <$> literal properties p
  else if (← bit (repeatBase + p.state)) = 0 then copied properties.reach position p
  else some <$> repeated properties.reach position p

/-- Items up to the end mark. -/
def items (properties : Properties) : Nat → Progress → Coder → Array UInt8 × Option Stop
  | 0, p, _ => (p.out, some .cut)
  | fuel + 1, p, c =>
    match (item properties p).run c with
    | .error s => (p.out, some s)
    | .ok (none, _) => (p.out, none)
    | .ok (some p, c) => items properties fuel p c

/-- No byte of the data holds more items than this: the likeliest bit takes more than a fiftieth
of a bit, and an item has two bits at least. -/
def itemsPerByte : Nat := 200

/-- The reach that is stated is at least this, and a multiple of sixteen. -/
def leastReach : Nat := 4096

/-- The properties that a row of bytes stands for. -/
def Properties.ofBytes? : List UInt8 → Option Properties
  | [b, r₀, r₁, r₂, r₃] =>
    let n := b.toNat
    let stated := [r₀, r₁, r₂, r₃].foldr (fun b n => n * 256 + b.toNat) 0
    let p : Properties := ⟨n % 9, n / 9 % 5, n / 45, (max stated leastReach + 15) / 16 * 16⟩
    if n < 225 && p.literalBits + p.literalPositionBits ≤ 4 then some p else none
  | _ => none

/-- Why nothing can be unpacked. -/
inductive Fault where
  | options
  | corrupt
  deriving DecidableEq, Repr

def Fault.text : Fault → String
  | .options => "Invalid or unsupported options"
  | .corrupt => "Corrupt input data"

/-- The bytes that range-coded data stands for, with what stopped the reading before its end. -/
def decode (properties : Properties) (data : List UInt8) : List UInt8 × Option Stop :=
  match data with
  | b :: b₁ :: b₂ :: b₃ :: b₄ :: rest =>
    if b != 0 then ([], some .invalid)
    else
      let code := [b₁, b₂, b₃, b₄].foldl (fun n b => n * 256 + b.toNat) 0
      let c : Coder :=
        ⟨0xffffffff, code, rest, Array.replicate (contexts properties) evenChance⟩
      let (out, stop) := items properties (data.length * itemsPerByte) Progress.start c
      (out.toList, stop)
  | b :: _ => ([], some (if b != 0 then .invalid else .cut))
  | [] => ([], some .cut)

/-- Packed data begins with a version and the size of its properties. -/
def unpack (data : List UInt8) : Except Fault (List UInt8 × Option Stop) :=
  match data with
  | _ :: _ :: low :: high :: rest =>
    let size := low.toNat + 256 * high.toNat
    if rest.length ≤ size then .ok ([], some .cut)
    else match Properties.ofBytes? (rest.take size) with
      | none => .error .options
      | some properties => .ok (decode properties (rest.drop size))
  | _ => .ok ([], some .cut)

end QuizPreflight.Archive.Lzma
