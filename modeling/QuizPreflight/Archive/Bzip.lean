import QuizPreflight.Archive.Inflate

/-!
# Block-sorted data

Bytes are packed in blocks. In a block, runs of four or more bytes are counted, the bytes are
sorted by what follows them, each byte is replaced by the time since it was last seen, and the
times are written in prefix codes.
-/
namespace QuizPreflight.Archive.Bzip

/-- Reading stops where the data ends too early or is invalid. -/
inductive Stop where
  | cut
  | invalid
  deriving DecidableEq, Repr

abbrev BitReader := StateT Bits (Except Stop)

def highBitsOf (bytes : List UInt8) : Bits := bytes.flatMap fun b => (bitsOfByte b).reverse

def bit : BitReader Bool := fun bits =>
  match bits with
  | [] => .error .cut
  | b :: bits => .ok (b, bits)

def bits : Nat → BitReader (List Bool)
  | 0 => return []
  | n + 1 => do
    let b ← bit
    return b :: (← bits n)

/-- A number of so many bits, the highest first. -/
def number (n : Nat) : BitReader Nat := do
  return (← bits n).foldl (fun x b => 2 * x + if b then 1 else 0) 0

def require (condition : Bool) : BitReader Unit := if condition then return else throw .invalid

/-- The places of the ones among some bits. -/
def ones (bits : List Bool) : List Nat := (bits.zipIdx.filter (·.1)).map Prod.snd

/-- The bytes that occur in a block, in groups of sixteen. -/
def usedBytes : BitReader (List UInt8) := do
  let groups := ones (← bits 16)
  let used ← groups.mapM fun g => do
    return (ones (← bits 16)).map fun i => UInt8.ofNat (16 * g + i)
  return used.flatten

/-- A count of ones, which a zero ends. -/
def unary : Nat → BitReader Nat
  | 0 => throw .invalid
  | limit + 1 => do
    if ← bit then return (← unary limit) + 1 else return 0

def moveToFront {α : Type} (xs : List α) (i : Nat) : List α :=
  match xs[i]? with
  | none => xs
  | some x => x :: xs.eraseIdx i

/-- Which code is used for each group of symbols. -/
def selectors (codes : Nat) : Nat → List Nat → BitReader (List Nat)
  | 0, _ => return []
  | n + 1, order => do
    let i ← unary codes
    require (i < codes)
    let order := moveToFront order i
    return order.headD 0 :: (← selectors codes n order)

def maxCodeLength : Nat := 20

/-- A length that is reached by steps from another one. -/
def steppedLength : Nat → Nat → BitReader Nat
  | 0, _ => throw .cut
  | fuel + 1, length => do
    require (1 ≤ length && length ≤ maxCodeLength)
    if ← bit then
      if ← bit then steppedLength fuel (length - 1) else steppedLength fuel (length + 1)
    else return length

def codeLengths : Nat → Nat → BitReader (List Nat)
  | 0, _ => return []
  | n + 1, length => do
    let length ← steppedLength (← get).length length
    return length :: (← codeLengths n length)

/-- The first code of each length. -/
def firstCode (lengths : List Nat) : Nat → Nat
  | 0 => 0
  | length + 1 => 2 * (firstCode lengths length + lengths.count length)

/-- The symbols whose codes have one length, in order, and the first code. -/
structure Level where
  first : Nat
  symbols : Array Nat

/-- The code in which symbols have given lengths, one level for each length from one on. -/
def codeOf (lengths : List Nat) : List Level :=
  (List.range maxCodeLength).map fun l =>
    ⟨firstCode lengths (l + 1), (symbolsOf lengths (l + 1)).toArray⟩

/-- The symbol at the front; a code is known to stand for none after one more bit than a code
may have. -/
def symbol : List Level → Nat → BitReader Nat
  | [], _ => do
    let _ ← bit
    throw .invalid
  | level :: levels, start => do
    let code := 2 * start + if ← bit then 1 else 0
    if code < level.first + level.symbols.size then
      return level.symbols.getD (code - level.first) 0
    else symbol levels code

def groupSize : Nat := 50

/-- The bytes of a block in sorted order, and what is known while they are read: the bytes from
the latest seen on, and the length of a run with the weight of its next digit. -/
structure Column where
  bytes : Array UInt8
  recent : List UInt8
  run : Nat
  weight : Nat

/-- Writes the run of the latest byte. -/
def Column.flush (c : Column) : Column :=
  { c with
    bytes := c.bytes ++ Array.replicate c.run (c.recent.headD 0)
    run := 0
    weight := 1 }

def Column.push (c : Column) (i : Nat) : Column :=
  let c := c.flush
  let recent := moveToFront c.recent i
  { c with bytes := c.bytes.push (recent.headD 0), recent := recent }

def Column.addDigit (c : Column) (digit : Nat) : Column :=
  { c with run := c.run + digit * c.weight, weight := 2 * c.weight }

def maxRunWeight : Nat := 2 * 1024 * 1024

/-- Reads symbols up to the end of the block, at most so many bytes. -/
def column (limit endSymbol : Nat) (codes : Array (List Level)) :
    Nat → List Nat → Nat → Column → BitReader Column
  | 0, _, _, _ => throw .cut
  | fuel + 1, choice, left, c => do
    let (choice, left) := if left = 0 then (choice.tail, groupSize) else (choice, left)
    match choice with
    | [] => throw .invalid
    | code :: _ =>
      let s ← symbol (codes.getD code []) 0
      if s = endSymbol then
        require (c.bytes.size + c.run ≤ limit)
        return c.flush
      else if s < 2 then
        require (c.weight < maxRunWeight)
        column limit endSymbol codes fuel choice (left - 1) (c.addDigit (s + 1))
      else
        require (c.bytes.size + c.run < limit)
        column limit endSymbol codes fuel choice (left - 1) (c.push (s - 1))

/-- How many of the bytes are smaller, for each byte. -/
def smallerCounts (bytes : Array UInt8) : Array Nat :=
  let counts := bytes.foldl (fun t b => t.modify b.toNat (· + 1)) (Array.replicate 256 0)
  (counts.foldl (fun (t, sum) n => (t.push sum, sum + n)) (#[], 0)).1

/-- Where the byte before each one stands. -/
def successors (bytes : Array UInt8) : Array Nat :=
  let step (state : Array Nat × Array Nat × Nat) (b : UInt8) : Array Nat × Array Nat × Nat :=
    let (links, next, i) := state
    (links.setIfInBounds (next.getD b.toNat 0) i, next.modify b.toNat (· + 1), i + 1)
  (bytes.foldl step (Array.replicate bytes.size 0, smallerCounts bytes, 0)).1

def follow (bytes : Array UInt8) (links : Array Nat) : Nat → Nat → List UInt8
  | 0, _ => []
  | n + 1, place => bytes.getD place 0 :: follow bytes links n (links.getD place 0)

/-- The bytes in their own order, from their sorted order and the place of the first. -/
def unsort (bytes : Array UInt8) (first : Nat) : List UInt8 :=
  let links := successors bytes
  follow bytes links bytes.size (links.getD first 0)

/-- After four equal bytes a byte tells how many more there are. -/
def expandRuns (last : Option UInt8) (count : Nat) : List UInt8 → List UInt8
  | [] => []
  | b :: rest =>
    if count = 4 then List.replicate b.toNat (last.getD 0) ++ expandRuns none 0 rest
    else if last = some b then b :: expandRuns last (count + 1) rest
    else b :: expandRuns (some b) 1 rest

/-- The table of the checksum, which takes the highest bit of a byte first. -/
def checksumEntry (i : Nat) : UInt32 :=
  let step (c : UInt32) : UInt32 :=
    if c &&& 0x80000000 != 0 then (c <<< 1) ^^^ 0x04c11db7 else c <<< 1
  (List.range 8).foldl (fun c _ => step c) (UInt32.ofNat i <<< 24)

def checksumTable : Array UInt32 := ((List.range 256).map checksumEntry).toArray

def checksum (bytes : List UInt8) : UInt32 :=
  let step (c : UInt32) (b : UInt8) : UInt32 :=
    (c <<< 8) ^^^ checksumTable.getD ((c >>> 24).toNat ^^^ b.toNat) 0
  bytes.foldl step 0xffffffff ^^^ 0xffffffff

/-- Bytes that have to come next. -/
def expect : List Nat → BitReader Unit
  | [] => return
  | b :: bytes => do
    require ((← number 8) = b)
    expect bytes

/-- Whether a block comes next, and not the end. -/
def mark : BitReader Bool := do
  let b ← number 8
  if b = 0x17 then
    expect [0x72, 0x45, 0x38, 0x50, 0x90]
    return false
  else
    require (b = 0x31)
    expect [0x41, 0x59, 0x26, 0x53, 0x59]
    return true

/-- How many bytes of a shuffled block are as they are. Such blocks are no longer written, and
longer ones are not supported. -/
def unshuffledSize : Nat := 617

/-- The contents of a block after its mark, with its checksum. -/
def block (level : Nat) : BitReader (List UInt8 × UInt32) := do
  let stored ← number 32
  let isShuffled ← bit
  let first ← number 24
  let used ← usedBytes
  require (!used.isEmpty)
  let codeCount ← number 3
  require (2 ≤ codeCount && codeCount ≤ 6)
  let selectorCount ← number 15
  require (1 ≤ selectorCount)
  let choice ← selectors codeCount selectorCount (List.range codeCount)
  let codes ← (List.range codeCount).mapM fun _ => do
    return codeOf (← codeLengths (used.length + 2) (← number 5))
  let c ← column (100000 * level) (used.length + 1) codes.toArray ((← get).length + 1) choice
    groupSize ⟨#[], used, 0, 1⟩
  require (first < c.bytes.size && (!isShuffled || c.bytes.size ≤ unshuffledSize))
  let contents := expandRuns none 0 (unsort c.bytes first)
  require (checksum contents = UInt32.ofNat stored)
  return (contents, UInt32.ofNat stored)

/-- The blocks up to the end mark, with what ended the reading before it. -/
def blocks (level : Nat) : Nat → UInt32 → Bits → List UInt8 × Option Stop
  | 0, _, _ => ([], some .cut)
  | fuel + 1, total, input =>
    match mark.run input with
    | .error s => ([], some s)
    | .ok (true, input) =>
      match (block level).run input with
      | .error s => ([], some s)
      | .ok ((contents, sum), input) =>
        let total := ((total <<< 1) ||| (total >>> 31)) ^^^ sum
        let (rest, stop) := blocks level fuel total input
        (contents ++ rest, stop)
    | .ok (false, input) =>
      match (number 32).run input with
      | .error s => ([], some s)
      | .ok (sum, _) => ([], if UInt32.ofNat sum = total then none else some .invalid)

/-- The bytes that packed data stands for, with what stopped the reading before its end. -/
def unpack (data : List UInt8) : List UInt8 × Option Stop :=
  match data with
  | 0x42 :: 0x5a :: 0x68 :: level :: rest =>
    if 0x31 ≤ level && level ≤ 0x39 then
      let input := highBitsOf rest
      blocks (level.toNat - 0x30) (input.length + 1) 0 input
    else ([], some .invalid)
  | _ => ([], some (if data.isPrefixOf [0x42, 0x5a, 0x68] then .cut else .invalid))

end QuizPreflight.Archive.Bzip
