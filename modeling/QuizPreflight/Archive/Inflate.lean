/-!
# Compressed data

Compressed data is a row of blocks of bits. A block holds bytes as they are, or symbols in a
prefix code: a byte, the end of the block, or a copy of bytes that were written before.
-/
namespace QuizPreflight.Archive

/-- Why compressed data cannot be read. -/
inductive Corruption where
  | blockType
  | storedLength
  | tooManySymbols
  | codeLengths
  | repeatedLength
  | missingEnd
  | literalLengths
  | distanceLengths
  | literalCode
  | distanceCode
  | distance
  deriving DecidableEq, Repr

def Corruption.text : Corruption → String
  | .blockType => "invalid block type"
  | .storedLength => "invalid stored block lengths"
  | .tooManySymbols => "too many length or distance symbols"
  | .codeLengths => "invalid code lengths set"
  | .repeatedLength => "invalid bit length repeat"
  | .missingEnd => "invalid code -- missing end-of-block"
  | .literalLengths => "invalid literal/lengths set"
  | .distanceLengths => "invalid distances set"
  | .literalCode => "invalid literal/length code"
  | .distanceCode => "invalid distance code"
  | .distance => "invalid distance too far back"

/-- Reading stops where the data ends too early or is corrupt. -/
inductive Halt where
  | cut
  | corrupt (c : Corruption)
  deriving DecidableEq, Repr

abbrev Bits := List Bool

/-- The bits of a byte, the lowest first. -/
def bitsOfByte (b : UInt8) : Bits := (List.range 8).map fun i => b.toNat.testBit i

def bitsOf (bytes : List UInt8) : Bits := bytes.flatMap bitsOfByte

/-- A number of so many bits, the lowest first. -/
def takeNumber : Nat → Bits → Except Halt (Nat × Bits)
  | 0, bits => .ok (0, bits)
  | _ + 1, [] => .error .cut
  | n + 1, b :: bits => do
    let (rest, bits) ← takeNumber n bits
    return ((if b then 1 else 0) + 2 * rest, bits)

/-- A prefix code as a tree: a zero bit leads left and a one bit right. -/
inductive Code where
  | unused
  | symbol (n : Nat)
  | branch (zero one : Code)
  deriving DecidableEq, Repr

/-- Adds a symbol with its bits. -/
def Code.insert (symbol : Nat) : Bits → Code → Code
  | [], _ => .symbol symbol
  | b :: bits, c =>
    let (zero, one) := match c with
      | .branch zero one => (zero, one)
      | _ => (.unused, .unused)
    if b then .branch zero (one.insert symbol bits) else .branch (zero.insert symbol bits) one

/-- The symbol at the front; the flaw is for bits that stand for none. -/
def Code.read (flaw : Corruption) : Code → Bits → Except Halt (Nat × Bits)
  | .unused, _ => .error (.corrupt flaw)
  | .symbol n, bits => .ok (n, bits)
  | .branch _ _, [] => .error .cut
  | .branch zero one, b :: bits => (if b then one else zero).read flaw bits

/-- The bits of a number, the highest first. -/
def codeBits (length n : Nat) : Bits := (List.range length).reverse.map n.testBit

def maxLength : Nat := 15

def countOf (lengths : List Nat) (length : Nat) : Nat := lengths.count length

/-- The codes left unused after those of a length, unless there are too many codes. -/
def unusedCodes (lengths : List Nat) : Nat → Option Nat
  | 0 => some 1
  | length + 1 => do
    let left ← unusedCodes lengths length
    let count := countOf lengths (length + 1)
    if 2 * left < count then none else some (2 * left - count)

/-- The first code of each length. -/
def firstCode (lengths : List Nat) : Nat → Nat
  | 0 => 0
  | length + 1 =>
    2 * (firstCode lengths length + if length = 0 then 0 else countOf lengths length)

/-- The symbols of a length, in order. -/
def symbolsOf (lengths : List Nat) (length : Nat) : List Nat :=
  (lengths.zipIdx.filter (·.1 == length)).map Prod.snd

/-- The code in which symbols have given lengths, zero for an unused one: shorter codes come
before longer ones and smaller symbols before larger ones. -/
def Code.ofLengths (lengths : List Nat) : Code :=
  let coded := (List.range maxLength).flatMap fun l =>
    (symbolsOf lengths (l + 1)).zipIdx.map fun (s, i) =>
      (s, codeBits (l + 1) (firstCode lengths (l + 1) + i))
  coded.foldl (fun c (s, bits) => c.insert s bits) (.branch .unused .unused)

/-- A code may leave bits unused only if it has a single symbol of one bit or none at all. -/
def isUsable (lengths : List Nat) : Bool :=
  match unusedCodes lengths maxLength with
  | none => false
  | some left => left = 0 || lengths.all (· ≤ 1)

structure Codes where
  literals : Code
  distances : Code

def fixedCodes : Codes where
  literals := Code.ofLengths
    (List.replicate 144 8 ++ List.replicate 112 9 ++ List.replicate 24 7 ++ List.replicate 8 8)
  distances := Code.ofLengths (List.replicate 32 5)

/-- The symbols whose lengths come first, in that order. -/
def lengthOrder : List Nat :=
  [16, 17, 18, 0, 8, 7, 9, 6, 10, 5, 11, 4, 12, 3, 13, 2, 14, 1, 15]

def takeNumbers (width : Nat) : Nat → Bits → Except Halt (List Nat × Bits)
  | 0, bits => .ok ([], bits)
  | n + 1, bits => do
    let (x, bits) ← takeNumber width bits
    let (xs, bits) ← takeNumbers width n bits
    return (x :: xs, bits)

/-- The code of lengths; without any symbol every bit stands for zero. -/
def lengthCode (given : List Nat) : Except Halt Code :=
  let lengths := (List.range 19).map fun s => ((lengthOrder.zip given).lookup s).getD 0
  if lengths.all (· == 0) then .ok (.branch (.symbol 0) (.symbol 0))
  else if unusedCodes lengths maxLength = some 0 then .ok (Code.ofLengths lengths)
  else .error (.corrupt .codeLengths)

/-- Lengths up to a total, latest first; symbols above fifteen repeat. -/
def takeLengths (code : Code) (total : Nat) : Nat → List Nat → Bits → Except Halt (List Nat × Bits)
  | 0, done, bits => .ok (done, bits)
  | fuel + 1, done, bits => do
    if total ≤ done.length then return (done, bits)
    let (symbol, bits) ← code.read .codeLengths bits
    if symbol < 16 then takeLengths code total fuel (symbol :: done) bits
    else
      let (width, least) :=
        if symbol = 16 then (2, 3) else if symbol = 17 then (3, 3) else (7, 11)
      let (extra, bits) ← takeNumber width bits
      let times := least + extra
      let length := if symbol = 16 then done.head? else some 0
      match length with
      | none => throw (.corrupt .repeatedLength)
      | some l =>
        if total < done.length + times then throw (.corrupt .repeatedLength)
        else takeLengths code total fuel (List.replicate times l ++ done) bits

/-- The codes that a block describes. -/
def takeCodes (bits : Bits) : Except Halt (Codes × Bits) := do
  let (literals, bits) ← takeNumber 5 bits
  let (distances, bits) ← takeNumber 5 bits
  let (given, bits) ← takeNumber 4 bits
  let literals := literals + 257
  let distances := distances + 1
  if 286 < literals || 30 < distances then throw (.corrupt .tooManySymbols)
  let (given, bits) ← takeNumbers 3 (given + 4) bits
  let code ← lengthCode given
  let total := literals + distances
  let (lengths, bits) ← takeLengths code total total [] bits
  let lengths := lengths.reverse
  if lengths.getD 256 0 = 0 then throw (.corrupt .missingEnd)
  let forLiterals := lengths.take literals
  let forDistances := lengths.drop literals
  if !isUsable forLiterals then throw (.corrupt .literalLengths)
  if !isUsable forDistances then throw (.corrupt .distanceLengths)
  return (⟨Code.ofLengths forLiterals, Code.ofLengths forDistances⟩, bits)

/-- The least length of a copy and its extra bits, by symbol from 257 on. -/
def copyLengths : List (Nat × Nat) :=
  [(3, 0), (4, 0), (5, 0), (6, 0), (7, 0), (8, 0), (9, 0), (10, 0), (11, 1), (13, 1), (15, 1),
   (17, 1), (19, 2), (23, 2), (27, 2), (31, 2), (35, 3), (43, 3), (51, 3), (59, 3), (67, 4),
   (83, 4), (99, 4), (115, 4), (131, 5), (163, 5), (195, 5), (227, 5), (258, 0)]

/-- The least distance of a copy and its extra bits, by symbol. -/
def copyDistances : List (Nat × Nat) :=
  [(1, 0), (2, 0), (3, 0), (4, 0), (5, 1), (7, 1), (9, 2), (13, 2), (17, 3), (25, 3), (33, 4),
   (49, 4), (65, 5), (97, 5), (129, 6), (193, 6), (257, 7), (385, 7), (513, 8), (769, 8),
   (1025, 9), (1537, 9), (2049, 10), (3073, 10), (4097, 11), (6145, 11), (8193, 12),
   (12289, 12), (16385, 13), (24577, 13)]

/-- Repeats bytes from a distance back, one by one. -/
def copyBack (distance : Nat) : Nat → Array UInt8 → Array UInt8
  | 0, out => out
  | n + 1, out => copyBack distance n (out.push (out.getD (out.size - distance) 0))

/-- A number given by its least value and extra bits, from a table. -/
def takeExtended (table : List (Nat × Nat)) (flaw : Corruption) (index : Nat) (bits : Bits) :
    Except Halt (Nat × Bits) :=
  match table[index]? with
  | none => .error (.corrupt flaw)
  | some (least, width) => do
    let (extra, bits) ← takeNumber width bits
    return (least + extra, bits)

/-- What has been written and how reading ended; none means that it goes on after the bits. -/
structure Inflation where
  out : Array UInt8
  halt : Option Halt
  rest : Bits

/-- The length and the distance of a copy after its first symbol. -/
def takeCopy (codes : Codes) (symbol : Nat) (bits : Bits) : Except Halt (Nat × Nat × Bits) := do
  let (length, bits) ← takeExtended copyLengths .literalCode (symbol - 257) bits
  let (symbol, bits) ← codes.distances.read .distanceCode bits
  let (distance, bits) ← takeExtended copyDistances .distanceCode symbol bits
  return (length, distance, bits)

/-- The symbols of a block up to its end. -/
def inflateSymbols (codes : Codes) : Nat → Array UInt8 → Bits → Inflation
  | 0, out, bits => ⟨out, some .cut, bits⟩
  | fuel + 1, out, bits =>
    match codes.literals.read .literalCode bits with
    | .error h => ⟨out, some h, []⟩
    | .ok (symbol, bits) =>
      if symbol < 256 then inflateSymbols codes fuel (out.push (UInt8.ofNat symbol)) bits
      else if symbol = 256 then ⟨out, none, bits⟩
      else match takeCopy codes symbol bits with
        | .error h => ⟨out, some h, []⟩
        | .ok (length, distance, bits) =>
          if out.size < distance then ⟨out, some (.corrupt .distance), []⟩
          else inflateSymbols codes fuel (copyBack distance length out) bits

/-- Bytes as they are, as many as the data still holds. -/
def inflateBytes : Nat → Array UInt8 → Bits → Inflation
  | 0, out, bits => ⟨out, none, bits⟩
  | n + 1, out, bits =>
    match takeNumber 8 bits with
    | .error h => ⟨out, some h, []⟩
    | .ok (b, bits) => inflateBytes n (out.push (UInt8.ofNat b)) bits

/-- A block of bytes; it starts at a byte and gives its length twice. -/
def inflateStored (out : Array UInt8) (bits : Bits) : Inflation :=
  let header : Except Halt (Nat × Nat × Bits) := do
    let (length, bits) ← takeNumber 16 (bits.drop (bits.length % 8))
    let (complement, bits) ← takeNumber 16 bits
    return (length, complement, bits)
  match header with
  | .error h => ⟨out, some h, []⟩
  | .ok (length, complement, bits) =>
    if length + complement != 65535 then ⟨out, some (.corrupt .storedLength), []⟩
    else inflateBytes length out bits

def inflateBlock (kind : Nat) (out : Array UInt8) (bits : Bits) : Inflation :=
  if kind = 0 then inflateStored out bits
  else if kind = 1 then inflateSymbols fixedCodes bits.length out bits
  else if kind = 2 then
    match takeCodes bits with
    | .error h => ⟨out, some h, []⟩
    | .ok (codes, bits) => inflateSymbols codes (bits.length + 1) out bits
  else ⟨out, some (.corrupt .blockType), []⟩

/-- Blocks up to the one marked last; each takes three bits at least. -/
def inflateBlocks : Nat → Array UInt8 → Bits → Array UInt8 × Option Halt
  | 0, out, _ => (out, some .cut)
  | fuel + 1, out, bits =>
    let header : Except Halt (Nat × Nat × Bits) := do
      let (last, bits) ← takeNumber 1 bits
      let (kind, bits) ← takeNumber 2 bits
      return (last, kind, bits)
    match header with
    | .error h => (out, some h)
    | .ok (last, kind, bits) =>
      let block := inflateBlock kind out bits
      if block.halt.isSome || last = 1 then (block.out, block.halt)
      else inflateBlocks fuel block.out block.rest

/-- The bytes that compressed data stands for, with what stopped the reading before its end. -/
def inflate (data : List UInt8) : List UInt8 × Option Halt :=
  let bits := bitsOf data
  let (out, halt) := inflateBlocks (bits.length + 1) #[] bits
  (out.toList, halt)

end QuizPreflight.Archive
