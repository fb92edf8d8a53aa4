import QuizPreflight.Archive.Fault

/-!
# The directory of an archive

A record at the end of an archive tells where its directory is, and the directory describes the
members. Offsets count from the start of the archive proper, which other data may precede. Names
of members are in an old code page, whose lower half is ASCII, unless they are marked otherwise.
-/
namespace QuizPreflight.Archive

open QuizPreflight.Text

/-- The code points of the upper half of the old code page. -/
def upperHalf : List Nat :=
  [0xc7, 0xfc, 0xe9, 0xe2, 0xe4, 0xe0, 0xe5, 0xe7,
   0xea, 0xeb, 0xe8, 0xef, 0xee, 0xec, 0xc4, 0xc5,
   0xc9, 0xe6, 0xc6, 0xf4, 0xf6, 0xf2, 0xfb, 0xf9,
   0xff, 0xd6, 0xdc, 0xa2, 0xa3, 0xa5, 0x20a7, 0x192,
   0xe1, 0xed, 0xf3, 0xfa, 0xf1, 0xd1, 0xaa, 0xba,
   0xbf, 0x2310, 0xac, 0xbd, 0xbc, 0xa1, 0xab, 0xbb,
   0x2591, 0x2592, 0x2593, 0x2502, 0x2524, 0x2561, 0x2562, 0x2556,
   0x2555, 0x2563, 0x2551, 0x2557, 0x255d, 0x255c, 0x255b, 0x2510,
   0x2514, 0x2534, 0x252c, 0x251c, 0x2500, 0x253c, 0x255e, 0x255f,
   0x255a, 0x2554, 0x2569, 0x2566, 0x2560, 0x2550, 0x256c, 0x2567,
   0x2568, 0x2564, 0x2565, 0x2559, 0x2558, 0x2552, 0x2553, 0x256b,
   0x256a, 0x2518, 0x250c, 0x2588, 0x2584, 0x258c, 0x2590, 0x2580,
   0x3b1, 0xdf, 0x393, 0x3c0, 0x3a3, 0x3c3, 0xb5, 0x3c4,
   0x3a6, 0x398, 0x3a9, 0x3b4, 0x221e, 0x3c6, 0x3b5, 0x2229,
   0x2261, 0xb1, 0x2265, 0x2264, 0x2320, 0x2321, 0xf7, 0x2248,
   0xb0, 0x2219, 0xb7, 0x221a, 0x207f, 0xb2, 0x25a0, 0xa0]

def codepageChar (b : UInt8) : Char :=
  if b < 0x80 then Char.ofNat b.toNat
  else Char.ofNat (upperHalf.getD (b.toNat - 0x80) 0)

def decodeCodepage (bytes : List UInt8) : List Char := bytes.map codepageChar

abbrev Bytes := Array UInt8

def slice (a : Bytes) (start size : Nat) : List UInt8 := (a.extract start (start + size)).toList

/-- The number in some bytes, the lowest first. -/
def numberOf (bytes : List UInt8) : Nat := bytes.foldr (fun b n => b.toNat + 256 * n) 0

def numberAt (a : Bytes) (start size : Nat) : Nat := numberOf (slice a start size)

def endMark : List UInt8 := [0x50, 0x4b, 5, 6]

def bigLocatorMark : List UInt8 := [0x50, 0x4b, 6, 7]

def bigEndMark : List UInt8 := [0x50, 0x4b, 6, 6]

def directoryMark : List UInt8 := [0x50, 0x4b, 1, 2]

def headerMark : List UInt8 := [0x50, 0x4b, 3, 4]

def endSize : Nat := 22

def bigLocatorSize : Nat := 20

def bigEndSize : Nat := 56

def entrySize : Nat := 46

def headerSize : Nat := 30

def maxCommentSize : Nat := 65536

/-- Where the directory ends in an archive, its size, and the offset it is said to have. -/
structure EndRecord where
  stop : Nat
  size : Nat
  offset : Nat
  deriving DecidableEq, Repr

/-- The last place of a mark among the last so many positions below one. -/
def lastMark? (a : Bytes) (mark : List UInt8) (start : Nat) : Nat → Option Nat
  | 0 => none
  | n + 1 =>
    if slice a (start + n) mark.length = mark then some (start + n)
    else lastMark? a mark start n

/-- Where the end record begins: right at the end of the archive, or before a comment. -/
def findEnd? (a : Bytes) : Option Nat :=
  if a.size < endSize then none
  else
    let last := a.size - endSize
    if slice a last 4 = endMark && slice a (a.size - 2) 2 = [0, 0] then some last
    else
      let start := a.size - (maxCommentSize + endSize)
      (lastMark? a endMark start (a.size - start)).bind fun i =>
        if i + endSize ≤ a.size then some i else none

/-- The end record, its large form preferred where there is one. -/
def readEnd (a : Bytes) : Except Fault EndRecord :=
  match findEnd? a with
  | none => .error .notArchive
  | some i =>
    let small : EndRecord := ⟨i, numberAt a (i + 12) 4, numberAt a (i + 16) 4⟩
    if i < bigLocatorSize then .ok small
    else
      let locator := i - bigLocatorSize
      if slice a locator 4 != bigLocatorMark then .ok small
      else if numberAt a (locator + 4) 4 != 0 || 1 < numberAt a (locator + 16) 4 then
        .error .severalDisks
      else if locator < bigEndSize then .error .notArchive
      else
        let big := locator - bigEndSize
        if slice a big 4 != bigEndMark then .ok small
        else .ok ⟨big, numberAt a (big + 40) 8, numberAt a (big + 48) 8⟩

/-- A member as the directory describes it. -/
structure Member where
  /-- The name as it is written; what is used ends before the first zero character. -/
  rawName : List Char
  flags : Nat
  method : Nat
  checksum : UInt32
  storedSize : Nat
  size : Nat
  attributes : Nat
  /-- Where its header begins, and where its data has to end. -/
  header : Int
  bound : Int
  deriving DecidableEq

def Member.name (m : Member) : List Char := m.rawName.takeWhile (· != '\x00')

def Member.isFolder (m : Member) : Bool := m.name.getLast? == some '/'

def Member.hasFlag (m : Member) (bit : Nat) : Bool := m.flags.testBit bit

/-- The flag that a name is not in the old code page. -/
def unicodeFlag : Nat := 11

def decodeName (flags : Nat) (bytes : List UInt8) : Except Fault (List Char) :=
  if flags.testBit unicodeFlag then (Utf8.decode bytes).mapError .nameEncoding
  else .ok (decodeCodepage bytes)

def fullWord : Nat := 0xffffffff

def fullLong : Nat := 0xffffffffffffffff

/-- The next number of eight bytes in an extra field. -/
def takeLong (field : String) (data : List UInt8) : Except Fault (Nat × List UInt8) :=
  if data.length < 8 then .error (.extraSize field)
  else .ok (numberOf (data.take 8), data.drop 8)

/-- Sizes and offset that do not fit their places in an entry. -/
def Member.enlarge (m : Member) (data : List UInt8) : Except Fault Member := do
  let (m, data) ←
    if m.size = fullWord || m.size = fullLong then do
      let (n, data) ← takeLong "File size" data
      pure ({ m with size := n }, data)
    else pure (m, data)
  let (m, data) ←
    if m.storedSize = fullWord then do
      let (n, data) ← takeLong "Compress size" data
      pure ({ m with storedSize := n }, data)
    else pure (m, data)
  if m.header = fullWord then do
    let (n, _) ← takeLong "Header offset" data
    return { m with header := n }
  else return m

/-- Takes in the extra fields of an entry; each takes four bytes at least. -/
def Member.readExtra : Nat → Member → List UInt8 → Except Fault Member
  | 0, m, _ => .ok m
  | fuel + 1, m, extra =>
    if extra.length < 4 then .ok m
    else
      let id := numberOf (extra.take 2)
      let size := numberOf ((extra.drop 2).take 2)
      let data := extra.drop 4
      if data.length < size then .error (.extraField id size)
      else do
        let m ← if id = 1 then m.enlarge (data.take size) else pure m
        m.readExtra fuel (data.drop size)

/-- Versions above this one are not understood. -/
def maxVersion : Nat := 63

/-- The entry of a directory at a place below its end, and the size it claims. -/
def readEntry (a : Bytes) (start stop : Nat) : Except Fault (Member × Nat) := do
  if stop < start + entrySize then throw .truncatedDirectory
  if slice a start 4 != directoryMark then throw .directoryMark
  let nameSize := numberAt a (start + 28) 2
  let extraSize := numberAt a (start + 30) 2
  let commentSize := numberAt a (start + 32) 2
  let flags := numberAt a (start + 8) 2
  let within (place size : Nat) : List UInt8 := slice a place (min size (stop - place))
  let name ← decodeName flags (within (start + entrySize) nameSize)
  let version := numberAt a (start + 6) 1
  if maxVersion < version then throw (.version version)
  let m : Member :=
    { rawName := name
      flags := flags
      method := numberAt a (start + 10) 2
      checksum := UInt32.ofNat (numberAt a (start + 16) 4)
      storedSize := numberAt a (start + 20) 4
      size := numberAt a (start + 24) 4
      attributes := numberAt a (start + 38) 4
      header := numberAt a (start + 42) 4
      bound := 0 }
  let extra := within (start + entrySize + nameSize) extraSize
  return (← m.readExtra extra.length extra, entrySize + nameSize + extraSize + commentSize)

/-- The entries from a place up to the end of the directory. -/
def readEntries (a : Bytes) (stop : Nat) : Nat → Nat → Except Fault (List Member)
  | 0, _ => .ok []
  | fuel + 1, start =>
    if stop ≤ start then .ok []
    else do
      let (m, size) ← readEntry a start stop
      return m :: (← readEntries a stop fuel (start + size))

/-- The bounds of members, given with their places, from the last in the archive on. -/
def boundsFrom (bound : Int) : List (Nat × Int) → List (Nat × Int)
  | [] => []
  | (index, header) :: rest => (index, bound) :: boundsFrom header rest

/-- The data of a member ends before the next header, or before the directory. -/
def bounded (stop : Int) (ms : List Member) : List Member :=
  let places := (ms.zipIdx.map fun (m, i) => (i, m.header)).mergeSort fun x y => y.2 ≤ x.2
  let bounds := (boundsFrom stop places).mergeSort fun x y => x.1 ≤ y.1
  (ms.zip bounds).map fun (m, b) => { m with bound := b.2 }

/-- The members of an archive in the order of its directory. -/
def readMembers (a : Bytes) : Except Fault (List Member) := do
  let record ← readEnd a
  if record.stop < record.size then throw .directoryOffset
  let start := record.stop - record.size
  let before : Int := (start : Int) - record.offset
  let ms ← readEntries a record.stop (record.size + 1) start
  return bounded start (ms.map fun m => { m with header := m.header + before })

end QuizPreflight.Archive
