import QuizPreflight.Archive.Bzip
import QuizPreflight.Archive.Directory

/-!
# Contents of members

The header of a member repeats its name and stands before its data. The data is stored as it is
or compressed, and a checksum tells whether it is intact: a cyclic redundancy check of 32 bits,
over reflected bytes.
-/
namespace QuizPreflight.Archive

open QuizPreflight.Text

def checksumPolynomial : UInt32 := 0xedb88320

/-- One bit of a remainder is divided away. -/
def checksumBit (r : UInt32) : UInt32 :=
  if r &&& 1 = 1 then (r >>> 1) ^^^ checksumPolynomial else r >>> 1

def checksumByte (r : UInt32) (b : UInt8) : UInt32 :=
  let r := r ^^^ b.toUInt32
  checksumBit (checksumBit (checksumBit (checksumBit
    (checksumBit (checksumBit (checksumBit (checksumBit r)))))))

def checksum (bytes : List UInt8) : UInt32 := bytes.foldl checksumByte 0xffffffff ^^^ 0xffffffff

/-- The letter for a kind of file, by the highest four bits of its mode. -/
def kindLetter (mode : Nat) : Char :=
  ([(1, 'p'), (2, 'c'), (4, 'd'), (6, 'b'), (8, '-'), (10, 'l'), (12, 's')].lookup
    (mode / 0x1000)).getD '?'

/-- The three letters of one class of users; a special bit changes the last one. -/
def permissionLetters (bits : Nat) (special : Bool) (mark : Char) : List Char :=
  let run := bits.testBit 0
  [if bits.testBit 2 then 'r' else '-', if bits.testBit 1 then 'w' else '-',
   if special then (if run then mark else mark.toUpper) else if run then 'x' else '-']

/-- A file mode in letters. -/
def modeLetters (mode : Nat) : List Char :=
  kindLetter mode :: (permissionLetters (mode / 64) (mode.testBit 11) 's' ++
    permissionLetters (mode / 8) (mode.testBit 10) 's' ++
    permissionLetters mode (mode.testBit 9) 't')

def methodNames : List (Nat × String) :=
  [(1, "shrink"), (2, "reduce"), (3, "reduce"), (4, "reduce"), (5, "reduce"), (6, "implode"),
   (7, "tokenize"), (8, "deflate"), (9, "deflate64"), (10, "implode"), (12, "bzip2"),
   (14, "lzma"), (18, "terse"), (19, "lz77"), (97, "wavpack"), (98, "ppmd")]

def storedMethod : Nat := 0

def deflateMethod : Nat := 8

def bzipMethod : Nat := 12

def lzmaMethod : Nat := 14

def methodName (method : Nat) : String := (methodNames.lookup method).getD (toString method)

/-- A number in the fewest hexadecimal digits. -/
def hexNumber (n : Nat) : String := String.ofList ((Nat.toDigits 16 n).map Char.toLower)

/-- A member in words; what is zero or goes without saying is left out. -/
def Member.description (m : Member) : String :=
  let mode := m.attributes / 0x10000
  let other := m.attributes % 0x10000
  "<ZipInfo filename=" ++ quotedName m.name ++
  (if m.method = storedMethod then "" else s!" compress_type={methodName m.method}") ++
  (if mode = 0 then "" else " filemode=" ++ quotedName (modeLetters mode)) ++
  (if other = 0 then "" else s!" external_attr=0x{hexNumber other}") ++
  (if m.isFolder && m.size = 0 then "" else s!" file_size={m.size}") ++
  (if (m.isFolder && m.storedSize = 0) || (m.method = storedMethod && m.size = m.storedSize) then
    "" else s!" compress_size={m.storedSize}") ++
  ">"

def encryptedFlag : Nat := 0

def patchedFlag : Nat := 5

def strongEncryptionFlag : Nat := 6

/-- The data of a member as it is stored, and whether the archive ends too early for it. -/
structure Stored where
  data : List UInt8
  isCut : Bool

/-- Places in a file are signed numbers of 64 bits. -/
def isOffset (n : Int) : Bool := -0x8000000000000000 ≤ n && n < 0x8000000000000000

/-- The stored data of a member, its header having been checked. -/
def Member.stored (m : Member) (a : Bytes) : Except Fault Stored := do
  if !isOffset m.header then throw .offsetRange
  if m.header < 0 then throw .headerOffset
  let start := m.header.toNat
  if a.size < start + headerSize then throw .truncatedHeader
  if slice a start 4 != headerMark then throw .headerMark
  let nameSize := numberAt a (start + 26) 2
  let inHeader := slice a (start + headerSize) nameSize
  let begins := min a.size (start + headerSize + nameSize + numberAt a (start + 28) 2)
  if m.hasFlag patchedFlag then throw .patched
  if m.hasFlag strongEncryptionFlag then throw .strongEncryption
  let name ← decodeName (numberAt a (start + 6) 2) inHeader
  if name != m.rawName then throw (.nameDiffers m.rawName inHeader)
  if m.bound < (begins : Int) + m.storedSize then throw (.overlap m.rawName)
  if m.hasFlag encryptedFlag then throw (.encrypted m.description)
  if !([storedMethod, deflateMethod, bzipMethod, lzmaMethod].contains m.method) then
    throw .method
  let data := slice a begins m.storedSize
  return ⟨data, data.length < m.storedSize⟩

/-- Data is written in pieces of this size, each once it is complete. -/
def pieceSize : Nat := 65536

/-- What is written of a member, and the fault that ended the writing. -/
structure Written where
  bytes : List UInt8
  fault : Option Fault

/-- The complete pieces in front of the last one. -/
def earlierPieces (bytes : List UInt8) : List UInt8 :=
  bytes.take ((bytes.length - 1) / pieceSize * pieceSize)

/-- Content whose checksum is wrong lacks its last piece. -/
def Member.verify (m : Member) (content : List UInt8) : Written :=
  if Archive.checksum content = m.checksum then ⟨content, none⟩
  else ⟨earlierPieces content, some (.checksum m.name)⟩

/-- What data stands for that is stored as it is. -/
def Member.copy (m : Member) (s : Stored) : Written :=
  if s.isCut && (s.data.isEmpty || s.data.length < m.size) then
    ⟨s.data.take (min m.size (s.data.length / pieceSize * pieceSize)), some .cutOff⟩
  else m.verify (s.data.take m.size)

/-- What compressed data stands for. Corrupt data that is not needed goes unnoticed; of data that
is cut off, what follows the first piece is not read. -/
def Member.expand (m : Member) (s : Stored) : Written :=
  match inflate s.data with
  | (out, some (.corrupt c)) =>
    let pieces := out.length / pieceSize * pieceSize
    if pieces = 0 || pieces < m.size then ⟨out.take (min m.size pieces), some (.corrupt c)⟩
    else m.verify (out.take m.size)
  | (out, some .cut) =>
    if s.isCut && (s.data.isEmpty || min out.length pieceSize < m.size) then
      ⟨out.take (min m.size (min (out.length / pieceSize) 1 * pieceSize)), some .cutOff⟩
    else m.verify (out.take m.size)
  | (out, none) => m.verify (out.take m.size)

/-- What data stands for that is unpacked in one go to some bytes, to their end or not. Content
whose checksum is wrong is not written at all. -/
def Member.accept (m : Member) (isCut isEnded : Bool) (out : List UInt8) : Written :=
  if isCut && !isEnded && out.length < m.size then
    ⟨out.take (min m.size (out.length / pieceSize * pieceSize)), some .cutOff⟩
  else
    let written := m.verify (out.take m.size)
    if written.fault.isNone then written else ⟨[], written.fault⟩

/-- What block-sorted data stands for. -/
def Member.unsort (m : Member) (s : Stored) : Written :=
  if s.isCut && s.data.isEmpty then ⟨[], some .cutOff⟩
  else match Bzip.unpack s.data with
    | (_, some .invalid) => ⟨[], some .unsorted⟩
    | (out, stop) => m.accept s.isCut stop.isNone out

/-- What range-coded data stands for. -/
def Member.decode (m : Member) (s : Stored) : Written :=
  if s.isCut && s.data.isEmpty then ⟨[], some .cutOff⟩
  else match Lzma.unpack s.data with
    | .error f => ⟨[], some (.rangeCode f)⟩
    | .ok (_, some .invalid) => ⟨[], some (.rangeCode .corrupt)⟩
    | .ok (out, stop) => m.accept s.isCut stop.isNone out

/-- What stored data stands for, never more than the size of the member. -/
def Member.unpack (m : Member) (s : Stored) : Written :=
  if m.method = storedMethod then m.copy s
  else if m.method = bzipMethod then m.unsort s
  else if m.method = lzmaMethod then m.decode s
  else m.expand s

theorem length_verify_le (m : Member) (content : List UInt8) :
    (m.verify content).bytes.length ≤ content.length := by
  simp only [Member.verify]
  split
  · simp
  · simp only [earlierPieces, List.length_take]; omega

theorem length_verify_take_le (m : Member) (content : List UInt8) :
    (m.verify (content.take m.size)).bytes.length ≤ m.size := by
  have := length_verify_le m (content.take m.size)
  simp only [List.length_take] at this
  omega

theorem length_copy_le (m : Member) (s : Stored) : (m.copy s).bytes.length ≤ m.size := by
  simp only [Member.copy]
  split
  · simp only [List.length_take]; omega
  · exact length_verify_take_le m s.data

theorem length_expand_le (m : Member) (s : Stored) : (m.expand s).bytes.length ≤ m.size := by
  simp only [Member.expand]
  split
  · split
    · simp only [List.length_take]; omega
    · exact length_verify_take_le m _
  · split
    · simp only [List.length_take]; omega
    · exact length_verify_take_le m _
  · exact length_verify_take_le m _

theorem length_accept_le (m : Member) (isCut isEnded : Bool) (out : List UInt8) :
    (m.accept isCut isEnded out).bytes.length ≤ m.size := by
  simp only [Member.accept]
  split
  · simp only [List.length_take]; omega
  · split
    · exact length_verify_take_le m out
    · simp

theorem length_unsort_le (m : Member) (s : Stored) : (m.unsort s).bytes.length ≤ m.size := by
  simp only [Member.unsort]
  split
  · simp
  · split
    · simp
    · exact length_accept_le ..

theorem length_decode_le (m : Member) (s : Stored) : (m.decode s).bytes.length ≤ m.size := by
  simp only [Member.decode]
  split
  · simp
  · split
    · simp
    · simp
    · exact length_accept_le ..

theorem length_unpack_le (m : Member) (s : Stored) : (m.unpack s).bytes.length ≤ m.size := by
  simp only [Member.unpack]
  split
  · exact length_copy_le m s
  · split
    · exact length_unsort_le m s
    · split
      · exact length_decode_le m s
      · exact length_expand_le m s

end QuizPreflight.Archive
