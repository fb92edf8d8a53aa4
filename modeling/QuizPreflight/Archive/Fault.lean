import QuizPreflight.Archive.Inflate
import QuizPreflight.Archive.Lzma
import QuizPreflight.Text.Quoted
import QuizPreflight.Text.Utf8

/-!
# Faults of an archive

Why an archive or one of its members cannot be read.
-/
namespace QuizPreflight.Archive

open QuizPreflight.Text

inductive Fault where
  | notArchive
  | severalDisks
  | directoryOffset
  | truncatedDirectory
  | directoryMark
  | version (tenths : Nat)
  | extraField (id size : Nat)
  | extraSize (field : String)
  | headerOffset
  /-- A place that no signed number of 64 bits tells. -/
  | offsetRange
  | truncatedHeader
  | headerMark
  | patched
  | strongEncryption
  | nameDiffers (name : List Char) (inHeader : List UInt8)
  | overlap (name : List Char)
  | encrypted (description : String)
  | method
  | checksum (name : List Char)
  | nameEncoding (f : Utf8.Fault)
  | corrupt (c : Corruption)
  | unsorted
  | rangeCode (f : Lzma.Fault)
  /-- The archive ends before the data of a member does. -/
  | cutOff

def escapeByte (quote : Char) (b : UInt8) : List Char :=
  if b < 0x80 then
    let c := Char.ofNat b.toNat
    if c == quote || c == '\\' then ['\\', c]
    else if c == '\n' then ['\\', 'n']
    else if c == '\r' then ['\\', 'r']
    else if c == '\t' then ['\\', 't']
    else if 0x20 ≤ b && b < 0x7f then [c]
    else '\\' :: 'x' :: hexDigits 2 b.toNat
  else '\\' :: 'x' :: hexDigits 2 b.toNat

/-- Bytes in quotes, chosen and escaped like those of a text, after a mark of their own. -/
def quotedBytes (bytes : List UInt8) : List Char :=
  let quote := if bytes.contains 0x27 && !bytes.contains 0x22 then '"' else '\''
  'b' :: quote :: (bytes.flatMap (escapeByte quote) ++ [quote])

def quotedName (name : List Char) : String := String.ofList (quoted name)

def Fault.message : Fault → String
  | .notArchive => "File is not a zip file"
  | .severalDisks => "zipfiles that span multiple disks are not supported"
  | .directoryOffset => "Bad offset for central directory"
  | .truncatedDirectory => "Truncated central directory"
  | .directoryMark => "Bad magic number for central directory"
  | .version tenths => s!"zip file version {tenths / 10}.{tenths % 10}"
  | .extraField id size =>
    s!"Corrupt extra field {String.ofList (hexDigits 4 id)} (size={size})"
  | .extraSize field => s!"Corrupt zip64 extra field. {field} not found."
  | .headerOffset => "[Errno 22] Invalid argument"
  | .offsetRange => "cannot fit 'int' into an offset-sized integer"
  | .truncatedHeader => "Truncated file header"
  | .headerMark => "Bad magic number for file header"
  | .patched => "compressed patched data (flag bit 5)"
  | .strongEncryption => "strong encryption (flag bit 6)"
  | .nameDiffers name inHeader =>
    s!"File name in directory {quotedName name} and header {String.ofList (quotedBytes inHeader)} differ."
  | .overlap name => s!"Overlapped entries: {quotedName name} (possible zip bomb)"
  | .encrypted description =>
    s!"File {description} is encrypted, password required for extraction"
  | .method => "That compression method is not supported"
  | .checksum name => s!"Bad CRC-32 for file {quotedName name}"
  | .nameEncoding f => f.message
  | .corrupt c => s!"Error -3 while decompressing data: {c.text}"
  | .unsorted => "Invalid data stream"
  | .rangeCode f => f.text
  | .cutOff => ""

/-- The faults by which an archive is known to be unusable; the others come up unexpectedly. -/
def Fault.isExpected : Fault → Bool
  | .offsetRange | .nameEncoding _ | .corrupt _ | .rangeCode _ | .cutOff => false
  | _ => true

end QuizPreflight.Archive
