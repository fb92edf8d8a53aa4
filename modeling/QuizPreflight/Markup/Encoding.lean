import QuizPreflight.Markup.Name
import QuizPreflight.Text.Utf8

/-!
# Two-byte documents

A document can only begin with ASCII characters. So a zero among its first two bytes tells that
its characters take two bytes each, and in which order.
-/
namespace QuizPreflight.Markup

open QuizPreflight.Text

inductive ByteOrder where
  | big
  | little
  deriving DecidableEq

def byteOrder? : List UInt8 → Option ByteOrder
  | 0 :: _ => some .big
  | _ :: 0 :: _ => some .little
  | _ => none

/-- The units of two bytes; a byte left over is dropped. -/
def unitsOf (order : ByteOrder) : List UInt8 → List Nat
  | a :: b :: rest =>
    (if order = .big then a.toNat * 256 + b.toNat else b.toNat * 256 + a.toNat) ::
      unitsOf order rest
  | _ => []

/-- Stands for units that are no character; it may not occur in a document. -/
def noCharacter : Char := '\ufffe'

/-- Two units from the surrogate ranges make one character. -/
def charsOfUnits : List Nat → List Char
  | [] => []
  | [u] => [if 0xd800 ≤ u && u < 0xe000 then noCharacter else Char.ofNat u]
  | u :: v :: rest =>
    if 0xd800 ≤ u && u < 0xdc00 && 0xdc00 ≤ v && v < 0xe000 then
      Char.ofNat (0x10000 + (u - 0xd800) * 0x400 + (v - 0xdc00)) :: charsOfUnits rest
    else
      (if 0xd800 ≤ u && u < 0xe000 then noCharacter else Char.ofNat u) :: charsOfUnits (v :: rest)

/-- The characters of a document, and whether it breaks off in the middle of one. -/
structure Source where
  chars : List Char
  isCut : Bool

/-- Only the first two characters are looked at unless one of them is the zero character. -/
def sourceOf (s : List Char) : Source :=
  match byteOrder? (Utf8.encode (s.take 2)) with
  | none => ⟨s, false⟩
  | some order =>
    let bytes := Utf8.encode s
    ⟨charsOfUnits (unitsOf order bytes), bytes.length % 2 = 1⟩

end QuizPreflight.Markup
