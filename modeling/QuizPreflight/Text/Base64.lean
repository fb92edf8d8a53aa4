/-!
# Base 64

Four characters stand for three bytes. Characters outside the alphabet are skipped, and a
padding that completes a group ends the text.
-/
namespace QuizPreflight.Text.Base64

def value? (c : Char) : Option Nat :=
  if 'A' ≤ c && c ≤ 'Z' then some (c.toNat - 'A'.toNat)
  else if 'a' ≤ c && c ≤ 'z' then some (c.toNat - 'a'.toNat + 26)
  else if '0' ≤ c && c ≤ '9' then some (c.toNat - '0'.toNat + 52)
  else if c == '+' then some 62
  else if c == '/' then some 63
  else none

/-- A group under way: how many characters it has, the bits left over and the padding seen. -/
structure Group where
  filled : Nat
  bits : Nat
  pads : Nat

/-- The bytes from a group on, in front of those read before it; a group may not end short. -/
def decodeFrom (g : Group) (bytes : List UInt8) : List Char → Option (List UInt8)
  | [] => if g.filled = 0 then some bytes.reverse else none
  | c :: rest =>
    if c == '=' then
      let pads := g.pads + 1
      if 2 ≤ g.filled && 4 ≤ g.filled + pads then some bytes.reverse
      else decodeFrom { g with pads := if 2 ≤ g.filled then pads else g.pads } bytes rest
    else match value? c with
      | none => decodeFrom g bytes rest
      | some v =>
        match g.filled with
        | 0 => decodeFrom ⟨1, v, 0⟩ bytes rest
        | 1 => decodeFrom ⟨2, v % 16, 0⟩ (UInt8.ofNat (g.bits * 4 + v / 16) :: bytes) rest
        | 2 => decodeFrom ⟨3, v % 4, 0⟩ (UInt8.ofNat (g.bits * 16 + v / 4) :: bytes) rest
        | _ => decodeFrom ⟨0, 0, 0⟩ (UInt8.ofNat (g.bits * 64 + v) :: bytes) rest

def decode? (s : List Char) : Option (List UInt8) := decodeFrom ⟨0, 0, 0⟩ [] s

def symbol (n : Nat) : Char :=
  if n < 26 then Char.ofNat ('A'.toNat + n)
  else if n < 52 then Char.ofNat ('a'.toNat + (n - 26))
  else if n < 62 then Char.ofNat ('0'.toNat + (n - 52))
  else if n = 62 then '+' else '/'

def encode : List UInt8 → List Char
  | [] => []
  | [a] => [symbol (a.toNat / 4), symbol (a.toNat % 4 * 16), '=', '=']
  | [a, b] =>
    [symbol (a.toNat / 4), symbol (a.toNat % 4 * 16 + b.toNat / 16),
      symbol (b.toNat % 16 * 4), '=']
  | a :: b :: c :: rest =>
    symbol (a.toNat / 4) :: symbol (a.toNat % 4 * 16 + b.toNat / 16) ::
      symbol (b.toNat % 16 * 4 + c.toNat / 64) :: symbol (c.toNat % 64) :: encode rest

end QuizPreflight.Text.Base64
