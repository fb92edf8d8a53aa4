import QuizPreflight.Proofs.Text.Encoding
import QuizPreflight.Text.Utf8

/-!
# Percent-encoded texts

A text is percent-encoded by writing the bytes of any of its characters with percent signs. The
percent sign itself has to be written so, and so have the characters that end a path. Decoding
gives the text back whichever of the others are encoded.
-/
namespace QuizPreflight.Text

namespace Utf8

/-- A text is what its own encoding is leniently read as. -/
theorem decodeLenient_encode (s : List Char) : decodeLenient (encode s) = s := by
  induction s with
  | nil => rw [encode, List.flatMap_nil, decodeLenient]
  | cons c s ih =>
    obtain ⟨a, more, hchar, hfront⟩ := front_encodeChar c (encode s)
    rw [encode, List.flatMap_cons, hchar, List.cons_append, ← encode, decodeLenient]
    split
    · next found rest hfound =>
      rw [hfront] at hfound
      obtain ⟨rfl, rfl⟩ := Front.char.inj hfound
      rw [ih]
    · next hfound =>
      rw [hfront] at hfound
      cases hfound

lemma encode_append (s t : List Char) : encode (s ++ t) = encode s ++ encode t :=
  List.flatMap_append

lemma encode_singleton (c : Char) : encode [c] = encodeChar c := List.flatMap_singleton ..

lemma encodeChar_of_ascii {c : Char} (h : c.toNat < 128) : encodeChar c = [UInt8.ofNat c.toNat] :=
  if_pos h

end Utf8

/-- The characters that a path cannot hold as they are. -/
def reserved : List Char := ['%', '#', '?']

/-- A hexadecimal digit in either case. -/
def IsHexDigit (n : Nat) (c : Char) : Prop :=
  n < 16 ∧ (c = Nat.digitChar n ∨ c = (Nat.digitChar n).toUpper)

/-- Bytes, each with a percent sign and two digits. -/
inductive EscapesBytes : List UInt8 → List Char → Prop
  | nil : EscapesBytes [] []
  | byte {b : UInt8} {bytes : List UInt8} {high low : Char} {t : List Char}
      (hhigh : IsHexDigit (b.toNat / 16) high) (hlow : IsHexDigit (b.toNat % 16) low)
      (rest : EscapesBytes bytes t) : EscapesBytes (b :: bytes) ('%' :: high :: low :: t)

/-- A text of which some characters are encoded, all the reserved ones among them. -/
inductive Encodes : List Char → List Char → Prop
  | nil : Encodes [] []
  | plain {c : Char} {s t : List Char} (free : c ∉ reserved) (rest : Encodes s t) :
      Encodes (c :: s) (c :: t)
  | escaped {c : Char} {s code t : List Char} (bytes : EscapesBytes (Utf8.encodeChar c) code)
      (rest : Encodes s t) : Encodes (c :: s) (code ++ t)

variable {n : Nat} {c : Char} {s t code : List Char} {bytes run : List UInt8}

lemma IsHexDigit.value (h : IsHexDigit n c) : hexDigitValue? c = some n := by
  obtain ⟨hn, hc⟩ := h
  have hlower : ∀ n < 16, hexDigitValue? (Nat.digitChar n) = some n := by decide
  have hupper : ∀ n < 16, hexDigitValue? (Nat.digitChar n).toUpper = some n := by decide
  rcases hc with rfl | rfl
  · exact hlower n hn
  · exact hupper n hn

/-- What is no hexadecimal digit is different from each of them. -/
lemma IsHexDigit.ne {d : Char} (h : IsHexDigit n c) (hd : hexDigitValue? d = none) : c ≠ d := by
  rintro rfl
  rw [h.value] at hd
  cases hd

/-! ### Decoding -/

lemma percentDecodeFrom_nil (run : List UInt8) :
    percentDecodeFrom run [] = Utf8.decodeLenient run.reverse := by
  rw [percentDecodeFrom]

lemma percentDecodeFrom_ascii (hc : c ≠ '%') (hascii : c.toNat < 128) :
    percentDecodeFrom run (c :: t) = percentDecodeFrom (UInt8.ofNat c.toNat :: run) t := by
  rw [percentDecodeFrom, if_pos hascii]
  rintro a b rest rfl
  exact absurd rfl hc

lemma percentDecodeFrom_other (hc : c ≠ '%') (hother : ¬c.toNat < 128) :
    percentDecodeFrom run (c :: t) =
      Utf8.decodeLenient run.reverse ++ c :: percentDecodeFrom [] t := by
  rw [percentDecodeFrom, if_neg hother]
  rintro a b rest rfl
  exact absurd rfl hc

/-- Encoded bytes join the run before them. -/
lemma percentDecodeFrom_escaped (h : EscapesBytes bytes code) (run : List UInt8) (t : List Char) :
    percentDecodeFrom run (code ++ t) = percentDecodeFrom (bytes.reverse ++ run) t := by
  induction h generalizing run with
  | nil => rfl
  | @byte b bytes high low code hhigh hlow _ ih =>
    have hb : b.toNat / 16 * 16 + b.toNat % 16 = b.toNat := by omega
    rw [List.cons_append, List.cons_append, List.cons_append, percentDecodeFrom, hhigh.value,
      hlow.value]
    dsimp only
    rw [hb, UInt8.ofNat_toNat, ih, List.reverse_cons, List.append_assoc, List.singleton_append]

/-- The run that is under way is the encoding of what has been read since it began. -/
theorem percentDecodeFrom_encodes (h : Encodes s t) (before : List Char) :
    percentDecodeFrom (Utf8.encode before).reverse t = before ++ s := by
  induction h generalizing before with
  | nil =>
    rw [percentDecodeFrom_nil, List.reverse_reverse, Utf8.decodeLenient_encode, List.append_nil]
  | @plain c s t free _ ih =>
    have hc : c ≠ '%' := by
      rintro rfl
      exact free List.mem_cons_self
    by_cases hascii : c.toNat < 128
    · have hrun : UInt8.ofNat c.toNat :: (Utf8.encode before).reverse =
          (Utf8.encode (before ++ [c])).reverse := by
        rw [Utf8.encode_append, Utf8.encode_singleton, Utf8.encodeChar_of_ascii hascii,
          List.reverse_append, List.reverse_singleton, List.singleton_append]
      rw [percentDecodeFrom_ascii hc hascii, hrun, ih, List.append_assoc, List.singleton_append]
    · -- a character that is no ASCII ends the run, and another one begins
      rw [percentDecodeFrom_other hc hascii, List.reverse_reverse, Utf8.decodeLenient_encode]
      exact congrArg (before ++ c :: ·) (ih [])
  | @escaped c s code t bytes _ ih =>
    have hrun : (Utf8.encodeChar c).reverse ++ (Utf8.encode before).reverse =
        (Utf8.encode (before ++ [c])).reverse := by
      rw [Utf8.encode_append, Utf8.encode_singleton, List.reverse_append]
    rw [percentDecodeFrom_escaped bytes, hrun, ih, List.append_assoc, List.singleton_append]

theorem percentDecode_of_encodes (h : Encodes s t) : percentDecode t = s :=
  percentDecodeFrom_encodes h []

/-! ### Characters that are always encoded -/

lemma EscapesBytes.notMem {d : Char} (h : EscapesBytes bytes code) (hd : hexDigitValue? d = none)
    (hpercent : d ≠ '%') : d ∉ code := by
  induction h with
  | nil => exact List.not_mem_nil
  | byte hhigh hlow _ ih =>
    simp only [List.mem_cons, not_or]
    exact ⟨hpercent, (hhigh.ne hd).symm, (hlow.ne hd).symm, ih⟩

/-- Neither of the two characters that end a path is left in an encoded text. -/
theorem Encodes.notMem {d : Char} (h : Encodes s t) (hd : d ∈ ['#', '?']) : d ∉ t := by
  have hreserved : d ∈ reserved := List.mem_cons_of_mem _ hd
  have hdigit : hexDigitValue? d = none ∧ d ≠ '%' := by
    simp only [List.mem_cons, List.not_mem_nil, or_false] at hd
    rcases hd with rfl | rfl <;> decide
  induction h with
  | nil => exact List.not_mem_nil
  | @plain c s t free _ ih =>
    rw [List.mem_cons, not_or]
    refine ⟨?_, ih⟩
    rintro rfl
    exact free hreserved
  | escaped bytes _ ih =>
    rw [List.mem_append, not_or]
    exact ⟨bytes.notMem hdigit.1 hdigit.2, ih⟩

end QuizPreflight.Text
