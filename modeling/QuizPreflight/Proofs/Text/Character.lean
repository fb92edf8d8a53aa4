import Mathlib.Order.Nat
import QuizPreflight.Text.Character

/-!
# Classes of characters

What holds of the ASCII characters is a finite check. The digits of a script are the ten characters
from its zero on, and the tables of zeros and of blanks are apart.
-/
namespace QuizPreflight.Text

variable {c : Char} {v : Nat}

lemma isBlank_space : isBlank ' ' = true := by decide

lemma forall_ascii {P : Char → Prop} (h : ∀ n < 128, P (Char.ofNat n)) (hc : c.toNat < 128) :
    P c := by
  have hself := h c.toNat hc
  rwa [Char.ofNat_toNat] at hself

/-- A bound on the ends of all ranges is one on the characters in them. -/
lemma toNat_lt_of_inRanges {ranges : List (Nat × Nat)} {bound : Nat}
    (h : (ranges.all fun r => r.2 < bound) = true) (hc : inRanges ranges c = true) :
    c.toNat < bound := by
  obtain ⟨r, hr, hbetween⟩ := List.any_eq_true.mp hc
  have hend := of_decide_eq_true (List.all_eq_true.mp h r hr)
  exact lt_of_le_of_lt (of_decide_eq_true (Bool.and_eq_true_iff.mp hbetween).2) hend

lemma toNat_lt_of_isAlphanum (h : c.isAlphanum = true) : c.toNat < 128 := by
  rcases Bool.or_eq_true_iff.mp h with h | h
  · rcases Bool.or_eq_true_iff.mp h with h | h
    · have hupper : c.val ≤ 'Z'.val := (of_decide_eq_true h).2
      exact lt_of_le_of_lt (UInt32.le_iff_toNat_le.mp hupper) (by decide)
    · have hlower : c.val ≤ 'z'.val := of_decide_eq_true (Bool.and_eq_true_iff.mp h).2
      exact lt_of_le_of_lt (UInt32.le_iff_toNat_le.mp hlower) (by decide)
  · exact lt_of_le_of_lt (Char.isDigit_iff_toNat.mp h).2 (by decide)

lemma toNat_lt_of_isAsciiLetter (h : isAsciiLetter c = true) : c.toNat < 128 :=
  toNat_lt_of_isAlphanum (Bool.or_eq_true_iff.mpr (.inl h))

lemma isBlank_of_isAsciiLetter (h : isAsciiLetter c = true) : isBlank c = false :=
  forall_ascii (P := fun c => isAsciiLetter c = true → isBlank c = false) (by decide)
    (toNat_lt_of_isAsciiLetter h) h

/-- A digit is one of the ten from the zero of its script on. -/
lemma exists_zero_of_digitValue? (h : digitValue? c = some v) :
    ∃ z ∈ zeros, c.toNat = z + v ∧ v < 10 := by
  unfold digitValue? at h
  split at h
  · split at h
    · next hdigit =>
      obtain ⟨hlow, hhigh⟩ := Char.isDigit_iff_toNat.mp hdigit
      cases h
      have hnine : '9'.toNat = '0'.toNat + 9 := rfl
      exact ⟨'0'.toNat, by decide, by omega, by omega⟩
    · cases h
  · obtain ⟨z, hz, rfl⟩ := Option.map_eq_some_iff.mp h
    have hrange := List.find?_some hz
    simp only [Bool.and_eq_true, decide_eq_true_eq] at hrange
    exact ⟨z, List.mem_of_find?_eq_some hz, by omega, by omega⟩

lemma isBlank_of_isDigit (h : isDigit c = true) : isBlank c = false := by
  obtain ⟨v, hv⟩ := Option.isSome_iff_exists.mp h
  obtain ⟨z, hz, hc, hlt⟩ := exists_zero_of_digitValue? hv
  have hapart : (zeros.all fun z => blankRanges.all fun r => z + 10 ≤ r.1 || r.2 < z) = true := rfl
  rw [isBlank, inRanges, List.any_eq_false]
  intro r hr
  have hzr := List.all_eq_true.mp (List.all_eq_true.mp hapart z hz) r hr
  simp only [Bool.or_eq_true, Bool.and_eq_true, decide_eq_true_eq] at hzr ⊢
  omega

lemma toNat_lt_of_isUpper (h : c.isUpper = true) : c.toNat < 128 :=
  toNat_lt_of_isAlphanum (Bool.or_eq_true_iff.mpr (.inl (Bool.or_eq_true_iff.mpr (.inl h))))

lemma toLower_of_not_isUpper (h : ¬c.isUpper = true) : c.toLower = c := by
  unfold Char.toLower
  split
  · next hupper => exact absurd (decide_eq_true hupper) h
  · rfl

lemma toLower_of_isBlank (h : isBlank c = true) : c.toLower = c := by
  refine toLower_of_not_isUpper fun hupper => ?_
  have hnot : ¬(isBlank c = true ∧ c.isUpper = true) :=
    forall_ascii (P := fun c => ¬(isBlank c = true ∧ c.isUpper = true)) (by decide)
      (toNat_lt_of_isUpper hupper)
  exact hnot ⟨h, hupper⟩

/-- Only the bracket itself is read for a bracket. -/
lemma eq_of_sameLetter_bracket (h : sameLetter '<' c = true) : c = '<' := by
  by_cases hascii : c.toNat < 128
  · exact forall_ascii (P := fun c => sameLetter '<' c = true → c = '<') (by decide) hascii h
  · have hlower := toLower_of_not_isUpper fun hupper => hascii (toNat_lt_of_isUpper hupper)
    simpa [sameLetter, hlower] using h

lemma isAsciiLetter_of_isDigit (h : isDigit c = true) : isAsciiLetter c = false := by
  by_contra hletter
  rw [Bool.not_eq_false] at hletter
  have hnot : ¬(isDigit c = true ∧ isAsciiLetter c = true) :=
    forall_ascii (P := fun c => ¬(isDigit c = true ∧ isAsciiLetter c = true)) (by decide)
      (toNat_lt_of_isAsciiLetter hletter)
  exact hnot ⟨h, hletter⟩

lemma isDigit_of_ascii (h : c.isDigit = true) : isDigit c = true := by
  have hascii : c.toNat < 128 := lt_of_le_of_lt (Char.isDigit_iff_toNat.mp h).2 (by decide)
  rw [isDigit, digitValue?, if_pos hascii, if_pos h]
  rfl

/-- The value of a digit. -/
def digitOf (c : Char) : Nat := (digitValue? c).getD 0

/-- A digit has the value of the ASCII digit that it is written with. -/
lemma plain_of_isDigit (h : isDigit c = true) : ((asciiDigit? c).getD c).isDigit = true ∧
    ((asciiDigit? c).getD c).toNat - '0'.toNat = digitOf c := by
  obtain ⟨v, hv⟩ := Option.isSome_iff_exists.mp h
  obtain ⟨-, -, -, hlt⟩ := exists_zero_of_digitValue? hv
  have hplain : ∀ v < 10, (Char.ofNat ('0'.toNat + v)).isDigit = true ∧
      (Char.ofNat ('0'.toNat + v)).toNat - '0'.toNat = v := by decide
  rw [asciiDigit?, digitOf, hv]
  exact hplain v hlt

end QuizPreflight.Text
