import Mathlib.Data.List.Induction
import Mathlib.Data.List.TakeWhile
import Mathlib.Data.Nat.Digits.Defs
import QuizPreflight.Decimal.Literal
import QuizPreflight.Proofs.Text.Character

/-!
# Decimal numerals

Digits of any script with an optional fraction are read as the double nearest to the number that
they denote.
-/
namespace QuizPreflight.Decimal

open QuizPreflight.Text

/-- The number that some digits denote. -/
def numberOf (ds : List Char) : Nat := Nat.ofDigits 10 (ds.map digitOf).reverse

lemma digitsValue_append_singleton (ds : List Char) (c : Char) :
    digitsValue (ds ++ [c]) = 10 * digitsValue ds + (c.toNat - '0'.toNat) := by
  rw [digitsValue, List.foldl_append]
  rfl

lemma plainDigits_append (s t : List Char) :
    plainDigits (s ++ t) = plainDigits s ++ plainDigits t := List.map_append

lemma digitsValue_plainDigits {ds : List Char} (h : ∀ c ∈ ds, isDigit c = true) :
    digitsValue (plainDigits ds) = numberOf ds := by
  induction ds using List.reverseRecOn with
  | nil => rfl
  | append_singleton ds c ih =>
    have hds := ih fun d hd => h d (List.mem_append_left _ hd)
    have hc := plain_of_isDigit (h c (by simp))
    have hplain : plainDigits [c] = [(asciiDigit? c).getD c] := rfl
    rw [plainDigits_append, hplain, digitsValue_append_singleton, hds, hc.2]
    simp [numberOf, Nat.ofDigits_cons, Nat.add_comm]

lemma isDigit_of_mem_plainDigits {ds : List Char} (h : ∀ c ∈ ds, isDigit c = true) :
    ∀ d ∈ plainDigits ds, d.isDigit = true := by
  intro d hd
  obtain ⟨c, hc, rfl⟩ := List.mem_map.mp hd
  exact (plain_of_isDigit (h c hc)).1

/-- Digits with an optional fraction. -/
structure Numeral where
  whole : List Char
  fraction : List Char
  whole_ne_nil : whole ≠ []
  isDigit_of_mem : ∀ c ∈ whole ++ fraction, isDigit c = true

namespace Numeral

/-- A fraction with its point. -/
def tail : List Char → List Char
  | [] => []
  | d :: ds => '.' :: d :: ds

def chars (n : Numeral) : List Char := n.whole ++ tail n.fraction

/-- The double nearest to the number denoted. -/
def value (n : Numeral) : Float :=
  ofDecimal (numberOf (n.whole ++ n.fraction)) (-(n.fraction.length : Int))

end Numeral

/-! ### Plain digits with a fraction -/

section Plain

variable {whole fraction s rest : List Char}

lemma dropUnderscores?_eq (h : '_' ∉ s) (afterDigit : Bool) :
    dropUnderscores? afterDigit s = some s := by
  induction s generalizing afterDigit with
  | nil => rfl
  | cons c s ih =>
    rw [List.mem_cons, not_or] at h
    rw [dropUnderscores?, ih h.2, Option.map_some]
    rintro rfl
    exact h.1 rfl

lemma stripNumber_eq (h : ∀ c ∈ s, isBlank c = false) : stripNumber s = s := by
  have hnumber : ∀ t : List Char, (∀ c ∈ t, isBlank c = false) → t.dropWhile isNumberBlank = t := by
    intro t ht
    cases t with
    | nil => rfl
    | cons c t =>
      rw [List.dropWhile_cons_of_neg]
      simp [isNumberBlank, ht c List.mem_cons_self]
  rw [stripNumber, hnumber s h, hnumber s.reverse (by simpa using h), List.reverse_reverse]

lemma takeWhile_append_tail {p : Char → Bool} (hdot : p '.' = false)
    (hwhole : ∀ c ∈ whole, p c = true) : (whole ++ Numeral.tail fraction).takeWhile p = whole := by
  rw [List.takeWhile_append_of_pos hwhole]
  cases fraction <;> simp [Numeral.tail, hdot]

lemma dropWhile_append_tail {p : Char → Bool} (hdot : p '.' = false)
    (hwhole : ∀ c ∈ whole, p c = true) :
    (whole ++ Numeral.tail fraction).dropWhile p = Numeral.tail fraction := by
  rw [List.dropWhile_append_of_pos hwhole]
  cases fraction <;> simp [Numeral.tail, hdot]

lemma readUnsigned?_eq (hne : whole ≠ []) (hwhole : ∀ c ∈ whole, c.isDigit = true)
    (hfraction : ∀ c ∈ fraction, c.isDigit = true) :
    readUnsigned? (whole ++ Numeral.tail fraction) =
      some (ofDecimal (digitsValue (whole ++ fraction)) (-(fraction.length : Int))) := by
  have hempty : (whole ++ fraction).isEmpty = false := by simp [hne]
  unfold readUnsigned?
  rw [takeWhile_append_tail rfl hwhole, dropWhile_append_tail rfl hwhole]
  cases fraction with
  | nil =>
    rw [List.append_nil] at hempty
    simp [Numeral.tail, hempty]
  | cons d ds =>
    simp only [Numeral.tail, List.takeWhile_eq_self_iff.mpr hfraction,
      List.dropWhile_eq_nil_iff.mpr hfraction, hempty, Bool.false_eq_true, if_false, Int.zero_sub]

lemma toLower_of_isDigit {d : Char} (h : d.isDigit = true) : d.toLower = d := by
  have hascii : d.toNat < 128 := lt_of_le_of_lt (Char.isDigit_iff_toNat.mp h).2 (by decide)
  exact forall_ascii (P := fun d => d.isDigit = true → d.toLower = d) (by decide) hascii h

/-- What starts with a digit has no sign and is no name of a number. -/
lemma readFloat?_of_digit {d : Char} (hd : d.isDigit = true) (hs : plainDigits s = d :: rest)
    (hblank : ∀ c ∈ plainDigits s, isBlank c = false) (hunder : '_' ∉ plainDigits s) :
    readFloat? s = readUnsigned? (plainDigits s) := by
  have hsign : sign (plainDigits s) = (false, plainDigits s) := by
    rw [hs]
    unfold sign
    split
    · next heq => cases heq; cases hd
    · next heq => cases heq; cases hd
    · rfl
  have hname : ∀ name : List Char, name.head?.any Char.isDigit = false →
      (plainDigits s).map Char.toLower ≠ name := by
    rintro name hname rfl
    rw [hs, List.map_cons, toLower_of_isDigit hd, List.head?_cons, Option.any_some, hd] at hname
    cases hname
  have hinf := hname "inf".toList (by decide)
  have hinfinity := hname "infinity".toList (by decide)
  have hnan := hname "nan".toList (by decide)
  unfold readFloat?
  simp only [stripNumber_eq hblank, hsign, hinf, hinfinity, hnan, dropUnderscores?_eq hunder]
  simp

end Plain

namespace Numeral

variable (n : Numeral)

lemma plainDigits_chars :
    plainDigits n.chars = plainDigits n.whole ++ tail (plainDigits n.fraction) := by
  rw [chars, plainDigits_append]
  cases n.fraction <;> rfl

lemma isDigit_of_mem_plainDigits_chars {c : Char} (h : c ∈ plainDigits n.chars) :
    c.isDigit = true ∨ c = '.' := by
  have hplain := isDigit_of_mem_plainDigits n.isDigit_of_mem c
  rw [plainDigits_append, List.mem_append] at hplain
  rw [plainDigits_chars, List.mem_append] at h
  rcases h with h | h
  · exact .inl (hplain (.inl h))
  · cases hfraction : plainDigits n.fraction with
    | nil => rw [hfraction] at h; cases h
    | cons d ds =>
      rw [hfraction, tail, List.mem_cons] at h
      rw [hfraction] at hplain
      exact h.symm.imp (fun h => hplain (.inr h)) id

/-- A numeral is read as the double nearest to it. -/
theorem readFloat?_chars : readFloat? n.chars = some n.value := by
  have hwhole := isDigit_of_mem_plainDigits fun c hc =>
    n.isDigit_of_mem c (List.mem_append_left _ hc)
  have hfraction := isDigit_of_mem_plainDigits fun c hc =>
    n.isDigit_of_mem c (List.mem_append_right _ hc)
  have hne : plainDigits n.whole ≠ [] := fun h => n.whole_ne_nil (List.map_eq_nil_iff.mp h)
  obtain ⟨d, ds, hds⟩ := List.exists_cons_of_ne_nil hne
  have hstart : plainDigits n.chars = d :: (ds ++ tail (plainDigits n.fraction)) := by
    rw [plainDigits_chars, hds, List.cons_append]
  have hblank : ∀ c ∈ plainDigits n.chars, isBlank c = false := by
    intro c hc
    rcases n.isDigit_of_mem_plainDigits_chars hc with hdigit | rfl
    · exact isBlank_of_isDigit (isDigit_of_ascii hdigit)
    · decide
  have hunder : '_' ∉ plainDigits n.chars := by
    intro hmem
    rcases n.isDigit_of_mem_plainDigits_chars hmem with hdigit | hdot
    · cases hdigit
    · cases hdot
  have hlength : (plainDigits n.fraction).length = n.fraction.length := List.length_map _
  calc readFloat? n.chars
    _ = readUnsigned? (plainDigits n.chars) :=
      readFloat?_of_digit (hwhole d (hds ▸ List.mem_cons_self)) hstart hblank hunder
    _ = some (ofDecimal (digitsValue (plainDigits (n.whole ++ n.fraction)))
          (-(n.fraction.length : Int))) := by
      rw [plainDigits_chars, readUnsigned?_eq hne hwhole hfraction, plainDigits_append, hlength]
    _ = some n.value := by rw [digitsValue_plainDigits n.isDigit_of_mem, value]

end Numeral

end QuizPreflight.Decimal
