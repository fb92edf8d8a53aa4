import Mathlib.Data.Nat.Basic
import QuizPreflight.Text.Utf8

/-!
# Encoded texts

Every character is written with a lead byte of its range and as many bytes of six bits each as the
lead byte announces, so a text is read back from its encoding.
-/
namespace QuizPreflight.Text.Utf8

variable {n m k : Nat} {rest : List UInt8}

/-! ### Single bytes -/

lemma toNat_ofNat (h : m < 256) : (UInt8.ofNat m).toNat = m := UInt8.toNat_ofNat_of_lt' h

lemma ofNat_lt_ofNat (hm : m < 256) (hk : k < 256) : UInt8.ofNat m < UInt8.ofNat k ↔ m < k :=
  UInt8.ofNat_lt_iff_lt hm hk

/-- A byte that continues a sequence holds six bits. -/
lemma isContinuation_ofNat (n : Nat) : isContinuation (UInt8.ofNat (0x80 + n % 64)) = true := by
  have h : 0x80 + n % 64 < 256 := by omega
  have hlow : (0x80 : UInt8) ≤ UInt8.ofNat (0x80 + n % 64) := by
    rw [UInt8.le_iff_toNat_le, toNat_ofNat h]
    exact Nat.le_add_right 0x80 _
  have hhigh : UInt8.ofNat (0x80 + n % 64) < 0xc0 :=
    (ofNat_lt_ofNat (k := 0xc0) h (by decide)).mpr (by omega)
  rw [isContinuation, decide_eq_true hlow, decide_eq_true hhigh, Bool.and_self]

lemma low_ofNat (n : Nat) : low (UInt8.ofNat (0x80 + n % 64)) = n % 64 := by
  rw [low, toNat_ofNat (by omega)]
  omega

/-- The lead bytes that announce a sequence. -/
lemma not_start_ofNat (hlow : 0xc2 ≤ m) (hhigh : m ≤ 0xf4) : ¬UInt8.ofNat m < 0x80 ∧
    ¬(decide (UInt8.ofNat m < 0xc2) || decide (0xf4 < UInt8.ofNat m)) = true := by
  have hm : m < 256 := by omega
  have hsingle : ¬UInt8.ofNat m < 0x80 := fun h =>
    absurd ((ofNat_lt_ofNat (k := 0x80) hm (by decide)).mp h) (by omega)
  have hbefore : ¬UInt8.ofNat m < 0xc2 := fun h =>
    absurd ((ofNat_lt_ofNat (k := 0xc2) hm (by decide)).mp h) (by omega)
  have hbehind : ¬0xf4 < UInt8.ofNat m := fun h =>
    absurd ((ofNat_lt_ofNat (m := 0xf4) (by decide) hm).mp h) (by omega)
  simp [hsingle, hbefore, hbehind]

lemma isSecond_ofNat (hm : m < 256) (he0 : m = 0xe0 → 0x20 ≤ n % 64)
    (hed : m = 0xed → n % 64 < 0x20) (hf0 : m = 0xf0 → 0x10 ≤ n % 64)
    (hf4 : m = 0xf4 → n % 64 < 0x10) :
    isSecond (UInt8.ofNat m) (UInt8.ofNat (0x80 + n % 64)) = true := by
  have h : 0x80 + n % 64 < 256 := by omega
  simp only [isSecond, isContinuation_ofNat, Bool.true_and, Bool.and_eq_true, Bool.not_eq_true',
    Bool.and_eq_false_iff, beq_eq_false_iff_ne, decide_eq_false_iff_not, ne_eq,
    ← UInt8.toNat_inj, UInt8.lt_iff_toNat_lt, UInt8.le_iff_toNat_le, toNat_ofNat hm, toNat_ofNat h]
  simp
  omega

/-! ### Sequences -/

lemma front_one (h : n < 0x80) : front (UInt8.ofNat n) rest = .char (charOf n) rest := by
  have hn : n < 256 := by omega
  have hsingle : UInt8.ofNat n < 0x80 := (ofNat_lt_ofNat (k := 0x80) hn (by decide)).mpr h
  unfold front
  rw [if_pos hsingle, toNat_ofNat hn]

lemma front_two (h : 0x80 ≤ n) (hn : n < 0x800) :
    front (UInt8.ofNat (0xc0 + n / 64)) (UInt8.ofNat (0x80 + n % 64) :: rest) =
      .char (charOf n) rest := by
  have hm : 0xc0 + n / 64 < 256 := by omega
  have hlead : UInt8.ofNat (0xc0 + n / 64) < 0xe0 :=
    (ofNat_lt_ofNat (k := 0xe0) hm (by decide)).mpr (by omega)
  have hcode : (0xc0 + n / 64 - 0xc0) * 64 + n % 64 = n := by omega
  obtain ⟨hsingle, hstart⟩ := not_start_ofNat (m := 0xc0 + n / 64) (by omega) (by omega)
  have hsecond := isSecond_ofNat (n := n) hm (by omega) (by omega) (by omega) (by omega)
  unfold front
  rw [if_neg hsingle, if_neg hstart]
  dsimp only
  rw [hsecond, if_neg (by decide), if_pos hlead, toNat_ofNat hm, low_ofNat, hcode]

lemma front_three (h : 0x800 ≤ n) (hn : n < 0x10000) (hchar : ¬(0xd800 ≤ n ∧ n < 0xe000)) :
    front (UInt8.ofNat (0xe0 + n / 4096))
      (UInt8.ofNat (0x80 + n / 64 % 64) :: UInt8.ofNat (0x80 + n % 64) :: rest) =
      .char (charOf n) rest := by
  have hm : 0xe0 + n / 4096 < 256 := by omega
  have hlong : ¬UInt8.ofNat (0xe0 + n / 4096) < 0xe0 := fun hlt =>
    absurd ((ofNat_lt_ofNat (k := 0xe0) hm (by decide)).mp hlt) (by omega)
  have hlead : UInt8.ofNat (0xe0 + n / 4096) < 0xf0 :=
    (ofNat_lt_ofNat (k := 0xf0) hm (by decide)).mpr (by omega)
  have hcode : ((0xe0 + n / 4096 - 0xe0) * 64 + n / 64 % 64) * 64 + n % 64 = n := by omega
  obtain ⟨hsingle, hstart⟩ := not_start_ofNat (m := 0xe0 + n / 4096) (by omega) (by omega)
  have hsecond := isSecond_ofNat (n := n / 64) hm (by omega) (by omega) (by omega) (by omega)
  unfold front
  rw [if_neg hsingle, if_neg hstart]
  dsimp only
  rw [hsecond, if_neg (by decide), if_neg hlong, isContinuation_ofNat, if_neg (by decide),
    if_pos hlead, toNat_ofNat hm, low_ofNat, low_ofNat, hcode]

lemma front_four (h : 0x10000 ≤ n) (hn : n < 0x110000) :
    front (UInt8.ofNat (0xf0 + n / 262144)) (UInt8.ofNat (0x80 + n / 4096 % 64) ::
      UInt8.ofNat (0x80 + n / 64 % 64) :: UInt8.ofNat (0x80 + n % 64) :: rest) =
      .char (charOf n) rest := by
  have hm : 0xf0 + n / 262144 < 256 := by omega
  have hlong : ¬UInt8.ofNat (0xf0 + n / 262144) < 0xe0 := fun hlt =>
    absurd ((ofNat_lt_ofNat (k := 0xe0) hm (by decide)).mp hlt) (by omega)
  have hlonger : ¬UInt8.ofNat (0xf0 + n / 262144) < 0xf0 := fun hlt =>
    absurd ((ofNat_lt_ofNat (k := 0xf0) hm (by decide)).mp hlt) (by omega)
  have hcode : (((0xf0 + n / 262144 - 0xf0) * 64 + n / 4096 % 64) * 64 + n / 64 % 64) * 64 +
      n % 64 = n := by omega
  obtain ⟨hsingle, hstart⟩ := not_start_ofNat (m := 0xf0 + n / 262144) (by omega) (by omega)
  have hsecond := isSecond_ofNat (n := n / 4096) hm (by omega) (by omega) (by omega) (by omega)
  unfold front
  rw [if_neg hsingle, if_neg hstart]
  dsimp only
  rw [hsecond, if_neg (by decide), if_neg hlong, isContinuation_ofNat, if_neg (by decide),
    if_neg hlonger, isContinuation_ofNat, if_neg (by decide), toNat_ofNat hm, low_ofNat, low_ofNat,
    low_ofNat, hcode]

/-! ### Texts -/

/-- What is written for a character is read as that character. -/
theorem front_encodeChar (c : Char) (rest : List UInt8) :
    ∃ a more, encodeChar c = a :: more ∧ front a (more ++ rest) = .char c rest := by
  have hchar : charOf c.toNat = c := Char.ofNat_toNat c
  have hvalid : c.toNat < 0xd800 ∨ 0xdfff < c.toNat ∧ c.toNat < 0x110000 := c.valid
  unfold encodeChar
  dsimp only
  split_ifs with h₁ h₂ h₃
  · exact ⟨_, _, rfl, by rw [List.nil_append, front_one h₁, hchar]⟩
  · exact ⟨_, _, rfl, by rw [List.singleton_append, front_two (by omega) h₂, hchar]⟩
  · refine ⟨_, _, rfl, ?_⟩
    rw [List.cons_append, List.singleton_append, front_three (by omega) h₃ (by omega), hchar]
  · refine ⟨_, _, rfl, ?_⟩
    rw [List.cons_append, List.cons_append, List.singleton_append,
      front_four (by omega) (by omega), hchar]

lemma decodeFrom_encode (s : List Char) (position : Nat) :
    decodeFrom position (encode s) = .ok s := by
  induction s generalizing position with
  | nil => rw [encode, List.flatMap_nil, decodeFrom]
  | cons c s ih =>
    obtain ⟨a, more, hchar, hfront⟩ := front_encodeChar c (encode s)
    rw [encode, List.flatMap_cons, hchar, List.cons_append, ← encode, decodeFrom]
    split
    · next found rest hfound =>
      rw [hfront] at hfound
      obtain ⟨rfl, rfl⟩ := Front.char.inj hfound
      rw [ih]
      rfl
    · next hfound =>
      rw [hfront] at hfound
      cases hfound

/-- A text is what its own encoding is read as. -/
theorem decode_encode (s : List Char) : decode (encode s) = .ok s := decodeFrom_encode s 0

end QuizPreflight.Text.Utf8
