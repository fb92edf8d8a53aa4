import Mathlib.Data.List.Forall2
import Mathlib.Data.List.Infix
import Mathlib.Data.List.TakeWhile
import QuizPreflight.Text.Match

/-!
# Matches in a text

A match is looked for at every suffix of a text. Where no suffix matches nothing is found and
nothing replaced; text before the first match is passed over, whatever follows the match.
-/
namespace QuizPreflight.Text

lemma word_eq_some_iff {w s rest : List Char} :
    word w s = some rest ↔ ∃ found, s = found ++ rest ∧
      List.Forall₂ (fun letter c => sameLetter letter c = true) w found := by
  induction w generalizing s with
  | nil => simp [word]
  | cons letter w ih =>
    cases s with
    | nil => simp [word, List.forall₂_cons_left_iff]
    | cons c s =>
      rw [word]
      constructor
      · intro h
        split at h
        · next hc =>
          obtain ⟨found, rfl, hfound⟩ := ih.mp h
          exact ⟨c :: found, rfl, .cons hc hfound⟩
        · cases h
      · rintro ⟨found, hs, hfound⟩
        obtain ⟨d, more, hd, hmore, rfl⟩ := List.forall₂_cons_left_iff.mp hfound
        obtain ⟨rfl, rfl⟩ := List.cons.inj hs
        rw [if_pos hd]
        exact ih.mpr ⟨more, rfl, hmore⟩

lemma isSome_word_iff {w s : List Char} :
    (word w s).isSome = true ↔ ∃ found after, s = found ++ after ∧
      List.Forall₂ (fun letter c => sameLetter letter c = true) w found := by
  rw [Option.isSome_iff_exists, exists_comm]
  exact exists_congr fun rest => word_eq_some_iff

/-- A word is read whatever the case of its letters. -/
lemma word_append {w found : List Char} (h : found.map Char.toLower = w) (rest : List Char) :
    word w (found ++ rest) = some rest := by
  induction found generalizing w with
  | nil =>
    rw [← h]
    rfl
  | cons c found ih =>
    rw [← h, List.map_cons, List.cons_append, word, if_pos (by simp [sameLetter])]
    exact ih rfl

lemma suffix_of_literal {p s rest : List Char} (h : literal p s = some rest) : rest <:+ s :=
  ⟨p, (eq_append_of_literal h).symm⟩

lemma suffix_of_word {w s rest : List Char} (h : word w s = some rest) : rest <:+ s := by
  induction w generalizing s with
  | nil => exact (Option.some.inj h).symm ▸ List.suffix_rfl
  | cons letter w ih =>
    cases s with
    | nil => cases h
    | cons c s =>
      rw [word] at h
      split at h
      · exact (ih h).trans (List.suffix_cons c s)
      · cases h

lemma dropBlanks_suffix (s : List Char) : dropBlanks s <:+ s := List.dropWhile_suffix isBlank

lemma suffix_of_one {p : Char → Bool} {s rest : List Char} (h : one p s = some rest) :
    rest <:+ s := by
  cases s with
  | nil => cases h
  | cons c s =>
    rw [one] at h
    split at h
    · obtain rfl : s = rest := Option.some.inj h
      exact List.suffix_cons c s
    · cases h

lemma suffix_of_many {p : Char → Bool} {s rest : List Char} (h : many p s = some rest) :
    rest <:+ s := by
  cases s with
  | nil => cases h
  | cons c s =>
    rw [many] at h
    split at h
    · obtain rfl : s.dropWhile p = rest := Option.some.inj h
      exact (List.dropWhile_suffix p).trans (List.suffix_cons c s)
    · cases h

lemma length_of_one {p : Char → Bool} {s rest : List Char} (h : one p s = some rest) :
    rest.length < s.length := by
  cases s with
  | nil => cases h
  | cons c s =>
    rw [one] at h
    split at h
    · cases h
      exact Nat.lt_succ_self _
    · cases h

lemma skip_suffix {m : Matcher} (h : ∀ s rest, m s = some rest → rest <:+ s) (s : List Char) :
    skip m s <:+ s := by
  rw [skip]
  cases hm : m s with
  | none => exact List.suffix_rfl
  | some rest => exact h s rest hm

lemma occurs_iff {m : Matcher} {s : List Char} :
    occurs m s = true ↔ ∃ before rest, s = before ++ rest ∧ (m rest).isSome = true := by
  induction s with
  | nil => simp [occurs, startsWith]
  | cons c s ih =>
    rw [occurs, Bool.or_eq_true, ih]
    constructor
    · rintro (h | ⟨before, rest, rfl, h⟩)
      · exact ⟨[], c :: s, rfl, h⟩
      · exact ⟨c :: before, rest, rfl, h⟩
    · rintro ⟨before, rest, hs, h⟩
      cases before with
      | nil =>
        obtain rfl : c :: s = rest := hs
        exact .inl h
      | cons d before => exact .inr ⟨before, rest, (List.cons.inj hs).2, h⟩

lemma occurs_iff_suffix {m : Matcher} {s : List Char} :
    occurs m s = true ↔ ∃ rest, rest <:+ s ∧ (m rest).isSome = true := by
  rw [occurs_iff]
  constructor
  · rintro ⟨before, rest, rfl, h⟩
    exact ⟨rest, List.suffix_append before rest, h⟩
  · rintro ⟨rest, ⟨before, rfl⟩, h⟩
    exact ⟨before, rest, rfl, h⟩

lemma occurs_eq_false_iff {m : Matcher} {s : List Char} :
    occurs m s = false ↔ ∀ rest, rest <:+ s → m rest = none := by
  rw [← Bool.not_eq_true, occurs_iff_suffix]
  simp

lemma splitAtMatch_eq_none_iff {m : Matcher} {s : List Char} :
    splitAtMatch m s = none ↔ occurs m s = false := by
  induction s with
  | nil => cases h : startsWith m [] <;> simp [splitAtMatch, occurs, h]
  | cons c s ih => cases h : startsWith m (c :: s) <;> simp [splitAtMatch, occurs, h, ih]

/-- The first match stands where it matches and nothing before it does. -/
lemma splitAtMatch_append {m : Matcher} {s t : List Char}
    (h : ∀ rest, rest ≠ [] → rest <:+ s → m (rest ++ t) = none) (ht : (m t).isSome = true) :
    splitAtMatch m (s ++ t) = some (s, t) := by
  induction s with
  | nil => cases t <;> simp [splitAtMatch, startsWith, ht]
  | cons c s ih =>
    have hhere : startsWith m (c :: (s ++ t)) = false := by
      rw [startsWith, ← List.cons_append, h _ (List.cons_ne_nil c s) List.suffix_rfl]
      rfl
    have hbelow := ih fun rest hne hrest => h rest hne (hrest.trans (List.suffix_cons c s))
    rw [List.cons_append, splitAtMatch, hhere, if_neg Bool.false_ne_true, hbelow]
    rfl

lemma replaceAll_cons_of_none {m : Matcher} {c : Char} {s : List Char} (h : m (c :: s) = none)
    (replacement : List Char) :
    replaceAll m replacement (c :: s) = c :: replaceAll m replacement s := by
  rw [replaceAll, h]

lemma replaceAll_cons_of_some {m : Matcher} {c : Char} {s rest : List Char}
    (h : m (c :: s) = some rest) (hrest : rest <:+ s) (replacement : List Char) :
    replaceAll m replacement (c :: s) = replacement ++ replaceAll m replacement rest := by
  rw [replaceAll, h]
  exact if_pos hrest.length_le

/-- Text before the first match stays as it is. -/
lemma replaceAll_append {m : Matcher} {s t : List Char}
    (h : ∀ rest, rest ≠ [] → rest <:+ s → m (rest ++ t) = none) (replacement : List Char) :
    replaceAll m replacement (s ++ t) = s ++ replaceAll m replacement t := by
  induction s with
  | nil => rfl
  | cons c s ih =>
    have hhere : m (c :: (s ++ t)) = none := h _ (List.cons_ne_nil c s) List.suffix_rfl
    rw [List.cons_append, replaceAll_cons_of_none hhere,
      ih fun rest hne hrest => h rest hne (hrest.trans (List.suffix_cons c s)), List.cons_append]

lemma replaceAll_of_not_occurs {m : Matcher} {s : List Char} (h : occurs m s = false)
    (replacement : List Char) : replaceAll m replacement s = s := by
  have hnone := occurs_eq_false_iff.mp h
  have happend := replaceAll_append (m := m) (s := s) (t := []) (fun rest _ hrest => by
    rw [List.append_nil, hnone rest hrest]) replacement
  simpa [replaceAll] using happend

/-- What stands at the front of the result, the replacement apart, stood there before. -/
lemma prefix_of_replaceAll {m : Matcher} {d : Char} {w s : List Char} (hd : d ∉ w)
    (h : w <+: replaceAll m [d] s) : w <+: s := by
  induction w generalizing s with
  | nil => exact List.nil_prefix
  | cons e w ih =>
    rw [List.mem_cons, not_or] at hd
    have hkept : ∀ c tail, e :: w <+: c :: replaceAll m [d] tail → e :: w <+: c :: tail := by
      intro c tail hprefix
      obtain ⟨rfl, hw⟩ := List.cons_prefix_cons.mp hprefix
      exact List.cons_prefix_cons.mpr ⟨rfl, ih hd.2 hw⟩
    cases s with
    | nil => simp [replaceAll] at h
    | cons c tail =>
      rw [replaceAll] at h
      split at h
      · exact hkept c tail h
      · split at h
        · exact absurd (List.cons_prefix_cons.mp h).1.symm hd.1
        · exact hkept c tail h

/-- A word that is found where matches are replaced stood in the text, at a place that does not
match. -/
lemma exists_of_infix_replaceAll {m : Matcher} {d : Char} {w s : List Char}
    (hm : ∀ s rest, m s = some rest → rest <:+ s ∧ rest.length < s.length)
    (hd : d ∉ w) (hne : w ≠ []) (h : w <:+: replaceAll m [d] s) :
    ∃ rest, rest <:+ s ∧ w <+: rest ∧ m rest = none := by
  fun_induction replaceAll m [d] s with
  | case1 => exact absurd (List.infix_nil.mp h) hne
  | case2 c tail hnone ih =>
    rcases List.infix_cons_iff.mp h with hprefix | hinfix
    · have hsame : w <+: replaceAll m [d] (c :: tail) := by
        rwa [replaceAll_cons_of_none hnone]
      exact ⟨c :: tail, List.suffix_rfl, prefix_of_replaceAll hd hsame, hnone⟩
    · obtain ⟨rest, hrest, hw⟩ := ih hinfix
      exact ⟨rest, hrest.trans (List.suffix_cons c tail), hw⟩
  | case3 c tail rest hrest hlength ih =>
    rcases List.infix_cons_iff.mp h with hprefix | hinfix
    · obtain ⟨e, w, rfl⟩ := List.exists_cons_of_ne_nil hne
      obtain ⟨rfl, -⟩ := List.cons_prefix_cons.mp hprefix
      exact absurd List.mem_cons_self hd
    · obtain ⟨other, hother, hw⟩ := ih hinfix
      exact ⟨other, hother.trans (hm _ rest hrest).1, hw⟩
  | case4 c tail rest hrest hlength ih =>
    have hshort := (hm _ rest hrest).2
    rw [List.length_cons] at hshort
    omega

lemma infix_of_replaceAll {m : Matcher} {d : Char} {w s : List Char}
    (hm : ∀ s rest, m s = some rest → rest <:+ s ∧ rest.length < s.length)
    (hd : d ∉ w) (hne : w ≠ []) (h : w <:+: replaceAll m [d] s) : w <:+: s := by
  obtain ⟨rest, hrest, hw, -⟩ := exists_of_infix_replaceAll hm hd hne h
  exact hw.isInfix.trans hrest.isInfix

/-- Pieces of two characters at least make room for the one that replaces them. -/
lemma length_replaceAll {m : Matcher}
    (hm : ∀ s rest, m s = some rest → rest.length + 2 ≤ s.length) (c : Char) (s : List Char) :
    (replaceAll m [c] s).length ≤ s.length ∧
      (occurs m s = true → (replaceAll m [c] s).length < s.length) := by
  fun_induction replaceAll m [c] s with
  | case1 =>
    refine ⟨le_rfl, fun h => ?_⟩
    obtain ⟨rest, hrest⟩ := Option.isSome_iff_exists.mp h
    exact absurd (hm [] rest hrest) (by simp)
  | case2 d tail hnone ih =>
    rw [occurs, startsWith, hnone, Option.isSome_none, Bool.false_or]
    exact ⟨Nat.succ_le_succ ih.1, fun h => Nat.succ_lt_succ (ih.2 h)⟩
  | case3 d tail rest hrest hlength ih =>
    have hlong := hm _ rest hrest
    rw [List.length_append, List.length_singleton]
    rw [List.length_cons] at hlong ⊢
    exact ⟨by omega, fun _ => by omega⟩
  | case4 d tail rest hrest hlength ih =>
    have hlong := hm _ rest hrest
    rw [List.length_cons] at hlong
    omega

end QuizPreflight.Text
