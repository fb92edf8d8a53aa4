import QuizPreflight.Proofs.Quiz.Header

/-!
# Arrow answers that name neither

The words of an arrow answer are found whatever the case of their letters, and a long s stands for
the s of a false. Only such a word names neither of the two answers.
-/
namespace QuizPreflight.Quiz

open QuizPreflight.Text

/-- The letter that shares a case pair with the s but has no lower case of its own. -/
def longS : Char := '\u017f'

section Letters

variable {letter c : Char} {letters found : List Char}

/-- A letter for which no other letters stand but its own, in either case. -/
def isPlainLetter (letter : Char) : Bool :=
  letter.toNat < 128 && letter != 'i' && letter != 'k'

lemma lowerChar_of_sameLetter (h : sameLetter letter c = true)
    (hletter : isPlainLetter letter = true) (hne : c ≠ longS) : lowerChar c = [letter] := by
  simp only [isPlainLetter, Bool.and_eq_true, decide_eq_true_eq, bne_iff_ne] at hletter
  obtain ⟨⟨hascii, hi⟩, hk⟩ := hletter
  have hnot : c ≠ '\u017f' := hne
  have hlower : c.toLower = letter := by simpa [sameLetter, hi, hk, hnot] using h
  have hother : ∀ d : Char, 128 ≤ d.toLower.toNat → c ≠ d := by
    rintro d hd rfl
    rw [hlower] at hd
    omega
  rw [lowerChar, if_neg (by simpa using hother '\u0130' (by decide)),
    if_neg (by simpa using hother '\u212a' (by decide)), hlower]

lemma lower_of_forall₂ (h : List.Forall₂ (fun letter c => sameLetter letter c = true) letters found)
    (hletters : letters.all isPlainLetter = true) (hne : longS ∉ found) :
    lower found = letters := by
  induction h with
  | nil => rfl
  | @cons letter c letters found hc _ ih =>
    rw [List.all_cons, Bool.and_eq_true] at hletters
    obtain ⟨hletter, hrest⟩ := hletters
    rw [List.mem_cons, not_or] at hne
    have hlower := ih hrest hne.2
    rw [lower] at hlower ⊢
    rw [List.flatMap_cons, lowerChar_of_sameLetter hc hletter (Ne.symm hne.1), hlower,
      List.singleton_append]

end Letters

def arrow? (line : List Char) : Option Arrow := (splitArrow line).map Prod.snd

variable {s rest header : List Char}

lemma longS_mem_of_arrowWord (h : arrowWord s = some (.neither, rest)) : longS ∈ s := by
  unfold arrowWord at h
  split at h
  · cases h
  · obtain ⟨tail, hword, heq⟩ := Option.map_eq_some_iff.mp h
    obtain ⟨found, after, rfl, hfound⟩ := isSome_word_iff.mp (Option.isSome_of_eq_some hword)
    by_contra hnot
    have hlength : found.length = 5 := hfound.length_eq.symm
    have hlower : lower found = "false".toList :=
      lower_of_forall₂ hfound rfl fun hmem => hnot (List.mem_append_left _ hmem)
    rw [List.take_left' hlength, if_pos hlower] at heq
    cases heq

lemma longS_mem_of_arrowEnd? (h : arrowEnd? s = some .neither) : longS ∈ s := by
  obtain ⟨after, hsign, h⟩ := Option.bind_eq_some_iff.mp h
  obtain ⟨⟨answer, tail⟩, hword, h⟩ := Option.bind_eq_some_iff.mp h
  have hafter : after <:+ dropBlanks s := by
    rw [Option.orElse_eq_orElse, Option.orElse_eq_or, Option.or_eq_some_iff] at hsign
    rcases hsign with hsign | ⟨-, hsign⟩ <;> exact suffix_of_literal hsign
  dsimp only at h
  split at h
  · cases h
    exact (((dropBlanks_suffix after).trans hafter).trans (dropBlanks_suffix s)).subset
      (longS_mem_of_arrowWord hword)
  · cases h

lemma longS_mem_of_arrow? (h : arrow? s = some .neither) : longS ∈ s := by
  obtain ⟨⟨before, a⟩, hsplit, rfl⟩ := Option.map_eq_some_iff.mp h
  obtain ⟨⟨front, rest⟩, hmatch, hrest⟩ := Option.bind_eq_some_iff.mp hsplit
  obtain ⟨answer, hend, heq⟩ := Option.bind_eq_some_iff.mp hrest
  cases heq
  rw [append_of_splitAtMatch hmatch]
  exact List.mem_append_right before (longS_mem_of_arrowEnd? hend)

lemma fst_splitAnswer (text : List Char) : (splitAnswer text).1 = arrow? text := by
  unfold splitAnswer arrow?
  cases splitArrow text <;> rfl

lemma longS_mem_of_readHeader (h : (readHeader header).arrow = some .neither) :
    longS ∈ header := by
  rw [readHeader_eq, fst_splitAnswer] at h
  exact untagged_subset header (longS_mem_of_arrow? h)

end QuizPreflight.Quiz
