import QuizPreflight.Proofs.Decimal.Numeral
import QuizPreflight.Proofs.Quiz.Header
import QuizPreflight.Proofs.Text.Trimming

/-!
# Points tags behind a text

A bracket after a blank ends every piece of a points tag but its blanks, so a tag that is written
behind a text without a tag is found where it stands, and what it stands behind is left.
-/
namespace QuizPreflight.Quiz

open QuizPreflight.Text QuizPreflight.Decimal

variable {s : List Char}

/-- A number of points. -/
def numberEnd : Matcher := fun s =>
  (many isDigit s).bind fun s => some (skip (fun s => (literal ['.'] s).bind (many isDigit)) s)

/-- A points tag behind its blanks. -/
def tagEnd : Matcher := fun s =>
  (literal ['['] (skip (literal ['\\']) s)).bind fun s =>
    (numberEnd (dropBlanks s)).bind fun s =>
      (pointsWord (dropBlanks s)).bind fun s =>
        literal [']'] (skip (literal ['\\']) (dropBlanks s))

lemma map_snd_pointsNumber (s : List Char) : (pointsNumber s).map Prod.snd = numberEnd s := by
  cases s with
  | nil => rfl
  | cons c s =>
    cases hc : isDigit c with
    | false => simp [pointsNumber, numberEnd, many, hc]
    | true =>
      have htake : ((c :: s).takeWhile isDigit).isEmpty = false := by simp [hc]
      have hdrop : (c :: s).dropWhile isDigit = s.dropWhile isDigit := by simp [hc]
      unfold pointsNumber
      simp only [htake, hdrop, numberEnd, many, hc, if_true, Bool.false_eq_true, if_false,
        Option.bind_some]
      split
      · next d more hmore =>
        cases hd : isDigit d <;> simp [hmore, skip, literal, many, hd]
      · next hother =>
        generalize s.dropWhile isDigit = rest at hother
        cases rest with
        | nil => rfl
        | cons c more =>
          by_cases hc : c = '.'
          · subst hc
            cases more with
            | nil => rfl
            | cons d more => exact absurd rfl (hother d more)
          · simp [skip, literal, Ne.symm hc]

lemma map_snd_pointsTag (s : List Char) : (pointsTag s).map Prod.snd = tagEnd (dropBlanks s) := by
  unfold pointsTag tagEnd
  simp only [← map_snd_pointsNumber]
  cases literal ['['] (skip (literal ['\\']) (dropBlanks s)) with
  | none => rfl
  | some s₁ =>
    cases hnumber : pointsNumber (dropBlanks s₁) with
    | none => simp [hnumber]
    | some found =>
      cases hword : pointsWord (dropBlanks found.2) with
      | none => simp [hnumber, hword]
      | some s₂ =>
        cases hclose : literal [']'] (skip (literal ['\\']) (dropBlanks s₂)) <;>
          simp [hnumber, hword, hclose]

lemma ignores_numberEnd (core : List Char) : Ignores (' ' :: core) numberEnd := by
  have hdigits : Ignores (' ' :: core) (many isDigit) := ignores_many (by decide)
  have hpoint : Ignores (' ' :: core) (literal ['.']) := ignores_literal (by decide)
  have hfraction := hpoint.bind hdigits
  exact hdigits.bind (hfraction.skip (Ignores.some _))

lemma ignores_pointsWord (core : List Char) : Ignores (' ' :: core) pointsWord := by
  have hword : pointsWord = fun s =>
      ((word "pt".toList s).or (word "point".toList s)).bind fun s =>
        some (skip (word ['s']) s) := by
    funext s
    rw [pointsWord, Option.orElse_eq_orElse, Option.orElse_eq_or]
    rfl
  have hshort : Ignores (' ' :: core) (word "pt".toList) := ignores_word rfl
  have hlong : Ignores (' ' :: core) (word "point".toList) := ignores_word rfl
  have hplural : Ignores (' ' :: core) (word ['s']) := ignores_word rfl
  rw [hword]
  exact (hshort.or hlong).bind (hplural.skip (Ignores.some _))

lemma ignores_tagEnd (core : List Char) : Ignores (' ' :: '[' :: core) tagEnd := by
  have hbackslash : Ignores (' ' :: '[' :: core) (literal ['\\']) := ignores_literal (by decide)
  have hopen : Ignores (' ' :: '[' :: core) (literal ['[']) := ignores_literal (by decide)
  have hclose : Ignores (' ' :: '[' :: core) (literal [']']) := ignores_literal (by decide)
  -- behind its blank the tail starts with a bracket, which is no piece but the first
  have hblank : dropBlanks (' ' :: '[' :: core) = '[' :: core := rfl
  refine Ignores.bind (hbackslash.skip hopen) ?_
  refine Ignores.bind ((ignores_numberEnd _).dropBlanks rfl ?_) ?_
  · rw [hblank]
    rfl
  refine Ignores.bind ((ignores_pointsWord _).dropBlanks rfl ?_) ?_
  · rw [hblank]
    rfl
  refine (hbackslash.skip hclose).dropBlanks rfl ?_
  rw [hblank]
  rfl

/-- A tag behind a text makes no other tag of the end of the text. -/
lemma pointsTag_append_eq_none (hs : EndsPlain s) (hne : s ≠ []) (h : pointsTag s = none)
    (core : List Char) : pointsTag (s ++ ' ' :: '[' :: core) = none := by
  rw [← Option.map_eq_none_iff (f := Prod.snd), map_snd_pointsTag] at h ⊢
  rw [dropBlanks_append hs hne, (ignores_tagEnd core).append _ (hs.of_suffix (dropBlanks_suffix s)),
    h, Option.map_none]

/-! ### A written tag -/

/-- The points tag of a numeral, with the blank before it. -/
def tagOf (n : Numeral) : List Char := ' ' :: '[' :: (n.chars ++ ' ' :: "pts]".toList)

lemma pointsNumber_chars (n : Numeral) (t : List Char) :
    pointsNumber (n.chars ++ ' ' :: t) = some (n.chars, ' ' :: t) := by
  obtain ⟨whole, fraction, hne, hdigits⟩ := n
  obtain ⟨hwhole, hfraction⟩ := List.forall_mem_append.mp hdigits
  have hblank : isDigit ' ' = false := by decide
  have hdot : isDigit '.' = false := by decide
  have hempty : whole.isEmpty = false := by simp [hne]
  unfold pointsNumber Numeral.chars
  dsimp only
  rw [takeWhile_append_cons hblank, takeWhile_append_tail hdot hwhole,
    dropWhile_append_cons hblank, dropWhile_append_tail hdot hwhole, hempty]
  cases fraction with
  | nil => simp [Numeral.tail]
  | cons d ds =>
    have hd : isDigit d = true := hfraction d List.mem_cons_self
    have htake : (d :: ds ++ ' ' :: t).takeWhile isDigit = d :: ds := by
      rw [takeWhile_append_cons hblank, List.takeWhile_eq_self_iff.mpr hfraction]
    have hdrop : (d :: ds ++ ' ' :: t).dropWhile isDigit = ' ' :: t := by
      rw [dropWhile_append_cons hblank, List.dropWhile_eq_nil_iff.mpr hfraction, List.nil_append]
    rw [List.cons_append] at htake hdrop
    simp only [Numeral.tail, List.cons_append, hd, htake, hdrop, if_true, Bool.false_eq_true,
      if_false]

lemma startsPlain_chars (n : Numeral) (t : List Char) : StartsPlain (n.chars ++ t) := by
  obtain ⟨d, ds, hwhole⟩ := List.exists_cons_of_ne_nil n.whole_ne_nil
  have hd : isDigit d = true := n.isDigit_of_mem d (by rw [hwhole]; exact List.mem_cons_self)
  rw [Numeral.chars, hwhole]
  exact startsPlain_cons (isBlank_of_isDigit hd)

lemma pointsTag_tagOf (n : Numeral) : pointsTag (tagOf n) = some (n.chars, []) := by
  have hnumber : pointsNumber (dropBlanks (n.chars ++ ' ' :: "pts]".toList)) =
      some (n.chars, ' ' :: "pts]".toList) := by
    rw [dropBlanks_eq_self_iff.mpr (startsPlain_chars n _), pointsNumber_chars]
  have hopen : literal ['['] (skip (literal ['\\']) (dropBlanks (tagOf n))) =
      some (n.chars ++ ' ' :: "pts]".toList) := rfl
  unfold pointsTag
  rw [hopen]
  simp only [Option.bind_eq_bind, Option.bind_some, hnumber]
  rfl

theorem splitPoints_append_tagOf (n : Numeral) (hs : EndsPlain s)
    (h : splitAtMatch (fun s => (pointsTag s).map Prod.snd) s = none) :
    splitPoints (s ++ tagOf n) = (some n.value, s) := by
  have hnone := occurs_eq_false_iff.mp (splitAtMatch_eq_none_iff.mp h)
  have hsplit : splitAtMatch (fun s => (pointsTag s).map Prod.snd) (s ++ tagOf n) =
      some (s, tagOf n) := by
    refine splitAtMatch_append (fun rest hne hrest => ?_) (by rw [pointsTag_tagOf]; rfl)
    rw [Option.map_eq_none_iff]
    exact pointsTag_append_eq_none (hs.of_suffix hrest) hne
      (Option.map_eq_none_iff.mp (hnone rest hrest)) _
  unfold splitPoints
  rw [hsplit]
  dsimp only
  rw [pointsTag_tagOf]
  dsimp only
  rw [Numeral.readFloat?_chars, List.append_nil]

end QuizPreflight.Quiz
