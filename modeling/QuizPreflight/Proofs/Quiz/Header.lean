import QuizPreflight.Proofs.Text.Matching
import QuizPreflight.Quiz.Header

/-!
# The parts of a question header

The id, the points tag and the arrow answer are taken off a header one after the other. Each part
leaves a text that is made of the letters of the one before it.
-/
namespace QuizPreflight.Quiz

open QuizPreflight.Text

/-- The id of a header, with the text after it. -/
def splitId (header : List Char) : Option (List Char) × List Char :=
  match leadingId? header with
  | some (id, rest) => (some id, rest)
  | none => (none, header)

/-- The points of a text, with the text around the tag. -/
def splitPoints (text : List Char) : Option Float × List Char :=
  match splitAtMatch (fun s => (pointsTag s).map Prod.snd) text with
  | some (before, rest) =>
    match pointsTag rest with
    | some (number, after) => (Decimal.readFloat? number, before ++ after)
    | none => (none, text)
  | none => (none, text)

/-- The arrow answer of a text, with the text before it. -/
def splitAnswer (text : List Char) : Option Arrow × List Char :=
  match splitArrow text with
  | some (before, answer) => (some answer, before)
  | none => (none, text)

/-- A header without its id and its points tag. -/
def untagged (header : List Char) : List Char := (splitPoints (splitId header).2).2

theorem readHeader_eq (header : List Char) :
    readHeader header = ⟨(splitId header).1, (splitPoints (splitId header).2).1,
      (splitAnswer (untagged header)).1, strip (splitAnswer (untagged header)).2⟩ := rfl

variable {s rest header number id : List Char}

lemma suffix_of_leadingId? (h : leadingId? header = some (id, rest)) : rest <:+ header := by
  have hdrop : header.dropWhile isIdChar <:+ header := List.dropWhile_suffix isIdChar
  unfold leadingId? at h
  dsimp only at h
  split at h
  · cases h
  · next c after hafter _ =>
    rw [hafter] at hdrop
    split at h
    · split at h
      · cases h
        exact List.nil_suffix
      · next b after =>
        split at h
        · cases h
          exact (dropBlanks_suffix after).trans <| (List.suffix_cons b after).trans <|
            (List.suffix_cons c _).trans hdrop
        · cases h
    · cases h
  · cases h

lemma suffix_of_pointsNumber (h : pointsNumber s = some (number, rest)) : rest <:+ s := by
  have hdrop : s.dropWhile isDigit <:+ s := List.dropWhile_suffix isDigit
  unfold pointsNumber at h
  dsimp only at h
  split at h
  · cases h
  · split at h
    · next d more hmore =>
      split at h
      · cases h
        rw [hmore] at hdrop
        exact ((List.dropWhile_suffix isDigit).trans (List.suffix_cons '.' _)).trans hdrop
      · cases h
        exact hdrop
    · cases h
      exact hdrop

lemma suffix_of_pointsWord (h : pointsWord s = some rest) : rest <:+ s := by
  obtain ⟨after, hword, hrest⟩ := Option.bind_eq_some_iff.mp h
  cases hrest
  have hafter : after <:+ s := by
    rw [Option.orElse_eq_orElse, Option.orElse_eq_or, Option.or_eq_some_iff] at hword
    rcases hword with hword | ⟨-, hword⟩ <;> exact suffix_of_word hword
  exact (skip_suffix (fun _ _ => suffix_of_word) after).trans hafter

lemma suffix_of_pointsTag (h : pointsTag s = some (number, rest)) : rest <:+ s := by
  obtain ⟨s₁, hopen, h⟩ := Option.bind_eq_some_iff.mp h
  obtain ⟨⟨digits, s₂⟩, hnumber, h⟩ := Option.bind_eq_some_iff.mp h
  obtain ⟨s₃, hword, h⟩ := Option.bind_eq_some_iff.mp h
  obtain ⟨s₄, hclose, h⟩ := Option.bind_eq_some_iff.mp h
  cases h
  have hskip := skip_suffix (m := literal ['\\']) (fun _ _ => suffix_of_literal)
  calc rest
    _ <:+ skip (literal ['\\']) (dropBlanks s₃) := suffix_of_literal hclose
    _ <:+ s₃ := (hskip _).trans (dropBlanks_suffix s₃)
    _ <:+ s₂ := (suffix_of_pointsWord hword).trans (dropBlanks_suffix s₂)
    _ <:+ s₁ := (suffix_of_pointsNumber hnumber).trans (dropBlanks_suffix s₁)
    _ <:+ skip (literal ['\\']) (dropBlanks s) := suffix_of_literal hopen
    _ <:+ s := (hskip _).trans (dropBlanks_suffix s)

lemma splitId_subset (header : List Char) : (splitId header).2 ⊆ header := by
  unfold splitId
  split
  · next id rest h => exact (suffix_of_leadingId? h).subset
  · exact List.Subset.refl header

lemma splitPoints_subset (text : List Char) : (splitPoints text).2 ⊆ text := by
  unfold splitPoints
  split
  · next before rest hsplit =>
    split
    · next number after htag =>
      rw [append_of_splitAtMatch hsplit]
      exact List.append_subset.mpr ⟨List.subset_append_left before rest,
        fun c hc => List.mem_append_right before ((suffix_of_pointsTag htag).subset hc)⟩
    · exact List.Subset.refl text
  · exact List.Subset.refl text

lemma untagged_subset (header : List Char) : untagged header ⊆ header :=
  fun _ hc => splitId_subset header (splitPoints_subset _ hc)

end QuizPreflight.Quiz
