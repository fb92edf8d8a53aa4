import QuizPreflight.Proofs.Text.Trimming
import QuizPreflight.Quiz.ChoiceLine

/-!
# Markers behind a choice

A text that has no marker and is left as it is stays what it is when a bracketed marker is written
behind it: the marker is all that is taken off.
-/
namespace QuizPreflight.Quiz

open QuizPreflight.Text

variable {s rest : List Char}

/-! ### Bracketed markers -/

/-- A bracketed marker without the blanks around it. -/
def bracketed : Matcher := fun s => (literal ['['] s).bind fun s =>
  ((word ['x'] s).or (word "correct".toList s)).bind (literal [']'])

lemma bracketMarker_eq (s : List Char) :
    bracketMarker s = (bracketed (dropBlanks s)).map dropBlanks := by
  unfold bracketMarker bracketed
  cases literal ['['] (dropBlanks s) with
  | none => rfl
  | some after =>
    simp only [Option.bind_eq_bind, Option.bind_some, Option.orElse_eq_orElse,
      Option.orElse_eq_or]
    cases (word ['x'] after).or (word "correct".toList after) with
    | none => rfl
    | some inner => cases hclose : literal [']'] inner <;> simp [hclose]

lemma ignores_bracketed (core : List Char) : Ignores (' ' :: core) bracketed := by
  have hopen : Ignores (' ' :: core) (literal ['[']) := ignores_literal (by decide)
  have hshort : Ignores (' ' :: core) (word ['x']) := ignores_word rfl
  have hlong : Ignores (' ' :: core) (word "correct".toList) := ignores_word rfl
  have hclose : Ignores (' ' :: core) (literal [']']) := ignores_literal (by decide)
  exact hopen.bind ((hshort.or hlong).bind hclose)

lemma bracketMarker_append_eq_none (hs : EndsPlain s) (hne : s ≠ []) (h : bracketMarker s = none)
    (core : List Char) : bracketMarker (s ++ ' ' :: core) = none := by
  rw [bracketMarker_eq, Option.map_eq_none_iff] at h ⊢
  rw [dropBlanks_append hs hne,
    (ignores_bracketed core).append _ (hs.of_suffix (dropBlanks_suffix s)), h, Option.map_none]

/-- The marker that is written behind a correct choice. -/
def mark : List Char := ' ' :: "[x]".toList

lemma replaceAll_bracketMarker_append_mark (hs : EndsPlain s) (h : occurs bracketMarker s = false) :
    replaceAll bracketMarker [' '] (s ++ mark) = s ++ [' '] := by
  have hnone := occurs_eq_false_iff.mp h
  have hmatch : bracketMarker mark = some [] := by decide
  have hmark : replaceAll bracketMarker [' '] mark = [' '] := by
    rw [mark, replaceAll, ← mark, hmatch]
    simp [replaceAll]
  have hbefore : ∀ rest, rest ≠ [] → rest <:+ s → bracketMarker (rest ++ mark) = none :=
    fun rest hne hrest =>
      bracketMarker_append_eq_none (hs.of_suffix hrest) hne (hnone rest hrest) "[x]".toList
  rw [replaceAll_append hbefore, hmark]

lemma occurs_bracketMarker_append_mark (s : List Char) :
    occurs bracketMarker (s ++ mark) = true :=
  occurs_iff.mpr ⟨s, mark, rfl, by decide⟩

/-! ### Check marks -/

lemma occurs_checkMarker_iff : occurs checkMarker s = true ↔ ∃ c ∈ s, isCheckMark c = true := by
  rw [occurs_iff_suffix]
  constructor
  · rintro ⟨rest, hrest, h⟩
    rw [checkMarker, Option.isSome_map] at h
    cases hdrop : dropBlanks rest with
    | nil => rw [hdrop] at h; cases h
    | cons c after =>
      have hc : isCheckMark c = true := by
        by_contra hnot
        simp [hdrop, one, hnot] at h
      have hsuffix := (dropBlanks_suffix rest).trans hrest
      rw [hdrop] at hsuffix
      exact ⟨c, hsuffix.subset List.mem_cons_self, hc⟩
  · rintro ⟨c, hc, hmark⟩
    obtain ⟨before, after, rfl⟩ := List.append_of_mem hc
    refine ⟨c :: after, List.suffix_append before _, ?_⟩
    have hblank : isBlank c = false := by
      simp only [isCheckMark, Bool.or_eq_true, beq_iff_eq] at hmark
      rcases hmark with rfl | rfl <;> decide
    rw [checkMarker, dropBlanks_eq_self_iff.mpr (startsPlain_cons hblank), Option.isSome_map, one,
      if_pos hmark, Option.isSome_some]

/-! ### Gaps -/

lemma length_of_wideGap (s rest : List Char) (h : wideGap s = some rest) :
    rest.length + 2 ≤ s.length := by
  match s with
  | [] => cases h
  | [c] => cases hc : isGap c <;> simp [wideGap, one, many, hc] at h
  | c :: d :: s =>
    have hdrop := (List.dropWhile_suffix (l := s) isGap).length_le
    cases hc : isGap c <;> cases hd : isGap d <;> simp [wideGap, one, many, hc, hd] at h
    rw [← h, List.length_cons, List.length_cons]
    omega

lemma wideGap_append_space (hs : EndsPlain s) (hne : s ≠ []) (h : wideGap s = none) :
    wideGap (s ++ [' ']) = none := by
  match s with
  | [c] =>
    have hc : isBlank c = false := hs c rfl
    have hgap : isGap c = false := by
      by_contra hnot
      simp only [isGap, Bool.not_eq_false, Bool.or_eq_true, beq_iff_eq] at hnot
      rcases hnot with rfl | rfl <;> cases hc
    simp [wideGap, one, hgap]
  | c :: d :: s =>
    cases hc : isGap c <;> cases hd : isGap d <;> simp [wideGap, one, many, hc, hd] at h ⊢

/-! ### Texts without markers -/

lemma dropMarkers_eq (s : List Char) :
    dropMarkers s =
      (strip (replaceAll wideGap [' ']
        (replaceAll checkMarker [' '] (replaceAll bracketMarker [' '] s))),
      occurs bracketMarker s || occurs checkMarker (replaceAll bracketMarker [' '] s)) := rfl

lemma stripMarkers_eq (s : List Char) :
    stripMarkers s = match bold? (dropMarkers s).1 with
      | some inner => (strip inner, true)
      | none => dropMarkers s := rfl

/-- What it takes for a trimmed text to be left as it is. -/
theorem stripMarkers_eq_self_iff (hs : strip s = s) : stripMarkers s = (s, false) ↔
    occurs bracketMarker s = false ∧ occurs checkMarker s = false ∧ occurs wideGap s = false ∧
      bold? s = none := by
  constructor
  · intro h
    rw [stripMarkers_eq] at h
    split at h
    · cases h
    · next hbold =>
      rw [h] at hbold
      rw [dropMarkers_eq, Prod.mk.injEq, Bool.or_eq_false_iff] at h
      obtain ⟨hstrip, hbracket, hcheck⟩ := h
      rw [replaceAll_of_not_occurs hbracket] at hstrip hcheck
      rw [replaceAll_of_not_occurs hcheck] at hstrip
      -- a gap would have left a shorter text
      have hgap : occurs wideGap s = false := by
        rw [← Bool.not_eq_true]
        intro hgap
        have hshort := (length_replaceAll length_of_wideGap ' ' s).2 hgap
        have hstripped := length_strip_le (replaceAll wideGap [' '] s)
        rw [hstrip] at hstripped
        omega
      exact ⟨hbracket, hcheck, hgap, hbold⟩
  · rintro ⟨hbracket, hcheck, hgap, hbold⟩
    have hdrop : dropMarkers s = (s, false) := by
      rw [dropMarkers_eq, replaceAll_of_not_occurs hbracket, replaceAll_of_not_occurs hcheck,
        replaceAll_of_not_occurs hgap, hs, hbracket, hcheck, Bool.false_or]
    rw [stripMarkers_eq, hdrop]
    dsimp only
    rw [hbold]

/-- A marker behind a text without markers is taken off, and makes the choice correct. -/
theorem stripMarkers_append_mark (h : stripMarkers s = (s, false)) (hs : strip s = s)
    (hne : s ≠ []) : stripMarkers (s ++ mark) = (s, true) := by
  obtain ⟨hbracket, hcheck, hgap, hbold⟩ := (stripMarkers_eq_self_iff hs).mp h
  obtain ⟨-, hend⟩ := strip_eq_self_iff.mp hs
  have hnocheck : occurs checkMarker (s ++ [' ']) = false := by
    rw [← Bool.not_eq_true, occurs_checkMarker_iff] at hcheck ⊢
    simpa [isCheckMark] using hcheck
  have hnone := occurs_eq_false_iff.mp hgap
  have hbefore : ∀ rest, rest ≠ [] → rest <:+ s → wideGap (rest ++ [' ']) = none :=
    fun rest hne hrest => wideGap_append_space (hend.of_suffix hrest) hne (hnone rest hrest)
  have hlast : replaceAll wideGap [' '] [' '] = [' '] := replaceAll_of_not_occurs (by decide) _
  have hdrop : dropMarkers (s ++ mark) = (s, true) := by
    rw [dropMarkers_eq, replaceAll_bracketMarker_append_mark hend hbracket,
      occurs_bracketMarker_append_mark, Bool.true_or, replaceAll_of_not_occurs hnocheck,
      replaceAll_append hbefore, hlast, strip_append_blank hs hne (by decide)]
  rw [stripMarkers_eq, hdrop]
  dsimp only
  rw [hbold]

end QuizPreflight.Quiz
