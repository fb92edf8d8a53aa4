import QuizPreflight.Proofs.Quiz.Boldface
import QuizPreflight.Proofs.Quiz.Outline

/-!
# Plain texts of choices

Markers are taken off a text one kind after the other, and a space is left where one stood. No
marker has a space in it, so that none is made of what stood around another one: what is left is in
a normal form, which taking markers off again does not change.
-/
namespace QuizPreflight.Quiz

open QuizPreflight.Text

/-- A text as it is left when markers are taken off: it has no recommended marker, no blanks at its
ends, no two gaps in a row, and is no bold span. -/
structure Unmarked (t : List Char) : Prop where
  no_marker : ¬Recommended t
  trimmed : strip t = t
  single_gaps : ∀ c d, isGap c = true → isGap d = true → ¬[c, d] <:+: t
  not_bold : ∀ inner, inner ≠ [] → '*' ∉ inner → t ≠ '*' :: '*' :: inner ++ ['*', '*']

variable {s t rest inner found : List Char} {c d : Char}

/-! ### Markers -/

section Markers

/-- A word in brackets is read whatever follows it. -/
lemma bracketed_append (h : found.map Char.toLower ∈ ["x".toList, "correct".toList])
    (rest : List Char) : bracketed ('[' :: found ++ ']' :: rest) = some rest := by
  have hopen : literal ['['] ('[' :: found ++ ']' :: rest) = some (found ++ ']' :: rest) := rfl
  have hclose : literal [']'] (']' :: rest) = some rest := rfl
  have hword : (word ['x'] (found ++ ']' :: rest)).or
      (word "correct".toList (found ++ ']' :: rest)) = some (']' :: rest) := by
    rcases List.mem_pair.mp h with hx | hcorrect
    · have hread : word ['x'] (found ++ ']' :: rest) = some (']' :: rest) := word_append hx _
      rw [hread, Option.some_or]
    · have hnot : word ['x'] (found ++ ']' :: rest) = none := by
        obtain ⟨c, after, rfl⟩ :=
          List.exists_cons_of_ne_nil (l := found) (by rintro rfl; cases hcorrect)
        have hc : c.toLower = 'c' := (List.cons.inj hcorrect).1
        exact if_neg (by simp [sameLetter, hc])
      rw [hnot, Option.none_or, word_append hcorrect]
  rw [bracketed, hopen, Option.bind_some, hword, Option.bind_some, hclose]

/-- There is no space in a marker. -/
lemma space_notMem_marker (h : found.map Char.toLower ∈ ["x".toList, "correct".toList]) :
    ' ' ∉ '[' :: found ++ [']'] := by
  have hfound : ' ' ∉ found := by
    intro hmem
    have hlower : Char.toLower ' ' ∈ found.map Char.toLower := List.mem_map_of_mem hmem
    rcases List.mem_pair.mp h with hx | hx <;> rw [hx] at hlower <;> revert hlower <;> decide
  simpa using hfound

lemma rest_of_bracketMarker (s rest : List Char) (h : bracketMarker s = some rest) :
    rest <:+ s ∧ rest.length < s.length := by
  rw [bracketMarker_eq] at h
  obtain ⟨after, hafter, rfl⟩ := Option.map_eq_some_iff.mp h
  obtain ⟨found, -, hdrop⟩ := exists_of_bracketed hafter
  have hsuffix : after <:+ dropBlanks s := ⟨'[' :: found ++ [']'], by simp [hdrop]⟩
  have hlength := congrArg List.length hdrop
  have hblanks := (dropBlanks_suffix s).length_le
  have hrest := (dropBlanks_suffix after).length_le
  simp only [List.cons_append, List.length_cons, List.length_append] at hlength
  exact ⟨((dropBlanks_suffix after).trans hsuffix).trans (dropBlanks_suffix s), by omega⟩

lemma rest_of_checkMarker (s rest : List Char) (h : checkMarker s = some rest) :
    rest <:+ s ∧ rest.length < s.length := by
  obtain ⟨after, hafter, rfl⟩ := Option.map_eq_some_iff.mp h
  have hlength := length_of_one hafter
  have hblanks := (dropBlanks_suffix s).length_le
  have hrest := (dropBlanks_suffix after).length_le
  exact ⟨((dropBlanks_suffix after).trans (suffix_of_one hafter)).trans (dropBlanks_suffix s),
    by omega⟩

end Markers

/-! ### Gaps -/

section Gaps

lemma exists_of_wideGap (h : wideGap s = some rest) :
    ∃ c d after, isGap c = true ∧ isGap d = true ∧ s = c :: d :: after ∧
      rest = after.dropWhile isGap := by
  match s with
  | [] => cases h
  | [c] => cases hc : isGap c <;> simp [wideGap, one, many, hc] at h
  | c :: d :: after =>
    cases hc : isGap c <;> cases hd : isGap d <;> simp [wideGap, one, many, hc, hd] at h
    exact ⟨c, d, after, hc, hd, rfl, h.symm⟩

lemma rest_of_wideGap (s rest : List Char) (h : wideGap s = some rest) :
    rest <:+ s ∧ rest.length < s.length := by
  obtain ⟨c, d, after, -, -, rfl, rfl⟩ := exists_of_wideGap h
  have hsuffix := List.dropWhile_suffix (l := after) isGap
  have hlength := hsuffix.length_le
  simp only [List.length_cons]
  exact ⟨hsuffix.trans ⟨[c, d], rfl⟩, by omega⟩

/-- A gap at the front is there before gaps are closed. -/
lemma exists_gap_of_narrowed (h : [c] <+: narrowed s) (hc : isGap c = true) :
    ∃ d rest, s = d :: rest ∧ isGap d = true := by
  cases s with
  | nil => simp [narrowed, replaceAll] at h
  | cons d s =>
    refine ⟨d, s, rfl, ?_⟩
    rcases narrowed_cons d s with hcons | ⟨hd, -⟩
    · rw [hcons] at h
      rwa [← (List.cons_prefix_cons.mp h).1]
    · exact hd

/-- Closed gaps stand alone. -/
lemma not_infix_narrowed (hc : isGap c = true) (hd : isGap d = true) (s : List Char) :
    ¬[c, d] <:+: narrowed s := by
  intro h
  rw [narrowed] at h
  fun_induction replaceAll wideGap [' '] s with
  | case1 => simp at h
  | case2 e tail hnone ih =>
    rcases List.infix_cons_iff.mp h with hprefix | hinfix
    · obtain ⟨rfl, hgap⟩ := List.cons_prefix_cons.mp hprefix
      obtain ⟨g, after, rfl, hg⟩ := exists_gap_of_narrowed hgap hd
      simp [wideGap, one, many, hc, hg] at hnone
    · exact ih hinfix
  | case3 e tail rest hrest hlength ih =>
    rcases List.infix_cons_iff.mp h with hprefix | hinfix
    · obtain ⟨-, hgap⟩ := List.cons_prefix_cons.mp hprefix
      obtain ⟨g, after, rfl, hg⟩ := exists_gap_of_narrowed hgap hd
      obtain ⟨-, -, behind, -, -, -, hdrop⟩ := exists_of_wideGap hrest
      have hnot := List.head?_dropWhile_not isGap behind
      simp [← hdrop, hg] at hnot
    · exact ih hinfix
  | case4 e tail rest hrest hlength ih =>
    have hshort := (rest_of_wideGap _ rest hrest).2
    rw [List.length_cons] at hshort
    omega

end Gaps

/-! ### The normal form -/

section NormalForm

lemma bold?_eq_some_iff : bold? s = some inner ↔
    inner ≠ [] ∧ '*' ∉ inner ∧ s = '*' :: '*' :: inner ++ ['*', '*'] := by
  constructor
  · intro h
    obtain ⟨after, hopen, h⟩ := Option.bind_eq_some_iff.mp h
    dsimp only at h
    split at h
    · cases h
    · next hne =>
      split at h
      · next hclose =>
        obtain rfl := Option.some.inj h
        have hstar : '*' ∉ after.takeWhile (· != '*') :=
          fun hmem => by simpa using List.mem_takeWhile_imp hmem
        have hafter := List.takeWhile_append_dropWhile (p := (· != '*')) (l := after)
        rw [hclose] at hafter
        exact ⟨by simpa using hne, hstar,
          (eq_append_of_literal hopen).trans (congrArg (['*', '*'] ++ ·) hafter.symm)⟩
      · cases h
  · rintro ⟨hne, hstar, rfl⟩
    have hinner : ∀ c ∈ inner, (c != '*') = true := fun c hc => by
      rw [bne_iff_ne]
      rintro rfl
      exact hstar hc
    have htake : (inner ++ ['*', '*']).takeWhile (· != '*') = inner := by
      rw [takeWhile_append_cons rfl, List.takeWhile_eq_self_iff]
      exact hinner
    have hdrop : (inner ++ ['*', '*']).dropWhile (· != '*') = ['*', '*'] := by
      rw [dropWhile_append_cons rfl, List.dropWhile_eq_nil_iff.mpr hinner, List.nil_append]
    have hopen : literal ['*', '*'] ('*' :: '*' :: inner ++ ['*', '*']) =
        some (inner ++ ['*', '*']) := rfl
    have hempty : inner.isEmpty = false := by simpa using hne
    simp only [bold?, hopen, Option.bind_eq_bind, Option.bind_some, htake, hdrop, hempty]
    rfl

lemma isCheckMark_notMem (hd : isCheckMark d = true) (s : List Char) :
    d ∉ narrowed (replaceAll checkMarker [' '] s) := by
  intro hmem
  have hmark : d = '✓' ∨ d = '✔' := by simpa [isCheckMark] using hd
  have hspace : ' ' ∉ [d] := by rcases hmark with rfl | rfl <;> decide
  have hblank : isBlank d = false := by rcases hmark with rfl | rfl <;> decide
  have hne : [d] ≠ [] := List.cons_ne_nil d []
  have hchecked := infix_of_replaceAll rest_of_wideGap hspace hne
    ((List.singleton_infix_iff d _).mpr hmem)
  obtain ⟨rest, -, ⟨after, rfl⟩, hnone⟩ :=
    exists_of_infix_replaceAll rest_of_checkMarker hspace hne hchecked
  have hplain : dropBlanks (d :: after) = d :: after :=
    dropBlanks_eq_self_iff.mpr (startsPlain_cons hblank)
  rw [List.singleton_append, checkMarker, hplain, one, if_pos hd] at hnone
  cases hnone

/-- No bracketed marker is left, and none is made by what is done later. -/
lemma bracketed_not_infix (h : found.map Char.toLower ∈ ["x".toList, "correct".toList])
    (s : List Char) : ¬ '[' :: found ++ [']'] <:+:
      narrowed (replaceAll checkMarker [' '] (replaceAll bracketMarker [' '] s)) := by
  intro hinfix
  have hspace := space_notMem_marker h
  have hne : '[' :: found ++ [']'] ≠ [] := List.cons_ne_nil _ _
  have hchecked := infix_of_replaceAll rest_of_wideGap hspace hne hinfix
  have hbracketed := infix_of_replaceAll rest_of_checkMarker hspace hne hchecked
  obtain ⟨rest, -, ⟨after, rfl⟩, hnone⟩ :=
    exists_of_infix_replaceAll rest_of_bracketMarker hspace hne hbracketed
  have hplain : dropBlanks ('[' :: found ++ ']' :: after) = '[' :: found ++ ']' :: after :=
    dropBlanks_eq_self_iff.mpr (startsPlain_cons (by decide))
  rw [List.append_assoc, List.singleton_append, bracketMarker_eq, hplain,
    bracketed_append h after] at hnone
  cases hnone

lemma not_recommended_dropMarkers (s : List Char) : ¬Recommended (dropMarkers s).1 := by
  intro h
  rcases h.of_infix (strip_isInfix _) with ⟨found, hfound, hinfix⟩ | hmark | hmark
  · exact bracketed_not_infix hfound s hinfix
  · exact isCheckMark_notMem rfl _ hmark
  · exact isCheckMark_notMem rfl _ hmark

lemma not_infix_dropMarkers (hc : isGap c = true) (hd : isGap d = true) (s : List Char) :
    ¬[c, d] <:+: (dropMarkers s).1 := fun h =>
  not_infix_narrowed hc hd _ (h.trans (strip_isInfix _))

theorem unmarked_stripMarkers (s : List Char) : Unmarked (stripMarkers s).1 := by
  have hmarker := not_recommended_dropMarkers s
  have htrimmed : strip (dropMarkers s).1 = (dropMarkers s).1 := strip_strip _
  rw [stripMarkers_eq]
  split
  · next inner hbold =>
    -- what stands inside a bold span has no asterisk
    obtain ⟨-, hstar, hspan⟩ := bold?_eq_some_iff.mp hbold
    have hinfix : strip inner <:+: (dropMarkers s).1 :=
      (strip_isInfix inner).trans ⟨['*', '*'], ['*', '*'], hspan.symm⟩
    refine ⟨fun h => hmarker (h.of_infix hinfix), strip_strip inner,
      fun c d hc hd h => not_infix_dropMarkers hc hd s (h.trans hinfix), ?_⟩
    rintro other - - (h : strip inner = _)
    exact hstar ((strip_isInfix inner).subset (h ▸ List.mem_cons_self))
  · next hbold =>
    refine ⟨hmarker, htrimmed, fun c d hc hd => not_infix_dropMarkers hc hd s,
      fun inner hne hstar h => ?_⟩
    rw [bold?_eq_some_iff.mpr ⟨hne, hstar, h⟩] at hbold
    cases hbold

/-- A text in normal form is left as it is. -/
lemma Unmarked.stripMarkers_eq (h : Unmarked t) : stripMarkers t = (t, false) := by
  refine (stripMarkers_eq_self_iff h.trimmed).mpr ⟨?_, ?_, ?_, ?_⟩
  · exact Bool.eq_false_iff.mpr (mt recommended_of_bracketMarker h.no_marker)
  · exact Bool.eq_false_iff.mpr (mt recommended_of_checkMarker h.no_marker)
  · refine occurs_eq_false_iff.mpr fun rest hrest => ?_
    cases hgap : wideGap rest with
    | none => rfl
    | some after =>
      obtain ⟨c, d, behind, hc, hd, rfl, -⟩ := exists_of_wideGap hgap
      have hfront : [c, d] <+: c :: d :: behind := ⟨behind, rfl⟩
      exact absurd (hfront.isInfix.trans hrest.isInfix) (h.single_gaps c d hc hd)
  · refine Option.eq_none_iff_forall_ne_some.mpr fun inner hbold => ?_
    obtain ⟨hne, hstar, hspan⟩ := bold?_eq_some_iff.mp hbold
    exact h.not_bold inner hne hstar hspan

end NormalForm

/-! ### Choices -/

section Choices

variable {c : Choice} {b : Block} {line : List Char}

lemma unmarked_of_readChoice? (h : readChoice? line = some c) : Unmarked c.text.toList := by
  obtain ⟨⟨starred, text⟩, -, rfl⟩ := Option.map_eq_some_iff.mp h
  dsimp only
  rw [String.toList_ofList]
  exact unmarked_stripMarkers text

lemma unmarked_of_arrow (a : Arrow) (h : c ∈ a.choices) : Unmarked c.text.toList := by
  have hself : ∀ t, stripMarkers t = (t, false) → Unmarked t := fun t ht => by
    have hplain := unmarked_stripMarkers t
    rwa [ht] at hplain
  rcases List.mem_pair.mp h with rfl | rfl
  · exact hself "True".toList ((stripMarkers_eq_self_iff (by decide)).mpr (by decide))
  · exact hself "False".toList ((stripMarkers_eq_self_iff (by decide)).mpr (by decide))

/-- A choice is written on a line or made by an arrow answer. -/
lemma Block.unmarked_of_mem_choices (h : c ∈ b.choices) : Unmarked c.text.toList := by
  have hwritten : c ∈ b.written → Unmarked c.text.toList := fun hmem => by
    obtain ⟨line, -, hline⟩ := List.mem_filterMap.mp hmem
    exact unmarked_of_readChoice? hline
  unfold Block.choices offered at h
  split at h
  · next a _ _ => exact unmarked_of_arrow a h
  · exact hwritten h

/-- The text of every choice is in normal form, so that taking markers off it changes nothing and
finds none. Whatever the text, to take its markers off once is enough. -/
theorem parse_choices_unmarked :
    (∀ loader content quiz, parse loader content = .ok quiz →
      ∀ q ∈ quiz.questions, ∀ c ∈ q.choices, Unmarked c.text.toList ∧ stripMarkers c.text.toList = (c.text.toList, false)) ∧
    ∀ s, stripMarkers (stripMarkers s).1 = ((stripMarkers s).1, false) := by
  refine ⟨fun loader content quiz hquiz q hq c hc => ?_,
    fun s => (unmarked_stripMarkers s).stripMarkers_eq⟩
  have hplace : questionPlace q ∈ (blocksOf (activeLines content.toList)).map Block.place :=
    map_questionPlace_of_parse hquiz ▸ List.mem_map_of_mem hq
  obtain ⟨b, -, hb⟩ := List.mem_map.mp hplace
  have hchoices : b.choices = q.choices := congrArg Prod.snd hb
  have hplain : Unmarked c.text.toList := b.unmarked_of_mem_choices (hchoices ▸ hc)
  exact ⟨hplain, hplain.stripMarkers_eq⟩

/-- Markers within each other, and in a bold span. -/
theorem parse_nested_markers : ∃ quiz,
    parse Yaml.safeLoader "## 1. Q\n- [[x]x]\n- **[x] B✓**" = .ok quiz ∧
    quiz.questions.map (·.choices.map Choice.text) = [["[ x]", "B"]] ∧
    stripMarkers "[ x]".toList = ("[ x]".toList, false) := by
  obtain ⟨quiz, hquiz, htexts⟩ : ∃ quiz,
      parse Yaml.safeLoader "## 1. Q\n- [[x]x]\n- **[x] B✓**" = .ok quiz ∧
      quiz.questions.map (·.choices.map Choice.text) = [["[ x]", "B"]] :=
    ⟨_, rfl, by decide +kernel⟩
  obtain ⟨q, qs, hqs, hq, -⟩ := List.map_eq_cons_iff.mp htexts
  obtain ⟨c, cs, hcs, hc, -⟩ := List.map_eq_cons_iff.mp hq
  obtain ⟨-, hplain⟩ := parse_choices_unmarked.1 _ _ quiz hquiz q (hqs ▸ List.mem_cons_self) c
    (hcs ▸ List.mem_cons_self)
  rw [hc] at hplain
  exact ⟨quiz, hquiz, htexts, hplain⟩

end Choices

end QuizPreflight.Quiz
