import QuizPreflight.Proofs.Lint.Deprecation
import QuizPreflight.Proofs.Text.Trailing

/-!
# Marks with nothing behind them

Hash signs, dashes and labels are marks only where a blank stands behind them. A carriage return is
a blank, so a line of a bare mark reads otherwise with a return at its end. Every other line reads
the same with it as without it.
-/
namespace QuizPreflight.Quiz

open QuizPreflight.Text

/-- A mark of a heading, a question or a choice with nothing behind it that it could mark. -/
def isBareMark (line : List Char) : Bool :=
  match line with
  | ['#', c] => c == '#' || isBlank c
  | _ => dropBlanks line == ['-'] || Lint.label (skip (literal ['*']) (dropBlanks line)) == some []

/-- What is left over is the same but for a return, and what is found is the same. -/
def TrailsBehind {α : Type} (x y : α × List Char) : Prop := y.1 = x.1 ∧ Trails x.2 y.2

lemma TrailsBehind.refl {α : Type} (x : α × List Char) : TrailsBehind x x := ⟨rfl, .refl x.2⟩

variable {line s t : List Char} {m : Matcher}

/-! ### Roles -/

section Roles

lemma isFence_append_return (line : List Char) : isFence (line ++ ['\r']) = isFence line := by
  have hbackticks : PassesReturn fun s => literal "```".toList (dropBlanks s) :=
    (passes_literal (by decide)).dropBlanks Trails.refl
  have htildes : PassesReturn fun s => literal "~~~".toList (dropBlanks s) :=
    (passes_literal (by decide)).dropBlanks Trails.refl
  exact congrArg₂ (· || ·) (hbackticks.isSome_eq line) (htildes.isSome_eq line)

/-- A place is looked for up to the end of the line, where the return adds one. -/
lemma somewhere_of_trails {stop : Char → Bool} {p : Option Char → List Char → Bool}
    (hp : ∀ before s, p before (s ++ ['\r']) = p before s) (hend : ∀ before, p before [] = false)
    (h : Trails s t) (before : Option Char) :
    somewhere stop p before t = somewhere stop p before s := by
  rcases h with rfl | rfl
  · rfl
  · induction s generalizing before with
    | nil =>
      have hreturn : p before ['\r'] = false := (hp before []).trans (hend before)
      simp [somewhere, hreturn, hend]
    | cons c s ih =>
      have hhere := hp before (c :: s)
      rw [List.cons_append] at hhere ⊢
      rw [somewhere, somewhere, hhere, ih]

lemma solutionWord_append_return (before : Option Char) (s : List Char) :
    solutionWord before (s ++ ['\r']) = solutionWord before s := by
  have hword := passes_word (w := "solution".toList) (by decide) s
  have hhere := atBoundary_of_trails (trails_append s) before
  unfold solutionWord
  generalize word "solution".toList s = a, word "solution".toList (s ++ ['\r']) = b at hword
  cases hword with
  | none => rfl
  | some hrest =>
    dsimp only
    rw [hhere, atBoundary_of_trails hrest]

/-- The quote that opens the value of a class attribute. -/
def openedQuote? (s : List Char) : Option (Char × List Char) :=
  match s with
  | q :: s => if isQuote q then some (q, s) else none
  | [] => none

lemma respects_openedQuote? : Respects TrailsBehind openedQuote? := by
  intro s
  cases s with
  | nil => exact .none
  | cons q s =>
    rw [List.cons_append, openedQuote?, openedQuote?]
    split
    · exact .some ⟨rfl, trails_append s⟩
    · exact .none

/-- A class attribute with its value open. -/
def classValue? (s : List Char) : Option (Char × List Char) :=
  (word "class".toList s).bind fun s =>
    (literal ['='] (dropBlanks s)).bind fun s => openedQuote? (dropBlanks s)

lemma solutionClass_eq (s : List Char) : solutionClass s = match classValue? s with
    | some (q, s) => somewhere isQuote solutionWord (some q) s
    | none => false := rfl

lemma respects_classValue? : Respects TrailsBehind classValue? := by
  have hquote := respects_openedQuote?.dropBlanks TrailsBehind.refl
  have hequals : Respects TrailsBehind fun s =>
      (literal ['='] s).bind fun s => openedQuote? (dropBlanks s) :=
    (passes_literal (by decide)).bind hquote TrailsBehind.refl
  exact (passes_word (by decide)).bind (hequals.dropBlanks TrailsBehind.refl) TrailsBehind.refl

lemma solutionClass_append_return (s : List Char) :
    solutionClass (s ++ ['\r']) = solutionClass s := by
  have hvalue := respects_classValue? s
  rw [solutionClass_eq, solutionClass_eq]
  generalize classValue? s = a, classValue? (s ++ ['\r']) = b at hvalue
  cases hvalue with
  | none => rfl
  | @some x y hrest =>
    obtain ⟨hquote, hrest⟩ := hrest
    obtain ⟨q, s⟩ := x
    obtain ⟨q', t⟩ := y
    obtain rfl : q' = q := hquote
    exact somewhere_of_trails solutionWord_append_return (fun before => rfl) hrest (some q')

lemma solutionTag_append_return (s : List Char) : solutionTag (s ++ ['\r']) = solutionTag s := by
  have hword := passes_word (w := "<div".toList) (by decide) s
  unfold solutionTag
  generalize word "<div".toList s = a, word "<div".toList (s ++ ['\r']) = b at hword
  cases hword with
  | none => rfl
  | some hrest =>
    dsimp only
    rw [atBoundary_of_trails hrest,
      somewhere_of_trails (fun _ => solutionClass_append_return) (fun _ => rfl) hrest]

lemma opensSolution_append_return (line : List Char) :
    opensSolution (line ++ ['\r']) = opensSolution line := by
  refine occurs_append_return (R := fun _ _ => True) (fun s => ?_) line
  rw [solutionTag_append_return]
  split
  · exact .some trivial
  · exact .none

lemma countAt_append_return {p : List Char → Bool} (hp : ∀ s, p (s ++ ['\r']) = p s)
    (hend : p [] = false) (s : List Char) : countAt p (s ++ ['\r']) = countAt p s := by
  induction s with
  | nil =>
    have hreturn : p ['\r'] = false := (hp []).trans hend
    simp [countAt, hreturn]
  | cons c s ih =>
    have hhere := hp (c :: s)
    rw [List.cons_append] at hhere ⊢
    rw [countAt, countAt, hhere, ih]

lemma opensDiv_append_return (s : List Char) : opensDiv (s ++ ['\r']) = opensDiv s := by
  have hdiv := passes_literal (p := "<div".toList) (by decide) s
  unfold opensDiv
  generalize literal "<div".toList s = a, literal "<div".toList (s ++ ['\r']) = b at hdiv
  cases hdiv with
  | none => rfl
  | some hrest => exact atBoundary_of_trails hrest (some 'v')

lemma divBalance_append_return (line : List Char) :
    divBalance (line ++ ['\r']) = divBalance line := by
  have hlower : lower (line ++ ['\r']) = lower line ++ ['\r'] := List.flatMap_append
  have hcloses : ∀ s, closesDiv (s ++ ['\r']) = closesDiv s :=
    (passes_literal (p := "</div>".toList) (by decide)).isSome_eq
  unfold divBalance
  dsimp only
  rw [hlower, countAt_append_return opensDiv_append_return rfl, countAt_append_return hcloses rfl]

/-- Lines have the same roles with and without a return at their ends. -/
lemma step_append_return (p : Place) (line : List Char) :
    p.step (line ++ ['\r']) = p.step line := by
  rw [Place.step, Place.step, divBalance_append_return, opensSolution_append_return,
    isFence_append_return]

end Roles

/-! ### Choices and arrows -/

section Choices

lemma passes_bracketed : PassesReturn bracketed :=
  (passes_literal (by decide)).bind
    (((passes_word (by decide)).or (passes_word (by decide))).bind (passes_literal (by decide))
      Trails.refl) Trails.refl

lemma passes_bracketMarker : PassesReturn bracketMarker := by
  have hmarker : bracketMarker = fun s => (bracketed (dropBlanks s)).map dropBlanks :=
    funext bracketMarker_eq
  rw [hmarker]
  exact (passes_bracketed.dropBlanks Trails.refl).map fun _ _ => Trails.dropBlanks

lemma passes_checkMarker : PassesReturn checkMarker :=
  ((passes_one (by decide)).dropBlanks Trails.refl).map fun _ _ => Trails.dropBlanks

lemma passes_wideGap : PassesReturn wideGap :=
  (passes_one (by decide)).bind (passes_many (by decide)) Trails.refl

/-- A marker takes the character that it opens with. -/
lemma length_of_bracketMarker (s rest : List Char) (h : bracketMarker s = some rest) :
    rest.length < s.length := by
  rw [bracketMarker_eq] at h
  obtain ⟨after, hbracketed, rfl⟩ := Option.map_eq_some_iff.mp h
  obtain ⟨inner, hopen, hclose⟩ := Option.bind_eq_some_iff.mp hbracketed
  obtain ⟨behind, hword, hclose⟩ := Option.bind_eq_some_iff.mp hclose
  have hinner : behind <:+ inner := by
    rcases Option.or_eq_some_iff.mp hword with hword | ⟨-, hword⟩ <;> exact suffix_of_word hword
  have hrest := (dropBlanks_suffix after).trans ((suffix_of_literal hclose).trans hinner)
  calc (dropBlanks after).length
    _ ≤ inner.length := hrest.length_le
    _ < (dropBlanks s).length := by rw [eq_append_of_literal hopen]; exact Nat.lt_succ_self _
    _ ≤ s.length := (dropBlanks_suffix s).length_le

lemma length_of_checkMarker (s rest : List Char) (h : checkMarker s = some rest) :
    rest.length < s.length := by
  obtain ⟨after, hcheck, rfl⟩ := Option.map_eq_some_iff.mp h
  calc (dropBlanks after).length
    _ ≤ after.length := (dropBlanks_suffix after).length_le
    _ < (dropBlanks s).length := length_of_one hcheck
    _ ≤ s.length := (dropBlanks_suffix s).length_le

/-- The return is trimmed off the text of a choice once its markers are replaced. -/
lemma stripMarkers_of_trails (h : Trails s t) : stripMarkers t = stripMarkers s := by
  have hbrackets := replaceAll_of_trails passes_bracketMarker length_of_bracketMarker h
  have hchecks := replaceAll_of_trails passes_checkMarker length_of_checkMarker hbrackets
  have hgaps := replaceAll_of_trails passes_wideGap
    (fun s rest hrest => Nat.lt_of_lt_of_le (Nat.lt_add_of_pos_right (Nat.succ_pos 1))
      (length_of_wideGap s rest hrest)) hchecks
  have hmarkers : dropMarkers t = dropMarkers s := by
    rw [dropMarkers_eq, dropMarkers_eq, hgaps.strip, occurs_of_trails passes_bracketMarker h,
      occurs_of_trails passes_checkMarker hbrackets]
  rw [stripMarkers_eq, stripMarkers_eq, hmarkers]

/-- What a mark that is not bare is not. -/
lemma ne_of_not_bare (h : isBareMark line = false) :
    line ≠ ['#', '#'] ∧ (∀ c, isBlank c = true → line ≠ ['#', c]) ∧ dropBlanks line ≠ ['-'] ∧
      Lint.label (skip (literal ['*']) (dropBlanks line)) ≠ some [] := by
  have hhash : ∀ c, dropBlanks ['#', c] = ['#', c] ∧ skip (literal ['*']) ['#', c] = ['#', c] :=
    fun c => ⟨rfl, rfl⟩
  unfold isBareMark at h
  split at h
  · next c =>
    rw [Bool.or_eq_false_iff] at h
    rw [(hhash c).1, (hhash c).2, Lint.label_cons_eq_none (by decide) (by decide)]
    refine ⟨fun hline => ?_, fun d hd hline => ?_, by simp, by simp⟩
    · rw [(List.cons.inj (List.cons.inj hline).2).1] at h
      cases h.1
    · rw [(List.cons.inj (List.cons.inj hline).2).1, hd] at h
      cases h.2
  · next hline =>
    rw [Bool.or_eq_false_iff, beq_eq_false_iff_ne, beq_eq_false_iff_ne] at h
    exact ⟨hline '#', fun c _ => hline c, h.1, h.2⟩

/-- A label of a choice. -/
def choiceLabel : Matcher := fun s => ((one isAsciiLetter s).or (shortNumber s)).bind closingParen

lemma labelled?_eq (line : List Char) : labelled? line =
    ((choiceLabel (skip (literal ['*']) (dropBlanks line))).bind blanks).map
      fun text => (startsWith (literal ['*']) (dropBlanks line), text) := by
  unfold labelled? choiceLabel
  simp only [Option.orElse_eq_orElse, Option.orElse_eq_or, Option.bind_eq_bind]
  cases (one isAsciiLetter (skip (literal ['*']) (dropBlanks line))).or
    (shortNumber (skip (literal ['*']) (dropBlanks line))) with
  | none => rfl
  | some after =>
    rw [Option.bind_some, Option.bind_some]
    cases closingParen after with
    | none => rfl
    | some rest =>
      rw [Option.bind_some, Option.bind_some]
      cases blanks rest <;> rfl

lemma passes_choiceLabel : PassesReturn choiceLabel := by
  have hdigit : PassesReturn (one isDigit) := passes_one (by decide)
  have hnumber : PassesReturn shortNumber := hdigit.map fun _ _ => skip_of_trails hdigit
  exact ((passes_one (by decide)).or hnumber).bind (passes_literal (by decide)) Trails.refl

lemma labelled?_append_return (h : isBareMark line = false) :
    Option.Rel TrailsBehind (labelled? line) (labelled? (line ++ ['\r'])) := by
  have hstar : PassesReturn (literal ['*']) := passes_literal (by decide)
  have hstarred : startsWith (literal ['*']) (dropBlanks (line ++ ['\r'])) =
      startsWith (literal ['*']) (dropBlanks line) := (hstar.dropBlanks Trails.refl).isSome_eq line
  have hlabel := passes_choiceLabel.of_trails Trails.refl
    (skip_of_trails hstar (trails_append line).dropBlanks)
  have hblanks := bind_blanks_of_trails hlabel fun hbare =>
    (ne_of_not_bare h).2.2.2 (Lint.label_of_ascii hbare)
  rw [labelled?_eq, labelled?_eq, hstarred]
  generalize (choiceLabel (skip (literal ['*']) (dropBlanks line))).bind blanks = a,
    (choiceLabel (skip (literal ['*']) (dropBlanks (line ++ ['\r'])))).bind blanks = b at hblanks
  cases hblanks with
  | none => exact .none
  | some htext => exact .some ⟨rfl, htext⟩

lemma dashed?_append_return (h : isBareMark line = false) :
    Option.Rel Trails (dashed? line) (dashed? (line ++ ['\r'])) := by
  have hdash : PassesReturn fun s => literal ['-'] (dropBlanks s) :=
    (passes_literal (by decide)).dropBlanks Trails.refl
  refine bind_blanks_of_trails (hdash line) fun hbare => (ne_of_not_bare h).2.2.1 ?_
  exact eq_append_of_literal hbare

/-- A choice is read with and without a return at the end of its line. -/
theorem readChoice?_append_return (h : isBareMark line = false) :
    readChoice? (line ++ ['\r']) = readChoice? line := by
  have hlabelled := labelled?_append_return h
  have hdashed := dashed?_append_return h
  unfold readChoice?
  simp only [Option.orElse_eq_orElse, Option.orElse_eq_or]
  generalize labelled? line = a, labelled? (line ++ ['\r']) = a' at hlabelled
  generalize dashed? line = b, dashed? (line ++ ['\r']) = b' at hdashed
  cases hlabelled with
  | @some x y hfound =>
    obtain ⟨hstarred, htext⟩ := hfound
    rw [Option.some_or, Option.some_or, Option.map_some, Option.map_some, hstarred,
      stripMarkers_of_trails htext]
  | none =>
    cases hdashed with
    | none => rfl
    | some htext =>
      rw [Option.none_or, Option.none_or, Option.map_some, Option.map_some, Option.map_some,
        Option.map_some, stripMarkers_of_trails htext]

lemma respects_arrowWord : Respects TrailsBehind arrowWord := by
  intro s
  have htrue := passes_word (w := "true".toList) (by decide) s
  have hfalse := passes_word (w := "false".toList) (by decide) s
  have htake : (word "false".toList s).isSome = true → (s ++ ['\r']).take 5 = s.take 5 := by
    intro hword
    obtain ⟨found, after, rfl, hfound⟩ := isSome_word_iff.mp hword
    have hlength : found.length = 5 := hfound.length_eq.symm
    rw [List.append_assoc, List.take_left' hlength, List.take_left' hlength]
  unfold arrowWord
  generalize word "true".toList s = a, word "true".toList (s ++ ['\r']) = a' at htrue
  generalize word "false".toList s = b, word "false".toList (s ++ ['\r']) = b' at hfalse htake
  cases htrue with
  | some h => exact .some ⟨rfl, h⟩
  | none =>
    cases hfalse with
    | none => exact .none
    | some h =>
      rw [Option.map_some, Option.map_some, htake rfl]
      exact .some ⟨rfl, h⟩

/-- An arrow with the answer behind it. -/
def arrowAnswer? (s : List Char) : Option (Arrow × List Char) :=
  ((literal ['-', '>'] s).or (literal ['→'] s)).bind fun s => arrowWord (dropBlanks s)

lemma arrowEnd?_eq (s : List Char) : arrowEnd? s =
    (arrowAnswer? (dropBlanks s)).bind fun x => if allBlank x.2 then some x.1 else none := by
  unfold arrowEnd? arrowAnswer?
  simp only [Option.orElse_eq_orElse, Option.orElse_eq_or, Option.bind_eq_bind, Option.bind_assoc]

lemma arrowEnd?_append_return (s : List Char) : arrowEnd? (s ++ ['\r']) = arrowEnd? s := by
  have hsign : PassesReturn fun s => (literal ['-', '>'] s).or (literal ['→'] s) :=
    (passes_literal (by decide)).or (passes_literal (by decide))
  have hanswer : Respects TrailsBehind arrowAnswer? :=
    hsign.bind (respects_arrowWord.dropBlanks TrailsBehind.refl) TrailsBehind.refl
  have hs := hanswer.dropBlanks TrailsBehind.refl s
  rw [arrowEnd?_eq, arrowEnd?_eq]
  dsimp only at hs
  generalize arrowAnswer? (dropBlanks s) = a, arrowAnswer? (dropBlanks (s ++ ['\r'])) = b at hs
  cases hs with
  | none => rfl
  | some h => rw [Option.bind_some, Option.bind_some, h.1, allBlank_of_trails h.2]

theorem splitArrow_append_return (line : List Char) :
    splitArrow (line ++ ['\r']) = splitArrow line := by
  have hend : Respects (fun _ _ => True) fun s => (arrowEnd? s).map fun _ => ([] : List Char) := by
    intro s
    dsimp only
    rw [arrowEnd?_append_return]
    cases arrowEnd? s with
    | none => exact .none
    | some a => exact .some trivial
  unfold splitArrow
  rw [splitAtMatch_append_return hend]
  cases splitAtMatch (fun s => (arrowEnd? s).map fun _ => []) line with
  | none => rfl
  | some found =>
    obtain ⟨before, rest⟩ := found
    simp [arrowEnd?_append_return]

end Choices

/-! ### Headings -/

section Headings

/-- The text of a heading; what of it is blank makes no difference. -/
def SameHeading (heading heading' : List Char) : Prop :=
  heading' = heading ∨ allBlank heading = true ∧ allBlank heading' = true

lemma heading?_append_return (h : isBareMark line = false) :
    Option.Rel SameHeading (heading? line) (heading? (line ++ ['\r'])) := by
  match line with
  | [] => exact .none
  | [c] =>
    by_cases hc : c = '#'
    · rw [hc]
      exact .none
    · rw [List.singleton_append, heading?_cons hc, heading?_cons hc]
      exact .none
  | c :: d :: rest =>
    by_cases hc : c = '#'
    · subst hc
      have hrest : isBlank d = true → rest ≠ [] := by
        rintro hd rfl
        exact (ne_of_not_bare h).2.1 d hd rfl
      rw [List.cons_append, List.cons_append, heading?, heading?]
      split
      · next hd =>
        rw [dropBlanks_append_return]
        cases hblank : allBlank rest with
        | true =>
          rw [dropBlanks_of_allBlank hblank, if_pos rfl, List.getLast?_concat,
            List.getLast?_eq_some_getLast (hrest hd)]
          have hlast := List.all_eq_true.mp hblank _ (List.getLast_mem (hrest hd))
          exact .some (.inr ⟨by simpa [allBlank] using hlast, rfl⟩)
        | false =>
          rw [if_neg Bool.false_ne_true]
          cases hdrop : dropBlanks rest with
          | nil =>
            have hall := List.all_eq_true.mpr (List.dropWhile_eq_nil_iff.mp hdrop)
            rw [← allBlank, hblank] at hall
            cases hall
          | cons e text =>
            have hend : dropBlanksEnd (e :: text ++ ['\r']) = dropBlanksEnd (e :: text) :=
              dropBlanksEnd_append (by decide)
            exact .some (.inl hend)
      · exact .none
    · rw [List.cons_append, heading?_cons hc, heading?_cons hc]
      exact .none

lemma questionHeader?_append_return (h : isBareMark line = false) :
    questionHeader? (line ++ ['\r']) = questionHeader? line := by
  have hnone : ∀ c d, [c, d] ≠ ['#', '#'] → ∀ rest, questionHeader? (c :: d :: rest) = none := by
    intro c d hne rest
    unfold questionHeader?
    split
    · next heq =>
      cases heq
      exact absurd rfl hne
    · rfl
  match line with
  | [] => rfl
  | [c] =>
    have hshort : questionHeader? [c] = none := by
      unfold questionHeader?
      split
      · next heq => cases heq
      · rfl
    rw [List.singleton_append, hnone c '\r' (by simp), hshort]
  | [c, d] =>
    rw [List.cons_append, List.singleton_append, hnone c d (ne_of_not_bare h).1,
      hnone c d (ne_of_not_bare h).1]
  | c :: d :: e :: rest =>
    by_cases hcd : [c, d] = ['#', '#']
    · obtain ⟨rfl, hd⟩ := List.cons.inj hcd
      obtain ⟨rfl, -⟩ := List.cons.inj hd
      simp only [List.cons_append, questionHeader?, (trails_append rest).strip]
    · rw [List.cons_append, List.cons_append, hnone c d hcd, hnone c d hcd]

end Headings

end QuizPreflight.Quiz

/-! ### Rules on markers -/

namespace QuizPreflight.Lint

open QuizPreflight.Text QuizPreflight.Quiz

variable {line : List Char}

lemma passes_label : PassesReturn label := by
  have hlabel : label = fun s => ((one isLatinLetter s).or (shortNumber s)).bind closingParen := by
    funext s
    rw [label, Option.orElse_eq_orElse, Option.orElse_eq_or]
    rfl
  have hdigit : PassesReturn (one isDigit) := passes_one (by decide)
  have hnumber : PassesReturn shortNumber := hdigit.map fun _ _ => skip_of_trails hdigit
  rw [hlabel]
  exact ((passes_one (by decide)).or hnumber).bind (passes_literal (by decide)) Trails.refl

lemma passes_boldSpan : PassesReturn boldSpan :=
  (passes_literal (by decide)).bind
    (respects_many_bind (· != '*') (passes_literal (by decide)) Trails.refl rfl) Trails.refl

lemma hasBoldMarker_append_return (line : List Char) :
    hasBoldMarker (line ++ ['\r']) = hasBoldMarker line := by
  have hstar : PassesReturn (literal ['*']) := passes_literal (by decide)
  have hmark : PassesReturn fun s => (label (skip (literal ['*']) s)).or (literal ['-'] s) :=
    (hstar.skip passes_label Trails.refl).or (passes_literal (by decide))
  have hspan : PassesReturn fun s =>
      ((label (skip (literal ['*']) s)).or (literal ['-'] s)).bind fun s =>
        (blanks s).bind boldSpan :=
    hmark.bind (respects_blanks_bind passes_boldSpan Trails.refl rfl) Trails.refl
  have hline := (hspan.dropBlanks Trails.refl).isSome_eq line
  unfold hasBoldMarker startsWith
  simpa only [Option.orElse_eq_orElse, Option.orElse_eq_or, Option.bind_eq_bind] using hline

lemma hasPrefixMarker_append_return (h : isBareMark line = false) :
    hasPrefixMarker (line ++ ['\r']) = hasPrefixMarker line := by
  have hstar : PassesReturn (literal ['*']) := passes_literal (by decide)
  have hlabel : PassesReturn fun s => (literal ['*'] s).bind label :=
    hstar.bind passes_label Trails.refl
  have hdouble : PassesReturn fun s => literal ['*', '*'] (dropBlanks s) :=
    (passes_literal (by decide)).dropBlanks Trails.refl
  have hblanks : Option.Rel Trails (((literal ['*'] (dropBlanks line)).bind label).bind blanks)
      (((literal ['*'] (dropBlanks (line ++ ['\r']))).bind label).bind blanks) := by
    refine bind_blanks_of_trails (hlabel.dropBlanks Trails.refl line) fun hbare => ?_
    obtain ⟨after, hafter, hrest⟩ := Option.bind_eq_some_iff.mp hbare
    refine (ne_of_not_bare h).2.2.2 ?_
    rw [skip, hafter, Option.getD_some, hrest]
  have hnumbered := isSome_eq_of_rel hblanks
  have hstars := hdouble.isSome_eq line
  unfold hasPrefixMarker startsWith
  simp only [Option.bind_eq_bind, ← Option.bind_assoc]
  rw [hnumbered, hstars]

end QuizPreflight.Lint
