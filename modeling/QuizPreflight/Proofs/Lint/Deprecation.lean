import QuizPreflight.Lint.Check
import QuizPreflight.Proofs.Quiz.Boldface
import QuizPreflight.Proofs.Quiz.Outline
import QuizPreflight.Proofs.Text.Character
import QuizPreflight.Yaml.Document

/-!
# Deprecated markers

A choice is made correct by a recommended marker, by bold type or by an asterisk before its label.
The rules on deprecated markers match every line on which one of the latter two does it alone, and
their findings bear the number that the line has in the document.
-/
namespace QuizPreflight.Lint

open QuizPreflight.Text QuizPreflight.Quiz

/-! ### Lines -/

section Lines

variable {line s rest text : List Char} {starred : Bool} {c : Char}

lemma isLatinLetter_of_isAsciiLetter (h : isAsciiLetter c = true) : isLatinLetter c = true := by
  rw [isAsciiLetter] at h
  simp [isLatinLetter, h]

lemma isLatinLetter_of_isDigit (h : isDigit c = true) : isLatinLetter c = false := by
  have hletter := isAsciiLetter_of_isDigit h
  have hne : ∀ d : Char, isDigit d = false → (c == d) = false := by
    rintro d hd
    rw [beq_eq_false_iff_ne]
    rintro rfl
    rw [h] at hd
    cases hd
  rw [isAsciiLetter] at hletter
  rw [isLatinLetter, hletter, hne _ (by decide), hne _ (by decide), hne _ (by decide),
    hne _ (by decide)]
  rfl

/-- What counts as a label for a choice does so for the rules. -/
lemma label_of_ascii (h : ((one isAsciiLetter s).or (shortNumber s)).bind closingParen =
    some rest) : label s = some rest := by
  have hlabel : label s = ((one isLatinLetter s).or (shortNumber s)).bind closingParen := by
    rw [label, Option.orElse_eq_orElse, Option.orElse_eq_or]
    rfl
  rw [hlabel]
  cases s with
  | nil => exact h
  | cons c s =>
    cases hletter : isAsciiLetter c with
    | true =>
      simp only [one, hletter, isLatinLetter_of_isAsciiLetter hletter, if_true] at h ⊢
      exact h
    | false =>
      cases hdigit : isDigit c with
      | true =>
        simp only [one, hletter, isLatinLetter_of_isDigit hdigit] at h ⊢
        exact h
      | false => simp [one, hletter, shortNumber, hdigit] at h

lemma exists_of_labelled? (h : labelled? line = some (starred, text)) :
    ∃ rest, label (skip (literal ['*']) (dropBlanks line)) = some rest ∧
      blanks rest = some text ∧ startsWith (literal ['*']) (dropBlanks line) = starred := by
  obtain ⟨after, hlabel, h⟩ := Option.bind_eq_some_iff.mp h
  obtain ⟨rest, hparen, h⟩ := Option.bind_eq_some_iff.mp h
  obtain ⟨found, hblanks, h⟩ := Option.bind_eq_some_iff.mp h
  obtain ⟨rfl, rfl⟩ := Prod.mk.inj (Option.some.inj h)
  rw [Option.orElse_eq_orElse, Option.orElse_eq_or] at hlabel
  refine ⟨rest, label_of_ascii ?_, hblanks, rfl⟩
  rw [hlabel, Option.bind_some, hparen]

lemma label_cons_eq_none {c : Char} (hletter : isLatinLetter c = false) (hdigit : isDigit c = false)
    (s : List Char) : label (c :: s) = none := by
  simp [label, one, hletter, hdigit]

lemma exists_of_blanks (h : blanks s = some text) : ∃ c rest, s = c :: rest ∧
    dropBlanks rest = text := by
  cases s with
  | nil => cases h
  | cons c s =>
    rw [blanks] at h
    split at h
    · exact ⟨c, s, rfl, Option.some.inj h⟩
    · cases h

lemma startsPlain_of_blanks (h : blanks s = some text) : StartsPlain text := by
  obtain ⟨c, rest, -, rfl⟩ := exists_of_blanks h
  exact dropBlanks_eq_self_iff.mp (List.dropWhile_idempotent isBlank rest)

lemma suffix_of_blanks (h : blanks s = some text) : text <:+ s := by
  obtain ⟨c, rest, rfl, rfl⟩ := exists_of_blanks h
  exact (dropBlanks_suffix rest).trans (List.suffix_cons c rest)

lemma suffix_of_label (h : label s = some rest) : rest <:+ s := by
  obtain ⟨after, hafter, hparen⟩ := Option.bind_eq_some_iff.mp h
  refine (suffix_of_literal hparen).trans ?_
  rw [Option.orElse_eq_orElse, Option.orElse_eq_or, Option.or_eq_some_iff] at hafter
  rcases hafter with hletter | ⟨-, hnumber⟩
  · exact suffix_of_one hletter
  · obtain ⟨behind, hdigit, rfl⟩ := Option.map_eq_some_iff.mp hnumber
    exact (skip_suffix (fun _ _ => suffix_of_one) behind).trans (suffix_of_one hdigit)

lemma hasPrefixMarker_of_starred
    (hlabel : label (skip (literal ['*']) (dropBlanks line)) = some rest)
    (hblanks : blanks rest = some text)
    (hstar : startsWith (literal ['*']) (dropBlanks line) = true) :
    hasPrefixMarker line = true := by
  obtain ⟨after, hafter⟩ := Option.isSome_iff_exists.mp hstar
  rw [skip, hafter, Option.getD_some] at hlabel
  -- a second asterisk would stand where the label has to begin
  have hsingle : literal ['*', '*'] (dropBlanks line) = none := by
    rw [literal_cons, hafter, Option.bind_some]
    cases hsecond : literal ['*'] after with
    | none => rfl
    | some behind =>
      rw [eq_append_of_literal hsecond, List.cons_append,
        label_cons_eq_none (by decide) (by decide)] at hlabel
      cases hlabel
  simp [hasPrefixMarker, startsWith, hafter, hlabel, hblanks, hsingle]

lemma hasBoldMarker_of_labelled
    (hlabel : label (skip (literal ['*']) (dropBlanks line)) = some rest)
    (hblanks : blanks rest = some text) (hbold : (boldSpan text).isSome = true) :
    hasBoldMarker line = true := by
  simp [hasBoldMarker, startsWith, hlabel, hblanks, hbold]

lemma hasBoldMarker_of_dashed (h : dashed? line = some text)
    (hbold : (boldSpan text).isSome = true) : hasBoldMarker line = true := by
  obtain ⟨rest, hdash, hblanks⟩ := Option.bind_eq_some_iff.mp h
  -- the dash is neither an asterisk nor the beginning of a label
  have hskip : skip (literal ['*']) (dropBlanks line) = dropBlanks line := by
    rw [eq_append_of_literal hdash]
    rfl
  have hlabel : label (dropBlanks line) = none := by
    rw [eq_append_of_literal hdash]
    exact label_cons_eq_none (by decide) (by decide) rest
  simp [hasBoldMarker, startsWith, hskip, hlabel, hdash, hblanks, hbold]

/-- The text of a choice stands in its line, and shows there what makes it correct. -/
lemma marked_of_text (hstart : StartsPlain text) (htext : text <:+ line)
    (hbold : (boldSpan text).isSome = true → hasBoldMarker line = true)
    (hmarked : (stripMarkers text).2 = true) : Recommended line ∨ hasBoldMarker line = true := by
  rcases boldSpan_of_stripMarkers hstart hmarked with hmarker | hspan
  · exact .inl (hmarker.of_suffix htext)
  · exact .inr (hbold hspan)

/-- A choice that is correct has a recommended marker or one that a rule matches. -/
lemma marked_of_readChoice? {c : Choice} (h : readChoice? line = some c)
    (hc : c.isCorrect = true) :
    Recommended line ∨ hasBoldMarker line = true ∨ hasPrefixMarker line = true := by
  obtain ⟨⟨starred, text⟩, hfound, rfl⟩ := Option.map_eq_some_iff.mp h
  rw [Option.orElse_eq_orElse, Option.orElse_eq_or, Option.or_eq_some_iff] at hfound
  rw [Bool.or_eq_true] at hc
  rcases hfound with hlabelled | ⟨-, hdashed⟩
  · obtain ⟨rest, hlabel, hblanks, hstar⟩ := exists_of_labelled? hlabelled
    rcases hc with hmarked | hstarred
    · have hafter : skip (literal ['*']) (dropBlanks line) <:+ line :=
        (skip_suffix (fun _ _ => suffix_of_literal) _).trans (dropBlanks_suffix line)
      have htext : text <:+ line :=
        ((suffix_of_blanks hblanks).trans (suffix_of_label hlabel)).trans hafter
      have hmarker := marked_of_text (startsPlain_of_blanks hblanks) htext
        (hasBoldMarker_of_labelled hlabel hblanks) hmarked
      exact hmarker.imp_right .inl
    · rw [← hstar] at hstarred
      exact .inr (.inr (hasPrefixMarker_of_starred hlabel hblanks hstarred))
  · obtain ⟨after, hdash, heq⟩ := Option.map_eq_some_iff.mp hdashed
    obtain ⟨rfl, rfl⟩ := Prod.mk.inj heq
    obtain ⟨rest, hliteral, hblanks⟩ := Option.bind_eq_some_iff.mp hdash
    have htext : after <:+ line := ((suffix_of_blanks hblanks).trans
      (suffix_of_literal hliteral)).trans (dropBlanks_suffix line)
    have hmarked : (stripMarkers after).2 = true := hc.resolve_right Bool.false_ne_true
    have hmarker := marked_of_text (startsPlain_of_blanks hblanks) htext
      (hasBoldMarker_of_dashed hdash) hmarked
    exact hmarker.imp_right .inl

/-- The rules match every line that makes a choice correct without a recommended marker. -/
lemma exists_markerRule {c : Choice} (h : readChoice? line = some c) (hc : c.isCorrect = true)
    (hline : ¬Recommended line) : ∃ r ∈ markerRules, r.matches line = true := by
  rcases (marked_of_readChoice? h hc).resolve_left hline with hbold | hprefix
  · exact ⟨deprecatedBold, by simp [markerRules], hbold⟩
  · exact ⟨deprecatedPrefix, by simp [markerRules], hprefix⟩

end Lines

/-! ### Where choices come from -/

/-- The choice lines among some lines, up to the next heading. -/
def choiceLines (below : List (List Char × Nat)) : List (List Char × Nat) :=
  (below.takeWhile fun line => !isHeadingLine line.1).filter fun line => (readChoice? line.1).isSome

/-- The choice lines of every question with their numbers. -/
def sourcesOf : List (List Char × Nat) → List (List (List Char × Nat))
  | [] => []
  | line :: below =>
    if isQuestionLine line.1 then choiceLines below :: sourcesOf below else sourcesOf below

/-- The choices of a question are read from lines, one from each. Where there are no lines, an
arrow answer may have named them. -/
def ReadFrom (q : Question) (lines : List (List Char × Nat)) : Prop :=
  List.Forall₂ (fun c line => readChoice? line.1 = some c) q.choices lines ∨
    lines = [] ∧ ∃ a : Arrow, q.choices = a.choices

section Sources

variable {active lines : List (List Char × Nat)} {loader : Yaml.Loader} {content : String}
  {quiz : Quiz}

lemma written_of_choiceLines (below : List (List Char × Nat)) :
    List.Forall₂ (fun c line => readChoice? line.1 = some c)
      ((linesAbove below).filterMap readChoice?) (choiceLines below) := by
  rw [linesAbove, choiceLines, List.filterMap_map]
  induction below.takeWhile fun line => !isHeadingLine line.1 with
  | nil => exact .nil
  | cons line below ih =>
    cases hline : readChoice? line.1 with
    | none => simpa [hline] using ih
    | some c => simpa [hline] using ih

lemma readFrom_choiceLines {q : Question} {b : Block} (hq : q.choices = b.choices)
    {below : List (List Char × Nat)} (hlines : b.lines = linesAbove below) :
    ReadFrom q (choiceLines below) := by
  have hwritten := written_of_choiceLines below
  rw [← hlines, ← Block.written] at hwritten
  by_cases hne : b.written = []
  · rw [hne, List.forall₂_nil_left_iff] at hwritten
    have hnil : choiceLines below = [] := hwritten
    cases harrow : b.arrows.getLast? with
    | none =>
      rw [ReadFrom, hq, b.choices_of_nothing hne (List.getLast?_eq_none_iff.mp harrow), hnil]
      exact .inl .nil
    | some a => exact .inr ⟨hnil, a, hq.trans (b.choices_of_arrow hne harrow)⟩
  · exact .inl (by rw [hq, b.choices_of_written hne]; exact hwritten)

lemma readFrom_sourcesOf {qs : List Question}
    (h : qs.map Question.choices = (blocksOf active).map Block.choices) :
    List.Forall₂ ReadFrom qs (sourcesOf active) := by
  induction active generalizing qs with
  | nil =>
    obtain rfl : qs = [] := List.map_eq_nil_iff.mp h
    exact .nil
  | cons line active ih =>
    obtain ⟨line, n⟩ := line
    cases hheader : questionHeader? line with
    | none =>
      rw [blocksOf_cons_of_none hheader] at h
      simpa [sourcesOf, isQuestionLine, hheader] using ih h
    | some header =>
      rw [blocksOf_cons_of_header hheader] at h
      obtain ⟨q, qs, rfl, hq, hqs⟩ := List.map_eq_cons_iff.mp h
      have hfirst : ReadFrom q (choiceLines active) := readFrom_choiceLines hq rfl
      simpa [sourcesOf, isQuestionLine, hheader] using ⟨hfirst, ih hqs⟩

lemma sources_subset (h : lines ∈ sourcesOf active) : lines ⊆ active := by
  induction active with
  | nil => cases h
  | cons line active ih =>
    have hbelow : choiceLines active ⊆ line :: active := fun x hx =>
      List.mem_cons_of_mem line ((List.takeWhile_prefix _).subset (List.mem_of_mem_filter hx))
    have hrest : lines ∈ sourcesOf active → lines ⊆ line :: active := fun hmem x hx =>
      List.mem_cons_of_mem line (ih hmem hx)
    rw [sourcesOf] at h
    split at h
    · rcases List.mem_cons.mp h with rfl | hmem
      · exact hbelow
      · exact hrest hmem
    · exact hrest h

lemma map_choices_of_parse (h : Quiz.parse loader content = .ok quiz) :
    quiz.questions.map Question.choices =
      (blocksOf (activeLines content.toList)).map Block.choices := by
  have hplaces := congrArg (List.map Prod.snd) (map_questionPlace_of_parse h)
  rw [List.map_map, List.map_map] at hplaces
  exact hplaces

end Sources

/-! ### Whole documents -/

/-- A finding of one of the rules on deprecated markers. -/
def IsDeprecation (d : Diagnostic) : Prop :=
  d.rule = "deprecated_bold_marker" ∨ d.rule = "deprecated_prefix_marker"

section Documents

variable {line : List Char} {n first : Nat} {lines : List (List Char)} {rules : List MarkerRule}
  {r : MarkerRule} {content : String} {selection : Selection}

/-- What a rule finds on a line bears the number of the line. -/
lemma exists_of_scanLines (hline : (line, n) ∈ lines.zipIdx first) (hr : r ∈ rules)
    (hmatch : r.matches line = true) (width : Width) :
    ∃ d ∈ scanLines rules width first lines, d.rule = r.name ∧ d.line = some (n : Int) := by
  induction lines generalizing first with
  | nil => cases hline
  | cons head lines ih =>
    rw [List.zipIdx_cons] at hline
    rcases List.mem_cons.mp hline with heq | hmem
    · obtain ⟨rfl, rfl⟩ := Prod.mk.inj heq
      have hmem : r ∈ rules.filter (·.matches line) := List.mem_filter.mpr ⟨hr, hmatch⟩
      exact ⟨_, List.mem_append_left _ (List.mem_map_of_mem hmem), rfl, rfl⟩
    · obtain ⟨d, hd, hfound⟩ := ih hmem
      exact ⟨d, List.mem_append_right _ hd, hfound⟩

/-- A line that makes a choice correct without a recommended marker is found by its number. -/
lemma exists_deprecation (hselection : ∀ r ∈ markerRules, isSelected selection r.name = true)
    (hline : (line, n) ∈ (splitLines (cut content.toList).body).zipIdx
      ((cut content.toList).offset + 1))
    (hmatch : ∃ r ∈ markerRules, r.matches line = true) (width : Width) :
    ∃ d ∈ markerFindings content selection width, IsDeprecation d ∧ d.line = some (n : Int) := by
  obtain ⟨r, hr, hmatch⟩ := hmatch
  have hrun : r ∈ markerRules.filter (isSelected selection ·.name) :=
    List.mem_filter.mpr ⟨hr, hselection r hr⟩
  obtain ⟨d, hd, hname, hnumber⟩ := exists_of_scanLines hline hrun hmatch width
  refine ⟨d, hd, ?_, hnumber⟩
  rw [IsDeprecation, hname]
  rcases List.mem_pair.mp hr with rfl | rfl
  · exact .inl rfl
  · exact .inr rfl

/-- Every way to mark a choice as correct that is not recommended is known to the rules on
deprecated markers. The choices of a quiz come from lines of the document; where such a line makes
its choice correct without a recommended marker, a finding bears its number. -/
theorem lint_deprecations :
    (∀ line c, readChoice? line = some c → c.isCorrect = true → ¬Recommended line →
      ∃ r ∈ markerRules, r.matches line = true) ∧
    ∀ (loader : Yaml.Loader) (content : String) (quiz : Quiz) (selection : Selection)
        (width : Width),
      Quiz.parse loader content = .ok quiz →
      (∀ r ∈ markerRules, isSelected selection r.name = true) →
      ∃ ds, lint loader content selection width = .ok ds ∧
        List.Forall₂ ReadFrom quiz.questions (sourcesOf (activeLines content.toList)) ∧
        ∀ lines ∈ sourcesOf (activeLines content.toList), ∀ line n, (line, n) ∈ lines →
          (line, n) ∈ (splitLines content.toList).zipIdx 1 ∧
          ∀ c, readChoice? line = some c → c.isCorrect = true →
            (¬Recommended line → ∃ d ∈ ds, IsDeprecation d ∧ d.line = some (n : Int)) ∧
            ((∀ d ∈ ds, ¬IsDeprecation d) → Recommended line) := by
  refine ⟨fun line c => exists_markerRule, ?_⟩
  intro loader content quiz selection width hquiz hselection
  refine ⟨_, lintWith_of_ok hquiz selection width,
    readFrom_sourcesOf (map_choices_of_parse hquiz), ?_⟩
  intro lines hlines line n hline
  have hactive := sources_subset hlines hline
  refine ⟨List.drop_subset _ _ ((activeAmong_sublist _ _).subset hactive), fun c hc hcorrect => ?_⟩
  rw [activeLines_eq] at hactive
  have hfound (hnot : ¬Recommended line) :
      ∃ d ∈ lintQuestions content quiz.questions selection width,
        IsDeprecation d ∧ d.line = some (n : Int) := by
    obtain ⟨d, hd, hdeprecated⟩ := exists_deprecation hselection
      ((activeAmong_sublist _ _).subset hactive) (exists_markerRule hc hcorrect hnot) width
    exact ⟨d, List.mem_append_left _ hd, hdeprecated⟩
  refine ⟨hfound, fun hnone => ?_⟩
  by_contra hnot
  obtain ⟨d, hd, hdeprecated, -⟩ := hfound hnot
  exact hnone d hd hdeprecated

/-- A choice with an asterisk before its label, below front matter. -/
theorem lint_starred : ∃ ds,
    lint Yaml.safeLoader "---\n\n---\n## 1. Q\n*a) A" none defaultWidth = .ok ds ∧
    ∃ d ∈ ds, IsDeprecation d ∧ d.line = some 5 := by
  obtain ⟨quiz, hquiz⟩ : ∃ quiz,
      Quiz.parse Yaml.safeLoader "---\n\n---\n## 1. Q\n*a) A" = .ok quiz := ⟨_, rfl⟩
  obtain ⟨c, hc, hcorrect⟩ : ∃ c, readChoice? "*a) A".toList = some c ∧ c.isCorrect = true :=
    ⟨_, rfl, Bool.or_true _⟩
  have hplain : ¬Recommended "*a) A".toList := by
    rintro (⟨found, -, hfound⟩ | h | h)
    · exact absurd (hfound.subset List.mem_cons_self) (by decide)
    · exact absurd h (by decide)
    · exact absurd h (by decide)
  obtain ⟨ds, hds, -, hlines⟩ := lint_deprecations.2 _ _ quiz none defaultWidth hquiz fun _ _ => rfl
  obtain ⟨-, hfound⟩ := hlines [("*a) A".toList, 5)] (by decide) "*a) A".toList 5 (by decide)
  exact ⟨ds, hds, (hfound c hc hcorrect).1 hplain⟩

end Documents

end QuizPreflight.Lint
