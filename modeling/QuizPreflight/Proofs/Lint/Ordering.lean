import Mathlib.Data.List.Forall2
import QuizPreflight.Proofs.Lint.Selection
import QuizPreflight.Proofs.Quiz.Attribution

/-!
# The order of findings

The raw lines of a document are told of first, line by line and on each line in the order of the
rule table; then the questions one after the other; then the ids that are borne twice, each where it
is borne first. The questions of a parsed quiz come in the order of their lines, so that line
numbers never decrease in any of the three parts.
-/
namespace QuizPreflight.Lint

open QuizPreflight.Text

/-! ### Raw lines -/

/-- A numbered line and a marker rule with its place in the table. -/
structure Hit where
  line : List Char
  number : Nat
  rule : MarkerRule
  place : Nat

namespace Hit

/-- The line stands below the front matter of a document, and the rule is selected and matches. -/
structure Counts (content : String) (selection : Selection) (h : Hit) : Prop where
  line : (h.line, h.number) ∈ (splitLines content.toList).zipIdx 1
  below : (Quiz.cut content.toList).offset < h.number
  rule : (h.rule, h.place) ∈ markerRules.zipIdx
  selected : isSelected selection h.rule.name = true
  isMatch : h.rule.matches h.line = true

/-- Lines come before places in the table. -/
def Precedes (h h' : Hit) : Prop :=
  h.number < h'.number ∨ h.number = h'.number ∧ h.place < h'.place

def diagnostic (width : Width) (h : Hit) : Diagnostic :=
  ⟨h.rule.name, h.rule.severity, h.rule.message, some h.number,
    some (String.ofList (cutTo width (strip h.line)))⟩

end Hit

/-- One finding for each hit that counts, in their order. -/
def IsScan (content : String) (selection : Selection) (width : Width) (ds : List Diagnostic) :
    Prop :=
  ∃ hits : List Hit, hits.Pairwise Hit.Precedes ∧ (∀ h, h ∈ hits ↔ h.Counts content selection) ∧
    ds = hits.map (Hit.diagnostic width)

/-- The hits on a line in the order of the table. -/
def hitsOn (selection : Selection) (line : List Char × Nat) : List Hit :=
  (markerRules.zipIdx.filter fun r => isSelected selection r.1.name && r.1.matches line.1).map
    fun r => ⟨line.1, line.2, r.1, r.2⟩

section Scanning

variable {content : String} {selection : Selection} {width : Width} {h : Hit}

lemma mem_hitsOn {line : List Char × Nat} :
    h ∈ hitsOn selection line ↔ (h.line, h.number) = line ∧ (h.rule, h.place) ∈ markerRules.zipIdx ∧
      isSelected selection h.rule.name = true ∧ h.rule.matches h.line = true := by
  simp only [hitsOn, List.mem_map, List.mem_filter, Bool.and_eq_true]
  constructor
  · rintro ⟨r, ⟨hr, hselected, hmatch⟩, rfl⟩
    exact ⟨rfl, hr, hselected, hmatch⟩
  · rintro ⟨rfl, hr, hselected, hmatch⟩
    exact ⟨(h.rule, h.place), ⟨hr, hselected, hmatch⟩, rfl⟩

lemma pairwise_hitsOn (selection : Selection) (line : List Char × Nat) :
    (hitsOn selection line).Pairwise Hit.Precedes :=
  List.pairwise_map.mpr
    (((Quiz.pairwise_zipIdx markerRules 0).filter _).imp fun hlt => .inr ⟨rfl, hlt⟩)

lemma map_diagnostic_hitsOn (width : Width) (line : List Char) (n : Nat) :
    (hitsOn selection (line, n)).map (Hit.diagnostic width) =
      scanLine (markerRules.filter (isSelected selection ·.name)) width n line := by
  have hrules : markerRules = markerRules.zipIdx.map Prod.fst := (List.zipIdx_map_fst 0 _).symm
  rw [scanLine, List.filter_filter, hitsOn, List.map_map]
  conv_rhs => rw [hrules, List.filter_map, List.map_map]
  refine congrArg _ (List.filter_congr fun r _ => Bool.and_comm _ _)

lemma map_diagnostic_hits (width : Width) (lines : List (List Char)) (n : Nat) :
    ((lines.zipIdx n).flatMap (hitsOn selection)).map (Hit.diagnostic width) =
      scanLines (markerRules.filter (isSelected selection ·.name)) width n lines := by
  induction lines generalizing n with
  | nil => rfl
  | cons line lines ih =>
    rw [List.zipIdx_cons, List.flatMap_cons, List.map_append, map_diagnostic_hitsOn, ih, scanLines]
    rfl

/-- The lines below the front matter keep the numbers that they have in the whole document. -/
lemma mem_zipIdx_body {line : List Char × Nat} :
    line ∈ (splitLines (Quiz.cut content.toList).body).zipIdx
        ((Quiz.cut content.toList).offset + 1) ↔
      line ∈ (splitLines content.toList).zipIdx 1 ∧
        (Quiz.cut content.toList).offset < line.2 := by
  rw [Quiz.splitLines_body, List.mem_zipIdx_iff_le_and_getElem?_sub,
    List.mem_zipIdx_iff_le_and_getElem?_sub, List.getElem?_drop]
  constructor
  · rintro ⟨hle, hline⟩
    have hnumber : (Quiz.cut content.toList).offset +
        (line.2 - ((Quiz.cut content.toList).offset + 1)) = line.2 - 1 := by omega
    rw [hnumber] at hline
    exact ⟨⟨by omega, hline⟩, hle⟩
  · rintro ⟨⟨-, hline⟩, hlt⟩
    have hnumber : (Quiz.cut content.toList).offset +
        (line.2 - ((Quiz.cut content.toList).offset + 1)) = line.2 - 1 := by omega
    rw [hnumber]
    exact ⟨hlt, hline⟩

/-- The scan finds every hit below the front matter once, and in order. -/
theorem isScan_markerFindings (content : String) (selection : Selection) (width : Width) :
    IsScan content selection width (markerFindings content selection width) := by
  refine ⟨((splitLines (Quiz.cut content.toList).body).zipIdx
    ((Quiz.cut content.toList).offset + 1)).flatMap (hitsOn selection), ?_, fun h => ?_, ?_⟩
  · refine List.pairwise_flatMap.mpr ⟨fun line _ => pairwise_hitsOn selection line, ?_⟩
    refine (Quiz.pairwise_zipIdx _ _).imp fun hlt h hh h' hh' => .inl ?_
    rwa [← congrArg Prod.snd (mem_hitsOn.mp hh).1, ← congrArg Prod.snd (mem_hitsOn.mp hh').1] at hlt
  · rw [List.mem_flatMap]
    constructor
    · rintro ⟨line, hline, hhit⟩
      obtain ⟨rfl, hrule, hselected, hmatch⟩ := mem_hitsOn.mp hhit
      obtain ⟨hmem, hbelow⟩ := mem_zipIdx_body.mp hline
      exact ⟨hmem, hbelow, hrule, hselected, hmatch⟩
    · intro hcounts
      exact ⟨(h.line, h.number), mem_zipIdx_body.mpr ⟨hcounts.line, hcounts.below⟩,
        mem_hitsOn.mpr ⟨rfl, hcounts.rule, hcounts.selected, hcounts.isMatch⟩⟩
  · rw [map_diagnostic_hits]
    rfl

end Scanning

/-! ### Questions -/

/-- The findings on the questions one after the other, each at the line of its question. -/
def IsReview (selection : Selection) (qs : List Question) (ds : List Diagnostic) : Prop :=
  ds = (qs.zipIdx 1).flatMap (fun b => questionFindings selection b.1 b.2) ∧
    ∀ b ∈ qs.zipIdx 1, ∀ d ∈ questionFindings selection b.1 b.2, d.line = some b.1.sourceLine

lemma line_of_questionRules (q : Question) (index : Nat) :
    ∀ r ∈ questionRules, ∀ d ∈ r.check q index, d.line = some q.sourceLine := by
  simp only [questionRules, List.forall_mem_cons]
  refine ⟨?_, ?_, ?_, ?_, by simp⟩ <;> exact forall_mem_when.mpr fun _ => rfl

lemma eachQuestion_eq_flatMap (selection : Selection) (index : Nat) (qs : List Question) :
    eachQuestion selection index qs =
      (qs.zipIdx index).flatMap fun b => questionFindings selection b.1 b.2 := by
  induction qs generalizing index with
  | nil => rfl
  | cons q qs ih => rw [eachQuestion, ih, List.zipIdx_cons, List.flatMap_cons]

lemma isReview_eachQuestion (selection : Selection) (qs : List Question) :
    IsReview selection qs (eachQuestion selection 1 qs) := by
  refine ⟨eachQuestion_eq_flatMap selection 1 qs, fun b _ d hd => ?_⟩
  obtain ⟨r, hr, hfound⟩ := List.mem_flatMap.mp hd
  exact line_of_questionRules b.1 b.2 r (List.mem_of_mem_filter hr) d hfound

/-! ### Ids -/

/-- A question with its index among `qs` that is the first one with its id, of at least two in
`all`. -/
structure FirstBearer (all : List Question) (qs : List (Question × Nat)) (b : Question × Nat) :
    Prop where
  mem : b ∈ qs
  shared : 2 ≤ countId b.1.id all
  first : ∀ b' ∈ qs, b'.2 < b.2 → b'.1.id ≠ b.1.id

def duplicate (b : Question × Nat) : Diagnostic :=
  finding b.1 b.2 "duplicate_question_ids" .error s!"Duplicate Question ID found: {b.1.id}"

/-- One finding for each id borne twice, at the first question that bears it, in their order. -/
def IsCensus (selection : Selection) (qs : List Question) (ds : List Diagnostic) : Prop :=
  ∃ bearers : List (Question × Nat), bearers.Sublist (qs.zipIdx 1) ∧
    (∀ b, b ∈ bearers ↔
      isSelected selection "duplicate_question_ids" = true ∧ FirstBearer qs (qs.zipIdx 1) b) ∧
    ds = bearers.map duplicate

section Ids

variable {all qs : List Question} {q : Question} {reported : List String} {index : Nat}
  {b : Question × Nat}

lemma firstBearer_cons_self (h : 2 ≤ countId q.id all) :
    FirstBearer all ((q :: qs).zipIdx index) (q, index) := by
  refine ⟨List.mem_cons_self, h, fun b hb hlt => ?_⟩
  have hle := List.le_snd_of_mem_zipIdx hb
  exact absurd hlt (Nat.not_lt.mpr hle)

lemma firstBearer_cons_iff (h : b ≠ (q, index)) :
    FirstBearer all ((q :: qs).zipIdx index) b ↔
      FirstBearer all (qs.zipIdx (index + 1)) b ∧ q.id ≠ b.1.id := by
  rw [List.zipIdx_cons]
  constructor
  · intro hb
    have hmem : b ∈ qs.zipIdx (index + 1) := (List.mem_cons.mp hb.mem).resolve_left h
    have hlt : index < b.2 := List.le_snd_of_mem_zipIdx hmem
    exact ⟨⟨hmem, hb.shared, fun b' hb' => hb.first b' (List.mem_cons_of_mem _ hb')⟩,
      hb.first _ List.mem_cons_self hlt⟩
  · rintro ⟨hb, hq⟩
    exact ⟨List.mem_cons_of_mem _ hb.mem, hb.shared,
      List.forall_mem_cons.mpr ⟨fun _ => hq, hb.first⟩⟩

/-- The first bearers are told of, but for those with an id that was told of before. -/
lemma exists_duplicatesFrom (all : List Question) (reported : List String) (index : Nat)
    (qs : List Question) :
    ∃ bearers : List (Question × Nat), bearers.Sublist (qs.zipIdx index) ∧
      (∀ b, b ∈ bearers ↔ FirstBearer all (qs.zipIdx index) b ∧ b.1.id ∉ reported) ∧
      duplicatesFrom all reported index qs = bearers.map duplicate := by
  induction qs generalizing reported index with
  | nil =>
    refine ⟨[], List.nil_sublist _, fun b => iff_of_false List.not_mem_nil ?_, rfl⟩
    rintro ⟨hb, -⟩
    cases hb.mem
  | cons q qs ih =>
    rw [duplicatesFrom]
    split
    · next hskip =>
      obtain ⟨bearers, hsublist, hmem, hfound⟩ := ih reported (index + 1)
      have hother : ∀ b : Question × Nat, 2 ≤ countId b.1.id all → b.1.id ∉ reported →
          q.id ≠ b.1.id := by
        intro b hshared hnew hid
        rw [Bool.or_eq_true, decide_eq_true_eq, List.contains_iff_mem, hid] at hskip
        rcases hskip with hfew | hold
        · exact Nat.not_lt.mpr hshared hfew
        · exact hnew hold
      refine ⟨bearers, hsublist.cons _, fun b => ?_, hfound⟩
      rw [hmem]
      refine and_congr_left fun hnew => ?_
      by_cases hb : b = (q, index)
      · subst hb
        exact iff_of_false (fun hb => hother _ hb.shared hnew rfl)
          fun hb => hother _ hb.shared hnew rfl
      · rw [firstBearer_cons_iff hb]
        exact (and_iff_left_of_imp fun hbearer => hother b hbearer.shared hnew).symm
    · next htell =>
      obtain ⟨bearers, hsublist, hmem, hfound⟩ := ih (q.id :: reported) (index + 1)
      rw [Bool.or_eq_true, decide_eq_true_eq, List.contains_iff_mem, not_or, Nat.not_lt] at htell
      obtain ⟨hshared, hnew⟩ := htell
      refine ⟨(q, index) :: bearers, hsublist.cons_cons _, fun b => ?_, congrArg _ hfound⟩
      rw [List.mem_cons, hmem]
      by_cases hb : b = (q, index)
      · subst hb
        exact iff_of_true (.inl rfl) ⟨firstBearer_cons_self hshared, hnew⟩
      · rw [firstBearer_cons_iff hb, or_iff_right hb, List.mem_cons, not_or, and_assoc, ne_comm]

lemma isCensus_quizFindings (selection : Selection) (qs : List Question) :
    IsCensus selection qs (quizFindings selection qs) := by
  obtain ⟨bearers, hsublist, hmem, hfound⟩ := exists_duplicatesFrom qs [] 1 qs
  cases hselected : isSelected selection "duplicate_question_ids" with
  | true =>
    refine ⟨bearers, hsublist, fun b => ?_, ?_⟩
    · rw [hmem, hselected]
      simp
    · rw [quizFindings, quizRules, List.filter_singleton, hselected, cond_true,
        List.flatMap_singleton, ← hfound]
      rfl
  | false =>
    refine ⟨[], List.nil_sublist _, fun b => ?_, ?_⟩
    · rw [hselected]
      simp
    · rw [quizFindings, quizRules, List.filter_singleton, hselected, cond_false]
      rfl

end Ids

/-! ### Line numbers -/

/-- No finding stands at an earlier line than one before it. -/
def NeverBack (ds : List Diagnostic) : Prop :=
  ds.Pairwise fun d d' => ∀ n ∈ d.line, ∀ n' ∈ d'.line, n ≤ n'

section LineNumbers

variable {content : String} {selection : Selection} {width : Width} {qs : List Question}
  {ds : List Diagnostic}

lemma IsScan.neverBack (h : IsScan content selection width ds) : NeverBack ds := by
  obtain ⟨hits, hsorted, -, rfl⟩ := h
  refine List.pairwise_map.mpr (hsorted.imp fun {h h'} hlt n hn n' hn' => ?_)
  obtain rfl : (h.number : Int) = n := Option.some.inj hn
  obtain rfl : (h'.number : Int) = n' := Option.some.inj hn'
  rcases hlt with hlt | ⟨heq, -⟩
  · exact Int.ofNat_le.mpr hlt.le
  · exact Int.ofNat_le.mpr heq.le

lemma pairwise_sourceLine_zipIdx (h : (qs.map Question.sourceLine).Pairwise (· < ·)) :
    (qs.zipIdx 1).Pairwise fun b b' => b.1.sourceLine ≤ b'.1.sourceLine := by
  rw [← List.zipIdx_map_fst 1 qs, List.map_map, List.pairwise_map] at h
  exact h.imp Int.le_of_lt

lemma IsReview.neverBack (h : IsReview selection qs ds)
    (hqs : (qs.map Question.sourceLine).Pairwise (· < ·)) : NeverBack ds := by
  obtain ⟨rfl, hline⟩ := h
  refine List.pairwise_flatMap.mpr ⟨fun b hb => ?_, ?_⟩
  · refine List.pairwise_of_forall_mem_list fun d hd d' hd' n hn n' hn' => Int.le_of_eq ?_
    rw [hline b hb d hd] at hn
    rw [hline b hb d' hd'] at hn'
    exact (Option.some.inj hn).symm.trans (Option.some.inj hn')
  · refine (pairwise_sourceLine_zipIdx hqs).imp_of_mem ?_
    intro b b' hb hb' hle d hd d' hd' n hn n' hn'
    rw [hline b hb d hd] at hn
    rw [hline b' hb' d' hd'] at hn'
    rwa [← Option.some.inj hn, ← Option.some.inj hn']

lemma IsCensus.neverBack (h : IsCensus selection qs ds)
    (hqs : (qs.map Question.sourceLine).Pairwise (· < ·)) : NeverBack ds := by
  obtain ⟨bearers, hsublist, -, rfl⟩ := h
  refine List.pairwise_map.mpr (((pairwise_sourceLine_zipIdx hqs).sublist hsublist).imp ?_)
  intro b b' hle n hn n' hn'
  rwa [← Option.some.inj hn, ← Option.some.inj hn']

end LineNumbers

/-! ### Whole documents -/

section Documents

variable {ε : Type}

/-- The findings on the raw lines come first, in the order of the lines and on each line in that of
the rule table: one for each line below the front matter and each selected rule that matches it.
Then a quiz without questions is told of alone; otherwise the findings on the questions follow in
their order, and those on the ids that are borne twice. In a quiz that is parsed, line numbers never
decrease in any of the three parts. -/
theorem lintWith_in_order (parser : String → Except ε Quiz) (content : String)
    (selection : Selection) (width : Width) :
    IsScan content selection width (markerFindings content selection width) ∧
    ∀ quiz, parser content = .ok quiz → ∃ review census,
      lintWith parser content selection width =
        .ok (markerFindings content selection width ++ review ++ census) ∧
      (quiz.questions = [] →
        census = [] ∧ ∃ d, review = [d] ∧ d.rule = "no_questions" ∧ d.line = none) ∧
      (quiz.questions ≠ [] → IsReview selection quiz.questions review ∧
        IsCensus selection quiz.questions census) ∧
      ∀ loader, Quiz.parse loader content = .ok quiz →
        NeverBack (markerFindings content selection width) ∧ NeverBack review ∧
          NeverBack census := by
  have hscan := isScan_markerFindings content selection width
  refine ⟨hscan, fun quiz hquiz => ?_⟩
  rw [lintWith_of_ok hquiz, lintQuestions, structureFindings]
  by_cases hnone : quiz.questions = []
  · refine ⟨noQuestions quiz.questions, [], ?_, fun _ => ⟨rfl, ?_⟩, fun hne => absurd hnone hne,
      fun _ _ => ⟨hscan.neverBack, ?_, .nil⟩⟩
    · rw [hnone, List.isEmpty_nil, if_pos rfl, List.append_nil]
    · rw [hnone]
      exact ⟨_, rfl, rfl, rfl⟩
    · rw [hnone]
      exact List.pairwise_singleton _ _
  · have hreview := isReview_eachQuestion selection quiz.questions
    have hcensus := isCensus_quizFindings selection quiz.questions
    refine ⟨_, _, ?_, fun hnil => absurd hnil hnone, fun _ => ⟨hreview, hcensus⟩,
      fun loader hparse => ?_⟩
    · rw [if_neg (by rwa [List.isEmpty_iff]), List.append_assoc]
    · have hlines := Quiz.pairwise_questions_of_parse hparse
      exact ⟨hscan.neverBack, hreview.neverBack hlines, hcensus.neverBack hlines⟩

def twiceMarked : String := "---\n\n---\n*1) **A**\n- **B**\n## 1. Q\n## 1. R"

/-- A line that two rules match, a line that one of them matches, and two questions with one id. -/
theorem lint_twice_marked : ∃ quiz review census,
    Quiz.parse Yaml.safeLoader twiceMarked = .ok quiz ∧
    lint Yaml.safeLoader twiceMarked none (some 4) =
      .ok (markerFindings twiceMarked none (some 4) ++ review ++ census) ∧
    (markerFindings twiceMarked none (some 4)).map (fun d => (d.line, d.rule, d.context)) =
      [(some 4, "deprecated_bold_marker", some "*1) "),
        (some 4, "deprecated_prefix_marker", some "*1) "),
        (some 5, "deprecated_bold_marker", some "- **")] ∧
    IsReview none quiz.questions review ∧ IsCensus none quiz.questions census ∧
    NeverBack review ∧ NeverBack census := by
  obtain ⟨quiz, hquiz, hlines⟩ : ∃ quiz,
      Quiz.parse Yaml.safeLoader twiceMarked = .ok quiz ∧
      quiz.questions.map Question.sourceLine = [6, 7] := ⟨_, rfl, rfl⟩
  have hne : quiz.questions ≠ [] := fun hnone => by simp [hnone] at hlines
  obtain ⟨-, hall⟩ := lintWith_in_order (Quiz.parse Yaml.safeLoader) twiceMarked none (some 4)
  obtain ⟨review, census, hlint, -, hsome, hback⟩ := hall quiz hquiz
  obtain ⟨hreview, hcensus⟩ := hsome hne
  obtain ⟨-, hreviewBack, hcensusBack⟩ := hback Yaml.safeLoader hquiz
  exact ⟨quiz, review, census, hquiz, hlint, by decide, hreview, hcensus, hreviewBack,
    hcensusBack⟩

end Documents

end QuizPreflight.Lint
