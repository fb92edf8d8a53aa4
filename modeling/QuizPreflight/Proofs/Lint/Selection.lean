import Mathlib.Data.List.Basic
import QuizPreflight.Lint.Check
import QuizPreflight.Yaml.Document

/-!
# Selected rules

Every finding bears the name of the rule that made it. So the rules that are named in a selection
find what all rules find, less the findings of the others; a quiz without questions is told of
whatever is selected.
-/
namespace QuizPreflight.Lint

/-- Nothing is named, so that every rule is run. -/
def Unselective (selection : Selection) : Prop := selection.getD [] = []

/-- The rules whose findings remain under a selection of names. -/
def keeps (names : List String) (rule : String) : Bool :=
  names.contains rule || rule == "no_questions"

lemma unselective_none : Unselective none := rfl

lemma unselective_nil : Unselective (some []) := rfl

section Names

variable {selection : Selection} {names names' : List String}

lemma isSelected_of_unselective (h : Unselective selection) (name : String) :
    isSelected selection name = true := by
  match selection, h with
  | none, _ => rfl
  | some [], _ => rfl

lemma isSelected_some (h : names ≠ []) (name : String) :
    isSelected (some names) name = names.contains name := by
  cases names with
  | nil => exact absurd rfl h
  | cons first rest => rfl

lemma keeps_of_perm (h : names'.Perm names) : keeps names' = keeps names := by
  funext rule
  rw [keeps, keeps, Bool.eq_iff_iff, Bool.or_eq_true, Bool.or_eq_true, List.contains_iff_mem,
    List.contains_iff_mem, h.mem_iff]

lemma isSelected_eq_keeps (h : names ≠ []) {name : String} (hname : name ≠ "no_questions") :
    isSelected (some names) name = keeps names name := by
  rw [isSelected_some h, keeps, beq_false_of_ne hname, Bool.or_false]

end Names

/-! ### Findings of some of the rules -/

section Rules

variable {α : Type} {rules : List α} {name : α → String} {check : α → List Diagnostic}
  {selection : Selection} {names : List String} {width : Width}

lemma filter_isSelected_of_unselective (h : Unselective selection) (rules : List α)
    (name : α → String) : rules.filter (isSelected selection <| name ·) = rules :=
  List.filter_eq_self.mpr fun r _ => isSelected_of_unselective h (name r)

lemma filter_isSelected_eq_keeps (h : names ≠ []) (hrules : ∀ r ∈ rules, name r ≠ "no_questions") :
    rules.filter (isSelected (some names) <| name ·) = rules.filter (keeps names <| name ·) :=
  List.filter_congr fun r hr => isSelected_eq_keeps h (hrules r hr)

/-- What the rules with certain names find are the findings with these names. -/
lemma flatMap_filter_name (hname : ∀ r ∈ rules, ∀ d ∈ check r, d.rule = name r)
    (p : String → Bool) :
    (rules.filter (p <| name ·)).flatMap check = (rules.flatMap check).filter (p ·.rule) := by
  induction rules with
  | nil => rfl
  | cons r rules ih =>
    obtain ⟨hr, hrules⟩ := List.forall_mem_cons.mp hname
    rw [List.flatMap_cons, List.filter_append, ← ih hrules, List.filter_cons]
    cases hp : p (name r) with
    | true =>
      have hall : (check r).filter (p ·.rule) = check r :=
        List.filter_eq_self.mpr fun d hd => by rw [hr d hd, hp]
      rw [if_pos rfl, List.flatMap_cons, hall]
    | false =>
      have hnone : (check r).filter (p ·.rule) = [] :=
        List.filter_eq_nil_iff.mpr fun d hd => by rw [hr d hd, hp, Bool.not_eq_true]
      rw [if_neg Bool.false_ne_true, hnone, List.nil_append]

lemma scanLine_filter_name (rules : List MarkerRule) (p : String → Bool) (n : Int)
    (line : List Char) :
    scanLine (rules.filter (p ·.name)) width n line =
      (scanLine rules width n line).filter (p ·.rule) := by
  rw [scanLine, scanLine, List.filter_map, List.filter_filter, List.filter_filter]
  exact congrArg _ (List.filter_congr fun r _ => Bool.and_comm _ _)

lemma scanLines_filter_name (rules : List MarkerRule) (p : String → Bool) (n : Int)
    (lines : List (List Char)) :
    scanLines (rules.filter (p ·.name)) width n lines =
      (scanLines rules width n lines).filter (p ·.rule) := by
  induction lines generalizing n with
  | nil => rfl
  | cons line lines ih =>
    rw [scanLines, scanLines, List.filter_append, scanLine_filter_name, ih]

/-- A rule that finds at most one thing. -/
lemma forall_mem_when {c : Prop} [Decidable c] {d : Diagnostic} {P : Diagnostic → Prop} :
    (∀ x ∈ (if c then [d] else []), P x) ↔ (c → P d) := by
  split <;> simp [*]

lemma rule_of_questionRules (q : Question) (index : Nat) :
    ∀ r ∈ questionRules, ∀ d ∈ r.check q index, d.rule = r.name := by
  simp only [questionRules, List.forall_mem_cons]
  refine ⟨?_, ?_, ?_, ?_, by simp⟩ <;> exact forall_mem_when.mpr fun _ => rfl

lemma rule_of_duplicatesFrom (all : List Question) (reported : List String) (index : Nat)
    (qs : List Question) :
    ∀ d ∈ duplicatesFrom all reported index qs, d.rule = "duplicate_question_ids" := by
  induction qs generalizing reported index with
  | nil => simp [duplicatesFrom]
  | cons q qs ih =>
    rw [duplicatesFrom]
    split
    · exact ih reported (index + 1)
    · exact List.forall_mem_cons.mpr ⟨rfl, ih (q.id :: reported) (index + 1)⟩

lemma rule_of_quizRules (qs : List Question) :
    ∀ r ∈ quizRules, ∀ d ∈ r.check qs, d.rule = r.name :=
  List.forall_mem_singleton.mpr (rule_of_duplicatesFrom qs [] 1 qs)

end Rules

/-! ### Whole documents -/

section Documents

variable {names names' : List String} {selection : Selection} {width : Width}

lemma questionFindings_some (h : names ≠ []) (q : Question) (index : Nat) :
    questionFindings (some names) q index =
      (questionFindings none q index).filter (keeps names ·.rule) := by
  have hnames : ∀ r ∈ questionRules, r.name ≠ "no_questions" := by decide
  rw [questionFindings, questionFindings, filter_isSelected_eq_keeps h hnames,
    filter_isSelected_of_unselective unselective_none,
    flatMap_filter_name (rule_of_questionRules q index)]

lemma eachQuestion_some (h : names ≠ []) (index : Nat) (qs : List Question) :
    eachQuestion (some names) index qs =
      (eachQuestion none index qs).filter (keeps names ·.rule) := by
  induction qs generalizing index with
  | nil => rfl
  | cons q qs ih =>
    rw [eachQuestion, eachQuestion, List.filter_append, questionFindings_some h, ih]

lemma rule_of_scanLines {rules : List MarkerRule} {n : Int} {lines : List (List Char)}
    {d : Diagnostic} (h : d ∈ scanLines rules width n lines) : ∃ r ∈ rules, d.rule = r.name := by
  induction lines generalizing n with
  | nil => cases h
  | cons line lines ih =>
    rcases List.mem_append.mp h with h | h
    · obtain ⟨r, hr, rfl⟩ := List.mem_map.mp h
      exact ⟨r, List.mem_of_mem_filter hr, rfl⟩
    · exact ih h

lemma rule_of_eachQuestion {index : Nat} {qs : List Question} {d : Diagnostic}
    (h : d ∈ eachQuestion selection index qs) : ∃ r ∈ questionRules, d.rule = r.name := by
  induction qs generalizing index with
  | nil => cases h
  | cons q qs ih =>
    rcases List.mem_append.mp h with h | h
    · obtain ⟨r, hr, hd⟩ := List.mem_flatMap.mp h
      have hrule := List.mem_of_mem_filter hr
      exact ⟨r, hrule, rule_of_questionRules q index r hrule d hd⟩
    · exact ih h

/-- Every finding bears the name of a rule that can be selected, or of the one that cannot. -/
theorem rule_of_lintQuestions {content : String} {qs : List Question} {d : Diagnostic}
    (h : d ∈ lintQuestions content qs selection width) :
    d.rule ∈ availableRules.map Prod.fst := by
  simp only [availableRules, List.map_append, List.map_map, List.mem_append]
  rcases List.mem_append.mp h with h | h
  · obtain ⟨r, hr, hname⟩ := rule_of_scanLines h
    have hmem := List.mem_map_of_mem (f := MarkerRule.name) (List.mem_of_mem_filter hr)
    exact .inl (.inl (.inl (hname ▸ hmem)))
  · unfold structureFindings at h
    split at h
    · have hname : d.rule = "no_questions" :=
        (forall_mem_when (P := fun d => d.rule = "no_questions")).mpr (fun _ => rfl) d h
      exact .inr (by simp [hname])
    · rcases List.mem_append.mp h with h | h
      · obtain ⟨r, hr, hname⟩ := rule_of_eachQuestion h
        have hmem := List.mem_map_of_mem (f := QuestionRule.name) hr
        exact .inl (.inl (.inr (hname ▸ hmem)))
      · obtain ⟨r, hr, hd⟩ := List.mem_flatMap.mp h
        have hrule := List.mem_of_mem_filter hr
        have hmem := List.mem_map_of_mem (f := QuizRule.name) hrule
        exact .inl (.inr (rule_of_quizRules qs r hrule d hd ▸ hmem))

lemma quizFindings_some (h : names ≠ []) (qs : List Question) :
    quizFindings (some names) qs = (quizFindings none qs).filter (keeps names ·.rule) := by
  have hnames : ∀ r ∈ quizRules, r.name ≠ "no_questions" := by decide
  rw [quizFindings, quizFindings, filter_isSelected_eq_keeps h hnames,
    filter_isSelected_of_unselective unselective_none, flatMap_filter_name (rule_of_quizRules qs)]

lemma markerFindings_some (h : names ≠ []) (content : String) :
    markerFindings content (some names) width =
      (markerFindings content none width).filter (keeps names ·.rule) := by
  have hnames : ∀ r ∈ markerRules, r.name ≠ "no_questions" := by decide
  rw [markerFindings, markerFindings, filter_isSelected_eq_keeps h hnames,
    filter_isSelected_of_unselective unselective_none]
  exact scanLines_filter_name markerRules (keeps names) _ _

lemma structureFindings_some (h : names ≠ []) (qs : List Question) :
    structureFindings (some names) qs =
      (structureFindings none qs).filter (keeps names ·.rule) := by
  cases qs with
  | nil => simp [structureFindings, noQuestions, keeps]
  | cons q qs =>
    simp only [structureFindings, List.isEmpty_cons, Bool.false_eq_true, if_false,
      List.filter_append, eachQuestion_some h, quizFindings_some h]

/-- Rules that are named find of a document what all rules find of it, less the findings of the
rules that are not. -/
theorem lintQuestions_some (h : names ≠ []) (content : String) (qs : List Question) :
    lintQuestions content qs (some names) width =
      (lintQuestions content qs none width).filter (keeps names ·.rule) := by
  rw [lintQuestions, lintQuestions, List.filter_append, markerFindings_some h,
    structureFindings_some h]

lemma eachQuestion_of_unselective (h : Unselective selection) (index : Nat) (qs : List Question) :
    eachQuestion selection index qs = eachQuestion none index qs := by
  induction qs generalizing index with
  | nil => rfl
  | cons q qs ih =>
    rw [eachQuestion, eachQuestion, ih, questionFindings, questionFindings,
      filter_isSelected_of_unselective h, filter_isSelected_of_unselective unselective_none]

/-- Without names all rules are run. -/
theorem lintQuestions_of_unselective (h : Unselective selection) (content : String)
    (qs : List Question) :
    lintQuestions content qs selection width = lintQuestions content qs none width := by
  simp only [lintQuestions, markerFindings, structureFindings, quizFindings,
    filter_isSelected_of_unselective h, filter_isSelected_of_unselective unselective_none,
    eachQuestion_of_unselective h]

/-- A selection of rules picks out of the findings of all rules, in their order, those of the
rules it names and the finding of a quiz without questions. The order of the names does not
matter, and to name nothing is to name all. -/
theorem lintWith_selection {ε : Type} (parser : String → Except ε Quiz) (content : String)
    (width : Width) :
    (∀ names ≠ [], lintWith parser content (some names) width =
      (lintWith parser content none width).map
        (·.filter fun d => names.contains d.rule || d.rule == "no_questions")) ∧
    lintWith parser content (some []) width = lintWith parser content none width ∧
    ∀ names names', names'.Perm names →
      lintWith parser content (some names') width = lintWith parser content (some names) width := by
  cases hquiz : parser content with
  | error e => simp [lintWith, hquiz, Except.map, bind, Except.bind]
  | ok quiz =>
    simp only [lintWith_of_ok hquiz, Except.map, Except.ok.injEq]
    refine ⟨fun names hnames => lintQuestions_some hnames content quiz.questions,
      lintQuestions_of_unselective unselective_nil content quiz.questions,
      fun names names' hperm => ?_⟩
    cases names with
    | nil => rw [hperm.eq_nil]
    | cons first rest =>
      have hne : names' ≠ [] := fun hnil => by simp [hnil] at hperm
      rw [lintQuestions_some hne, lintQuestions_some (List.cons_ne_nil first rest),
        keeps_of_perm hperm]

/-- Two questions with one id, in which all rules find more than what is asked for. -/
theorem lint_named_rules :
    (lint Yaml.safeLoader "- **A**\n## 1. B\n## 1. C" (some ["duplicate_question_ids", "unknown"])
      defaultWidth).toOption.map (·.map Diagnostic.rule) = some ["duplicate_question_ids"] ∧
    lint Yaml.safeLoader "- **A**\n## 1. B\n## 1. C" (some ["unknown", "duplicate_question_ids"])
        defaultWidth =
      lint Yaml.safeLoader "- **A**\n## 1. B\n## 1. C" (some ["duplicate_question_ids", "unknown"])
        defaultWidth := by
  obtain ⟨hnames, -, hperm⟩ :=
    lintWith_selection (Quiz.parse Yaml.safeLoader) "- **A**\n## 1. B\n## 1. C" defaultWidth
  refine ⟨?_, hperm _ _ (List.Perm.swap _ _ _)⟩
  rw [lint, hnames _ (List.cons_ne_nil _ _)]
  decide

end Documents

end QuizPreflight.Lint
