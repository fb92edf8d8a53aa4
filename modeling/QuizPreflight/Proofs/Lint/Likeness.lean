import Mathlib.Data.List.Forall2
import QuizPreflight.Lint.Check

/-!
# Findings on questions that are alike

The rules on questions look at the id, the type and the choices of a question and at whether its
stem is blank. What else a question has only shows in the findings on it, so questions that differ
in nothing that the rules look at have the same findings, seen in a way that hides the difference.
-/
namespace QuizPreflight.Lint

variable {f g : Diagnostic → Diagnostic} {q q' : Question} {qs qs' : List Question}
  {selection : Selection}

/-- Questions of which the rules tell the same, the findings on the second seen through `f` and
those on the first through `g`. -/
structure Alike (f g : Diagnostic → Diagnostic) (q q' : Question) : Prop where
  id : q'.id = q.id
  type : q'.type = q.type
  choices : q'.choices = q.choices
  stem : Text.allBlank q'.stem.toList = Text.allBlank q.stem.toList
  finding (index : Nat) (rule : String) (severity : Severity) (message : String) :
    f (finding q' index rule severity message) = g (finding q index rule severity message)

lemma map_when {c : Prop} [Decidable c] {d d' : Diagnostic} (h : f d' = g d) :
    (if c then [d'] else []).map f = (if c then [d] else []).map g := by
  split
  · rw [List.map_singleton, List.map_singleton, h]
  · rfl

lemma Alike.check (h : Alike f g q q') (index : Nat) :
    ∀ r ∈ questionRules, (r.check q' index).map f = (r.check q index).map g := by
  have hcorrect : q'.correctChoices = q.correctChoices := by
    rw [Question.correctChoices, Question.correctChoices, h.choices]
  simp only [questionRules, List.forall_mem_cons]
  refine ⟨?_, ?_, ?_, ?_, by simp⟩
  · rw [tooFewChoices, tooFewChoices, h.type, h.choices]
    exact map_when (h.finding index _ _ _)
  · rw [missingCorrectAnswer, missingCorrectAnswer, h.type, hcorrect]
    exact map_when (h.finding index _ _ _)
  · rw [ambiguousSingleChoice, ambiguousSingleChoice, h.type, hcorrect]
    exact map_when (h.finding index _ _ _)
  · rw [missingStem, missingStem, h.stem]
    exact map_when (h.finding index _ _ _)

lemma Alike.questionFindings (h : Alike f g q q') (index : Nat) :
    (questionFindings selection q' index).map f = (questionFindings selection q index).map g := by
  rw [Lint.questionFindings, Lint.questionFindings, List.map_flatMap, List.map_flatMap]
  exact List.flatMap_congr fun r hr => h.check index r (List.mem_of_mem_filter hr)

lemma eachQuestion_alike (h : List.Forall₂ (Alike f g) qs qs') (index : Nat) :
    (eachQuestion selection index qs').map f = (eachQuestion selection index qs).map g := by
  induction h generalizing index with
  | nil => rfl
  | cons hq _ ih =>
    rw [eachQuestion, eachQuestion, List.map_append, List.map_append, hq.questionFindings, ih]

lemma countId_alike (h : List.Forall₂ (Alike f g) qs qs') (id : String) :
    countId id qs' = countId id qs := by
  induction h with
  | nil => rfl
  | cons hq _ ih =>
    simp only [countId, List.countP_cons] at ih ⊢
    rw [ih, hq.id]

lemma duplicatesFrom_alike {all all' : List Question}
    (hall : ∀ id, countId id all' = countId id all) (h : List.Forall₂ (Alike f g) qs qs')
    (reported : List String) (index : Nat) :
    (duplicatesFrom all' reported index qs').map f =
      (duplicatesFrom all reported index qs).map g := by
  induction h generalizing reported index with
  | nil => rfl
  | cons hq _ ih =>
    rw [duplicatesFrom, duplicatesFrom, hall, hq.id]
    split
    · exact ih reported (index + 1)
    · rw [List.map_cons, List.map_cons, ih, hq.finding]

/-- The rules find the same in quizzes whose questions are alike one by one. -/
theorem structureFindings_alike (h : List.Forall₂ (Alike f g) qs qs')
    (hnone : (noQuestions []).map f = (noQuestions []).map g) :
    (structureFindings selection qs').map f = (structureFindings selection qs).map g := by
  -- ids that are borne twice are told of by their order, not by their lines
  have hduplicates : (duplicateIds qs').map f = (duplicateIds qs).map g :=
    duplicatesFrom_alike (countId_alike h) h [] 1
  have hquiz : (quizFindings selection qs').map f = (quizFindings selection qs).map g := by
    rw [quizFindings, quizFindings, List.map_flatMap, List.map_flatMap]
    refine List.flatMap_congr fun r hr => ?_
    obtain rfl := List.mem_singleton.mp (List.mem_of_mem_filter hr)
    exact hduplicates
  rw [structureFindings, structureFindings]
  cases h with
  | nil => exact hnone
  | cons hq hqs =>
    rw [List.isEmpty_cons, List.isEmpty_cons, if_neg Bool.false_ne_true,
      if_neg Bool.false_ne_true, List.map_append, List.map_append,
      eachQuestion_alike (.cons hq hqs), hquiz]

end QuizPreflight.Lint
