import QuizPreflight.Proofs.Lint.Identifier

/-!
# Repeated ids

An id that several questions bear is told of once. The finding stands at the first question that
bears it, and findings follow each other in the order of these questions. Which ids are told of
depends on the ids alone, in whatever order the questions come.
-/
namespace QuizPreflight.Lint

/-- The findings on ids. -/
def idFindings (ds : List Diagnostic) : List Diagnostic :=
  ds.filter (·.rule == "duplicate_question_ids")

/-- How many questions stand before the first one with an id. -/
def firstPlace (qs : List Question) (id : String) : Nat := (qs.map Question.id).idxOf id

def repeatedMessage (id : String) : String := s!"Duplicate Question ID found: {id}"

/-- The finding on an id has the line and the number of the first question that bears it. -/
def Announces (qs : List Question) (id : String) (d : Diagnostic) : Prop :=
  ∃ q, qs[firstPlace qs id]? = some q ∧ q.id = id ∧
    d = ⟨"duplicate_question_ids", .error, repeatedMessage id, some q.sourceLine,
      some (questionContext q (firstPlace qs id + 1))⟩

/-- The ids that more than one question bears, in the order of their first bearers, and a finding
on each of them. -/
structure Repetitions (qs : List Question) (ids : List String) (ds : List Diagnostic) : Prop where
  nodup : ids.Nodup
  mem : ∀ id, id ∈ ids ↔ 2 ≤ countId id qs
  ordered : ids.Pairwise fun id id' => firstPlace qs id < firstPlace qs id'
  announced : List.Forall₂ (Announces qs) ids ds

/-- Some finding on ids is about this one. -/
def IsReported (ds : List Diagnostic) (id : String) : Prop :=
  repeatedMessage id ∈ (idFindings ds).map Diagnostic.message

/-! ### First bearers -/

section FirstBearers

variable {qs : List Question} {b : Question × Nat} {id : String}

lemma firstPlace_lt (h : 2 ≤ countId id qs) : firstPlace qs id < qs.length := by
  have hmem : id ∈ qs.map Question.id := by
    rw [countId_eq_count] at h
    apply List.count_pos_iff.mp
    omega
  have hlt := List.idxOf_lt_length_of_mem hmem
  rwa [List.length_map] at hlt

lemma id_firstPlace (h : firstPlace qs id < qs.length) : qs[firstPlace qs id].id = id := by
  have hlt : (qs.map Question.id).idxOf id < (qs.map Question.id).length := by
    rwa [List.length_map]
  have hid := List.getElem_idxOf hlt
  rwa [List.getElem_map] at hid

lemma id_ne_of_lt_firstPlace {i : Nat} {q : Question} (hi : i < firstPlace qs id)
    (hq : qs[i]? = some q) : q.id ≠ id := by
  intro hid
  have hbefore : i < (qs.map Question.id).findIdx (· == id) := hi
  have hother := List.not_of_lt_findIdx hbefore
  obtain ⟨hlt, rfl⟩ := List.getElem?_eq_some_iff.mp hq
  simp [hid] at hother

/-- A first bearer is the question at the first place of its id. -/
lemma FirstBearer.place (h : FirstBearer qs (qs.zipIdx 1) b) :
    qs[firstPlace qs b.1.id]? = some b.1 ∧ b.2 = firstPlace qs b.1.id + 1 := by
  obtain ⟨hle, hb⟩ := List.mem_zipIdx_iff_le_and_getElem?_sub.mp h.mem
  have hlt := firstPlace_lt h.shared
  have hfirst : b.2 ≤ firstPlace qs b.1.id + 1 := by
    by_contra hlater
    refine h.first (qs[firstPlace qs b.1.id], firstPlace qs b.1.id + 1) ?_ (by omega)
      (id_firstPlace hlt)
    rw [List.mem_zipIdx_iff_le_and_getElem?_sub]
    simp [hlt]
  have hlast : firstPlace qs b.1.id ≤ b.2 - 1 := by
    by_contra hearlier
    exact id_ne_of_lt_firstPlace (by omega) hb rfl
  have hplace : b.2 - 1 = firstPlace qs b.1.id := by omega
  exact ⟨hplace ▸ hb, by omega⟩

lemma firstBearer_firstPlace (h : 2 ≤ countId id qs) :
    ∃ q, q.id = id ∧ FirstBearer qs (qs.zipIdx 1) (q, firstPlace qs id + 1) := by
  have hlt := firstPlace_lt h
  have hid := id_firstPlace hlt
  refine ⟨qs[firstPlace qs id], hid, ?_, by rwa [hid], fun b hb hbefore => ?_⟩
  · rw [List.mem_zipIdx_iff_le_and_getElem?_sub]
    simp [hlt]
  · obtain ⟨hle, hq⟩ := List.mem_zipIdx_iff_le_and_getElem?_sub.mp hb
    rw [hid]
    exact id_ne_of_lt_firstPlace (by dsimp only at hbefore; omega) hq

/-- The census of ids tells of each repeated id once, at its first bearer. -/
theorem exists_repetitions (qs : List Question) : ∃ ids, Repetitions qs ids (duplicateIds qs) := by
  obtain ⟨bearers, hsublist, hmem, hfound⟩ := exists_duplicatesFrom qs [] 1 qs
  have hbearer : ∀ b ∈ bearers, FirstBearer qs (qs.zipIdx 1) b := fun b hb => ((hmem b).mp hb).1
  have hordered : (bearers.map (·.1.id)).Pairwise
      fun id id' => firstPlace qs id < firstPlace qs id' := by
    rw [List.pairwise_map]
    refine ((Quiz.pairwise_zipIdx qs 1).sublist hsublist).imp_of_mem fun {b b'} hb hb' hlt => ?_
    have hb := (hbearer b hb).place.2
    have hb' := (hbearer b' hb').place.2
    omega
  refine ⟨bearers.map (·.1.id), ?_, fun id => ?_, hordered, ?_⟩
  · apply hordered.imp
    rintro id _ hlt rfl
    omega
  · rw [List.mem_map]
    constructor
    · rintro ⟨b, hb, rfl⟩
      exact (hbearer b hb).shared
    · intro hshared
      obtain ⟨q, rfl, hq⟩ := firstBearer_firstPlace hshared
      exact ⟨_, (hmem _).mpr ⟨hq, List.not_mem_nil⟩, rfl⟩
  · rw [duplicateIds, hfound, List.forall₂_map_left_iff, List.forall₂_map_right_iff,
      List.forall₂_same]
    intro b hb
    obtain ⟨hq, hindex⟩ := (hbearer b hb).place
    refine ⟨b.1, hq, rfl, ?_⟩
    rw [duplicate, finding, hindex]
    rfl

end FirstBearers

/-! ### Findings on ids -/

section Findings

variable {qs : List Question} {ds : List Diagnostic} {ids : List String} {selection : Selection}
  {id : String}

lemma idFindings_eq_nil (h : ∀ d ∈ ds, d.rule ≠ "duplicate_question_ids") : idFindings ds = [] := by
  apply List.filter_eq_nil_iff.mpr
  intro d hd
  simpa using h d hd

/-- Where the rule on ids is selected, what it finds is all that is found on ids. -/
lemma idFindings_lintQuestions (h : isSelected selection "duplicate_question_ids" = true)
    (content : String) (qs : List Question) (width : Width) :
    idFindings (lintQuestions content qs selection width) = duplicateIds qs := by
  have hmarkers : idFindings (markerFindings content selection width) = [] := by
    apply idFindings_eq_nil
    intro d hd
    obtain ⟨r, hr, hname⟩ := rule_of_scanLines hd
    have hother : ∀ r ∈ markerRules, r.name ≠ "duplicate_question_ids" := by decide
    rw [hname]
    exact hother r (List.mem_of_mem_filter hr)
  have hquestions : idFindings (eachQuestion selection 1 qs) = [] := by
    apply idFindings_eq_nil
    intro d hd
    obtain ⟨r, hr, hname⟩ := rule_of_eachQuestion hd
    have hother : ∀ r ∈ questionRules, r.name ≠ "duplicate_question_ids" := by decide
    rw [hname]
    exact hother r hr
  have hids : idFindings (quizFindings selection qs) = duplicateIds qs := by
    rw [quizFindings, quizRules, List.filter_singleton, h, cond_true, List.flatMap_singleton]
    apply List.filter_eq_self.mpr
    intro d hd
    simpa using rule_of_duplicatesFrom qs [] 1 qs d hd
  unfold idFindings at hmarkers hquestions hids ⊢
  rw [lintQuestions, List.filter_append, hmarkers, List.nil_append, structureFindings]
  cases qs with
  | nil => rfl
  | cons q qs => simp [hquestions, hids]

lemma repeatedMessage_injective : Function.Injective repeatedMessage := by
  intro id id' h
  exact (String.append_right_inj _).mp h

lemma Repetitions.map_message (h : Repetitions qs ids ds) :
    ds.map Diagnostic.message = ids.map repeatedMessage := by
  have hmessages := h.announced
  clear h
  induction hmessages with
  | nil => rfl
  | cons hd _ ih =>
    obtain ⟨q, -, -, rfl⟩ := hd
    rw [List.map_cons, List.map_cons, ih]

/-- The ids that are told of are those that at least two questions bear. -/
lemma Repetitions.isReported_iff (h : Repetitions qs ids (idFindings ds)) :
    IsReported ds id ↔ 2 ≤ countId id qs := by
  rw [IsReported, h.map_message, List.mem_map_of_injective repeatedMessage_injective, h.mem]

end Findings

/-! ### Whole documents -/

section Documents

variable {ε : Type} {parser : String → Except ε Quiz} {content : String} {quiz : Quiz}
  {selection : Selection}

/-- The findings on ids are one for each id that at least two questions bear, in the order of the
first bearers, at the line and with the number of these. There is none exactly if all ids differ,
and whatever order the questions are put in, the same ids are told of. -/
theorem lintWith_repetitions (h : parser content = .ok quiz)
    (hselected : isSelected selection "duplicate_question_ids" = true) (width : Width) :
    ∃ ds ids, lintWith parser content selection width = .ok ds ∧
      Repetitions quiz.questions ids (idFindings ds) ∧
      (idFindings ds = [] ↔ (quiz.questions.map Question.id).Nodup) ∧
      ∀ (parser' : String → Except ε Quiz) (content' : String) (quiz' : Quiz) (width' : Width),
        parser' content' = .ok quiz' → quiz'.questions.Perm quiz.questions →
        ∃ ds', lintWith parser' content' selection width' = .ok ds' ∧
          ∀ id, IsReported ds' id ↔ IsReported ds id := by
  have hfound := idFindings_lintQuestions hselected
  obtain ⟨ids, hids⟩ := exists_repetitions quiz.questions
  rw [← hfound content quiz.questions width] at hids
  refine ⟨_, ids, lintWith_of_ok h selection width, hids, ?_, ?_⟩
  · rw [hfound]
    exact duplicateIds_eq_nil_iff
  · intro parser' content' quiz' width' h' hperm
    obtain ⟨ids', hids'⟩ := exists_repetitions quiz'.questions
    rw [← hfound content' quiz'.questions width'] at hids'
    refine ⟨_, lintWith_of_ok h' selection width', fun id => ?_⟩
    rw [hids'.isReported_iff, hids.isReported_iff, countId, countId, hperm.countP_eq]

def interleaved : String := "## 2. A\n## 1. B\n## 1. C\n## 2. D\n## 1. E\n## 3. F"

/-- An id that is borne three times within the two bearers of another. -/
theorem lint_interleaved : ∃ quiz ds ids,
    Quiz.parse Yaml.safeLoader interleaved = .ok quiz ∧
    lint Yaml.safeLoader interleaved none defaultWidth = .ok ds ∧
    Repetitions quiz.questions ids (idFindings ds) ∧
    (idFindings ds).map (fun d => (d.line, d.message)) =
      [(some 1, "Duplicate Question ID found: 2"), (some 2, "Duplicate Question ID found: 1")] ∧
    ¬(quiz.questions.map Question.id).Nodup := by
  obtain ⟨quiz, h⟩ : ∃ quiz, Quiz.parse Yaml.safeLoader interleaved = .ok quiz := ⟨_, rfl⟩
  have hselected : isSelected none "duplicate_question_ids" = true := rfl
  obtain ⟨ds, ids, hds, hids, hnodup, -⟩ := lintWith_repetitions h hselected defaultWidth
  have hshown : (lint Yaml.safeLoader interleaved none defaultWidth).toOption.map
      (fun ds => (idFindings ds).map fun d => (d.line, d.message)) =
        some [(some 1, "Duplicate Question ID found: 2"),
          (some 2, "Duplicate Question ID found: 1")] := by decide
  rw [lint, hds] at hshown
  have hshown := Option.some.inj hshown
  refine ⟨quiz, ds, ids, h, hds, hids, hshown, ?_⟩
  rw [← hnodup]
  intro hnone
  simp [hnone] at hshown

end Documents

end QuizPreflight.Lint
