import QuizPreflight.Proofs.Lint.Ordering
import QuizPreflight.Proofs.Lint.Verdict

/-!
# Ids of questions

A question bears the id that its header is written with, or else one that is generated from its
number. Generated ids differ from each other, so that ids clash only where one is written twice or
where a written one looks like the generated id of some question without one.
-/
namespace QuizPreflight.Quiz

open QuizPreflight.Text

/-- The id that a header is written with. -/
def Block.writtenId? (b : Block) : Option (List Char) := (leadingId? b.header).map Prod.fst

/-- The id of the question with a number. -/
def Block.idAt (b : Block) (n : Nat) : List Char := b.writtenId?.getD (generatedId n)

/-- The blocks of a document with the numbers of their questions, counted from one. -/
def numberedBlocks (content : String) : List (Block × Nat) :=
  (blocksOf (activeLines content.toList)).zipIdx 1

/-- The ids that stand in the headers of a document. -/
def writtenIds (content : String) : List (List Char) :=
  (numberedBlocks content).filterMap (·.1.writtenId?)

/-- The numbers of the questions that are written without an id. -/
def unnamedNumbers (content : String) : List Nat :=
  ((numberedBlocks content).filter (·.1.writtenId?.isNone)).map Prod.snd

/-- No id is written twice and none is the one that is generated for a question without an id. -/
def IdsApart (content : String) : Prop :=
  (writtenIds content).Nodup ∧ ∀ n ∈ unnamedNumbers content, generatedId n ∉ writtenIds content

lemma generatedId_injective {n m : Nat} (h : generatedId n = generatedId m) : n = m := by
  have hdigits : Nat.toDigits 10 n = Nat.toDigits 10 m := by
    simpa [generatedId, Nat.toString_eq_ofList_toDigits] using h
  have hvalue := congrArg (Nat.ofDigitChars 10 · 0) hdigits
  simpa only [Nat.ofDigitChars_ten_toDigits] using hvalue

/-! ### Reading -/

namespace Progress

variable {p : Progress} {line : List Char} {n : Nat}
  (default : Float)

/-- The ids of the questions read so far, the pending one among them. -/
def ids (p : Progress) : List String := p.closed.map Question.id

lemma length_ids (p : Progress) : p.ids.length = p.closed.length := List.length_map _

lemma ids_readHeading (p : Progress) (n : Nat) (heading : List Char) :
    (p.readHeading n heading).ids = p.ids := by
  rw [ids, closed, pending_readHeading, questions_readHeading, ids]

/-- A header brings one more id. -/
lemma ids_readQuestion (p : Progress) (n : Nat) (header : List Char) (b : Block)
    (hb : b.header = header) :
    (p.readQuestion default n header).ids =
      p.ids ++ [String.ofList (b.idAt (p.ids.length + 1))] := by
  have hid : (readHeader header).id = b.writtenId? := by
    rw [readHeader_eq, Block.writtenId?, hb, splitId]
    cases leadingId? header <;> rfl
  have hdraft : (p.readQuestion default n header).ids =
      p.ids ++ [String.ofList ((readHeader header).id.getD (generatedId (p.closed.length + 1)))] := by
    rw [ids, closed]
    exact List.map_append
  rw [hdraft, hid, length_ids, Block.idAt]

/-- What a line brings to the pending question leaves its id as it is. -/
lemma ids_mapPending (p : Progress) {f : Draft → Draft} (hf : ∀ d, (f d).id = d.id) :
    ({ p with pending := p.pending.map f } : Progress).ids = p.ids := by
  obtain ⟨title, titleSeen, type, sectionTitle, questions, sections, pending⟩ := p
  cases pending with
  | none => rfl
  | some d => simp [ids, closed, Draft.finish, hf]

lemma ids_addBody (p : Progress) (line : List Char) : (p.addBody line).ids = p.ids :=
  p.ids_mapPending fun _ => rfl

lemma id_readLine (d : Draft) (line : List Char) : (d.readLine line).id = d.id := by
  obtain ⟨choices, arrow, more, hread⟩ := d.exists_readLine line
  rw [hread]

/-- The ids that some blocks bring behind those read so far. -/
def idsWith (p : Progress) (blocks : List Block) : List String :=
  p.ids ++ (blocks.zipIdx (p.ids.length + 1)).map fun b => String.ofList (b.1.idAt b.2)

lemma idsWith_of_ids_eq {p p' : Progress} (h : p'.ids = p.ids) (blocks : List Block) :
    p'.idsWith blocks = p.idsWith blocks := by
  rw [idsWith, h, idsWith]

/-- An active line is read at once or later. -/
lemma idsWith_readActive (p : Progress) (line : List Char) (n : Nat)
    (active : List (List Char × Nat)) :
    (p.readActive default n line).idsWith (blocksOf active) =
      p.idsWith (blocksOf ((line, n) :: active)) := by
  unfold readActive
  cases hheading : heading? line with
  | some heading =>
    rw [blocksOf_cons_of_none (questionHeader?_of_heading? hheading)]
    exact idsWith_of_ids_eq (p.ids_readHeading n heading) _
  | none =>
    cases hheader : questionHeader? line with
    | some header =>
      rw [blocksOf_cons_of_header hheader, idsWith,
        p.ids_readQuestion default n header ⟨header, n, linesAbove active⟩ rfl, idsWith,
        List.zipIdx_cons, List.map_cons, List.append_assoc, List.length_append]
      rfl
    | none =>
      rw [blocksOf_cons_of_none hheader]
      refine idsWith_of_ids_eq ?_ _
      dsimp only
      split
      · rfl
      · exact p.ids_mapPending fun d => id_readLine d line

/-- The ids are those of the blocks among the active lines. -/
theorem ids_readAll (place : Place) (n : Nat) (p : Progress) (lines : List (List Char)) :
    (readAll default n p (assignRoles place lines)).ids =
      p.idsWith (blocksOf (activeAmong place (lines.zipIdx n))) := by
  induction lines generalizing place n p with
  | nil => exact (List.append_nil p.ids).symm
  | cons line lines ih =>
    rw [assignRoles, readAll, ih, List.zipIdx_cons, activeAmong, read]
    dsimp only
    cases (place.step line).1 with
    | hidden => rfl
    | verbatim => exact idsWith_of_ids_eq (p.ids_addBody line) _
    | active => exact p.idsWith_readActive default line n _

end Progress

section Documents

variable {loader : Yaml.Loader} {content : String} {quiz : Quiz}

/-- The questions bear the ids of the blocks, written or generated. -/
theorem map_id_of_parse (h : parse loader content = .ok quiz) :
    quiz.questions.map Question.id =
      (numberedBlocks content).map fun b => String.ofList (b.1.idAt b.2) := by
  obtain ⟨metadata, default, -, -, rfl⟩ := parse_eq_ok_iff.mp h
  rw [numberedBlocks, activeLines_eq]
  exact Progress.ids_readAll default Place.start _ (Progress.start (titleOf metadata)) _

lemma mem_writtenIds {id : List Char} :
    id ∈ writtenIds content ↔ ∃ b ∈ numberedBlocks content, b.1.writtenId? = some id :=
  List.mem_filterMap

lemma mem_unnamedNumbers {n : Nat} :
    n ∈ unnamedNumbers content ↔ ∃ b, (b, n) ∈ numberedBlocks content ∧ b.writtenId? = none := by
  simp [unnamedNumbers]

lemma ids_ne {b b' : Block × Nat} (h : IdsApart content) (hb : b ∈ numberedBlocks content)
    (hb' : b' ∈ numberedBlocks content)
    (hwritten : ∀ id, b.1.writtenId? = some id → ∀ id', b'.1.writtenId? = some id' → id ≠ id')
    (hlt : b.2 < b'.2) : b.1.idAt b.2 ≠ b'.1.idAt b'.2 := by
  rw [Block.idAt, Block.idAt]
  cases hid : b.1.writtenId? with
  | some id =>
    cases hid' : b'.1.writtenId? with
    | some id' => exact hwritten id hid id' hid'
    | none =>
      rintro rfl
      exact h.2 b'.2 (mem_unnamedNumbers.mpr ⟨b'.1, hb', hid'⟩) (mem_writtenIds.mpr ⟨b, hb, hid⟩)
  | none =>
    cases hid' : b'.1.writtenId? with
    | some id' =>
      rintro rfl
      exact h.2 b.2 (mem_unnamedNumbers.mpr ⟨b.1, hb, hid⟩) (mem_writtenIds.mpr ⟨b', hb', hid'⟩)
    | none => exact fun heq => hlt.ne (generatedId_injective heq)

/-- The ids of the questions differ exactly if the written ones do and none of them is generated
for a question without an id. -/
theorem nodup_ids_iff (h : parse loader content = .ok quiz) :
    (quiz.questions.map Question.id).Nodup ↔ IdsApart content := by
  rw [map_id_of_parse h]
  constructor
  · intro hnodup
    have hinj := List.inj_on_of_nodup_map hnodup
    refine ⟨?_, fun n hn hmem => ?_⟩
    · rw [List.Nodup, List.pairwise_map] at hnodup
      refine List.pairwise_filterMap.mpr (hnodup.imp fun {b b'} hne id hid id' hid' heq => hne ?_)
      rw [Block.idAt, Block.idAt, hid, hid', heq]
      rfl
    · obtain ⟨b, hb, hnone⟩ := mem_unnamedNumbers.mp hn
      obtain ⟨b', hb', hsome⟩ := mem_writtenIds.mp hmem
      have hsame : b' = (b, n) := hinj hb' hb (by rw [Block.idAt, Block.idAt, hsome, hnone]; rfl)
      rw [hsame, hnone] at hsome
      cases hsome
  · intro hapart
    have hwritten := List.pairwise_filterMap.mp hapart.1
    have hnumbers : (numberedBlocks content).Pairwise fun b b' => b.2 < b'.2 := pairwise_zipIdx _ 1
    refine List.pairwise_map.mpr ((hwritten.and hnumbers).imp_of_mem ?_)
    intro b b' hb hb' hboth heq
    exact ids_ne hapart hb hb' hboth.1 hboth.2 (String.ofList_injective heq)

end Documents

end QuizPreflight.Quiz

namespace QuizPreflight.Lint

section Ids

variable {content : String} {qs : List Question} {selection : Selection} {width : Width}
  {d : Diagnostic}

/-- Ids that are borne once give no finding. -/
lemma duplicateIds_eq_nil_iff : duplicateIds qs = [] ↔ (qs.map Question.id).Nodup := by
  obtain ⟨bearers, -, -, hfound⟩ := exists_duplicatesFrom qs [] 1 qs
  rw [← noErrors_duplicateIds, duplicateIds, hfound]
  cases bearers with
  | nil => simp [NoErrors]
  | cons b bearers => simp [NoErrors, duplicate, finding]

/-- Only the rule on ids makes findings of its name. -/
lemma mem_duplicateIds_of_rule (h : d ∈ lintQuestions content qs selection width)
    (hrule : d.rule = "duplicate_question_ids") : d ∈ duplicateIds qs := by
  rcases List.mem_append.mp h with h | h
  · obtain ⟨r, hr, hname⟩ := rule_of_scanLines h
    have hother : ∀ r ∈ markerRules, r.name ≠ "duplicate_question_ids" := by decide
    exact absurd (hname.symm.trans hrule) (hother r (List.mem_of_mem_filter hr))
  · unfold structureFindings at h
    split at h
    · have hname : d.rule = "no_questions" :=
        (forall_mem_when (P := fun d => d.rule = "no_questions")).mpr (fun _ => rfl) d h
      rw [hrule] at hname
      exact absurd hname (by decide)
    · rcases List.mem_append.mp h with h | h
      · obtain ⟨r, hr, hname⟩ := rule_of_eachQuestion h
        have hother : ∀ r ∈ questionRules, r.name ≠ "duplicate_question_ids" := by decide
        exact absurd (hname.symm.trans hrule) (hother r hr)
      · obtain ⟨r, hr, hd⟩ := List.mem_flatMap.mp h
        obtain rfl := List.mem_singleton.mp (List.mem_of_mem_filter hr)
        exact hd

end Ids

section Documents

variable {loader : Yaml.Loader} {content : String} {quiz : Quiz}

/-- Each question bears the id written in its header, or else the one generated from its number.
All ids differ exactly if the written ones do and none of them is generated for a question without
one; then linting tells of no id that is borne twice, whatever rules are selected. -/
theorem lint_ids_apart (h : Quiz.parse loader content = .ok quiz) :
    quiz.questions.map Question.id =
      (Quiz.numberedBlocks content).map (fun b => String.ofList (b.1.idAt b.2)) ∧
    ((quiz.questions.map Question.id).Nodup ↔ Quiz.IdsApart content) ∧
    (Quiz.IdsApart content → ∀ selection width, ∃ ds,
      lint loader content selection width = .ok ds ∧ ∀ d ∈ ds, d.rule ≠ "duplicate_question_ids") := by
  have hids := Quiz.nodup_ids_iff h
  refine ⟨Quiz.map_id_of_parse h, hids, fun hapart selection width =>
    ⟨_, lintWith_of_ok h selection width, fun d hd hrule => ?_⟩⟩
  have hmem := mem_duplicateIds_of_rule hd hrule
  rw [duplicateIds_eq_nil_iff.mpr (hids.mpr hapart)] at hmem
  cases hmem

/-- A written id between two headers without one, of which the second gets the number three. -/
theorem lint_named_between : ∃ quiz, Quiz.parse Yaml.safeLoader "## A\n## q2. B\n## C" = .ok quiz ∧
    quiz.questions.map Question.id = ["q1", "q2", "q3"] ∧
    (quiz.questions.map Question.id).Nodup ∧
    ∃ ds, lint Yaml.safeLoader "## A\n## q2. B\n## C" none defaultWidth = .ok ds ∧
      ∀ d ∈ ds, d.rule ≠ "duplicate_question_ids" := by
  obtain ⟨quiz, h⟩ : ∃ quiz, Quiz.parse Yaml.safeLoader "## A\n## q2. B\n## C" = .ok quiz := ⟨_, rfl⟩
  have hapart : Quiz.IdsApart "## A\n## q2. B\n## C" := ⟨by decide, by decide⟩
  obtain ⟨hids, hnodup, hlint⟩ := lint_ids_apart h
  exact ⟨quiz, h, hids.trans (by decide), hnodup.mpr hapart, hlint hapart none defaultWidth⟩

/-- The one id that is written is generated for the header below it. -/
theorem lint_generated_twice : ∃ quiz, Quiz.parse Yaml.safeLoader "## q2. A\n## B" = .ok quiz ∧
    (Quiz.writtenIds "## q2. A\n## B").Nodup ∧ ¬(quiz.questions.map Question.id).Nodup ∧
    (lint Yaml.safeLoader "## q2. A\n## B" (some ["duplicate_question_ids"])
      defaultWidth).toOption.map (·.map Diagnostic.message) = some ["Duplicate Question ID found: q2"] :=
  ⟨_, rfl, by decide, by decide, by decide⟩

end Documents

end QuizPreflight.Lint
