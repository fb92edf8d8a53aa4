import Mathlib.Data.List.Forall2
import Mathlib.Data.List.Nodup
import QuizPreflight.Proofs.Quiz.Outline

/-!
# Sections of questions

A question belongs to the last section that is opened above it and is of the type of that section,
unless an arrow answer makes it true or false. While lines are read, the type and the title at hand
are those of the last section so far; a section that is opened later stands below every question
read before, so that it changes none of them.
-/
namespace QuizPreflight.Quiz

open QuizPreflight.Text

/-- The last of some sections that stands above a line. -/
def sectionAbove (sections : List Section) (line : Int) : Option Section :=
  (sections.filter fun s => s.sourceLine < line).getLast?

/-- The type of the questions in a section; without a section they offer one choice out of many. -/
def baseType (s : Option Section) : QuestionType := (s.map Section.type).getD .multipleChoice

namespace Block

/-- The arrow answers that a question receives; a choice with an arrow behind it is none. -/
def received (b : Block) : List Arrow :=
  (readHeader b.header).arrow.toList ++
    (b.lines.filter fun line => (readChoice? line).isNone).filterMap arrow?

def addLines (b : Block) (lines : List (List Char)) : Block := { b with lines := b.lines ++ lines }

@[simp] lemma addLines_nil (b : Block) : b.addLines [] = b := by simp [addLines]

end Block

/-- A question as its block and the sections make it. -/
structure Attributed (sections : List Section) (b : Block) (q : Question) : Prop where
  sourceLine : q.sourceLine = b.number
  title : q.sectionTitle = (sectionAbove sections b.number).map Section.title
  type : q.type = if b.received = [] then baseType (sectionAbove sections b.number) else .trueFalse

/-- A draft as the lines read so far and the sections make it. -/
structure Drafted (sections : List Section) (b : Block) (d : Draft) : Prop where
  sourceLine : d.sourceLine = b.number
  title : d.sectionTitle.map String.ofList = (sectionAbove sections b.number).map Section.title
  type : d.type = baseType (sectionAbove sections b.number)
  arrow : d.arrow = none ↔ b.received = []

/-- What was read above line `n`: the blocks that are closed gave the questions, the open one is
pending, and the last section is at hand. -/
structure Progress.Reads (n : Nat) (closed : List Block) (opened : Option Block)
    (p : Progress) : Prop where
  title : p.sectionTitle.map String.ofList = p.sections.getLast?.map Section.title
  type : p.type = baseType p.sections.getLast?
  sections_lt : ∀ s ∈ p.sections, s.sourceLine < n
  questions : List.Forall₂ (fun b q => b.number < n ∧ Attributed p.sections b q) closed p.questions
  pending : Option.Rel (fun b d => b.number < n ∧ Drafted p.sections b d) opened p.pending

section Sections

variable {sections : List Section} {s : Section} {line : Int} {b : Block} {q : Question} {d : Draft}

lemma sectionAbove_of_forall_lt (h : ∀ s ∈ sections, s.sourceLine < line) :
    sectionAbove sections line = sections.getLast? := by
  rw [sectionAbove, List.filter_eq_self.mpr fun s hs => decide_eq_true (h s hs)]

/-- A section that is opened below a line makes no difference to it. -/
lemma sectionAbove_append (h : line ≤ s.sourceLine) :
    sectionAbove (sections ++ [s]) line = sectionAbove sections line := by
  have hs : decide (s.sourceLine < line) = false := decide_eq_false (Int.not_lt.mpr h)
  rw [sectionAbove, List.filter_append, List.filter_singleton, hs, cond_false, List.append_nil,
    sectionAbove]

lemma Attributed.append (h : Attributed sections b q) (hs : b.number ≤ s.sourceLine) :
    Attributed (sections ++ [s]) b q := by
  refine ⟨h.sourceLine, ?_, ?_⟩
  · rw [sectionAbove_append hs, h.title]
  · rw [sectionAbove_append hs, h.type]

lemma Drafted.finish (h : Drafted sections b d) : Attributed sections b d.finish := by
  refine ⟨congrArg Nat.cast h.sourceLine, h.title, ?_⟩
  have harrow := h.arrow
  unfold Draft.finish
  dsimp only
  by_cases hnone : d.arrow = none
  · rw [if_pos (harrow.mp hnone), hnone, h.type]
    rfl
  · rw [if_neg (mt harrow.mpr hnone), Option.isSome_iff_ne_none.mpr hnone, if_pos rfl]

end Sections

/-! ### Reading -/

section Lines

variable {sections : List Section} {b : Block} {d : Draft} {line : List Char}

lemma Block.received_addLines (b : Block) (line : List Char) :
    (b.addLines [line]).received =
      b.received ++ if (readChoice? line).isNone then (arrow? line).toList else [] := by
  have harrow : [line].filterMap arrow? = (arrow? line).toList := by
    cases h : arrow? line <;> simp [h]
  rw [received, addLines, List.filter_append, List.filterMap_append, ← List.append_assoc, received,
    List.filter_singleton]
  cases (readChoice? line).isNone with
  | true => rw [cond_true, harrow, if_pos rfl]
  | false => rw [cond_false, if_neg Bool.false_ne_true, List.filterMap_nil]

lemma Drafted.readLine (h : Drafted sections b d) (line : List Char) :
    Drafted sections (b.addLines [line]) (d.readLine line) := by
  have hreceived := b.received_addLines line
  unfold Draft.readLine
  cases hchoice : readChoice? line with
  | some c =>
    rw [hchoice, Option.isNone_some, if_neg Bool.false_ne_true, List.append_nil] at hreceived
    exact ⟨h.sourceLine, h.title, h.type, by rw [hreceived]; exact h.arrow⟩
  | none =>
    rw [hchoice, Option.isNone_none, if_pos rfl] at hreceived
    cases harrow : splitArrow line with
    | none =>
      rw [arrow?, harrow, Option.map_none, Option.toList_none, List.append_nil] at hreceived
      exact ⟨h.sourceLine, h.title, h.type, by rw [hreceived]; exact h.arrow⟩
    | some found =>
      rw [arrow?, harrow, Option.map_some, Option.toList_some] at hreceived
      exact ⟨h.sourceLine, h.title, h.type, by simp [hreceived]⟩

/-- Blank lines bring no answer. -/
lemma Drafted.addBlank (h : Drafted sections b d) (hblank : allBlank line = true) :
    Drafted sections (b.addLines [line]) d := by
  have hreceived := b.received_addLines line
  rw [arrow?_of_allBlank hblank, Option.toList_none, ite_self, List.append_nil] at hreceived
  exact ⟨h.sourceLine, h.title, h.type, by rw [hreceived]; exact h.arrow⟩

end Lines

namespace Progress.Reads

variable {n : Nat} {closed : List Block} {opened : Option Block} {p : Progress} {line : List Char}
  (default : Float)

lemma start (n : Nat) (title : String) : (Progress.start title).Reads n [] none where
  title := rfl
  type := rfl
  sections_lt := by simp [Progress.start]
  questions := .nil
  pending := .none

lemma closed_lt (h : p.Reads n closed opened) :
    List.Forall₂ (fun b q => b.number < n ∧ Attributed p.sections b q)
      (closed ++ opened.toList) p.closed := by
  have hpending := h.pending
  unfold Progress.closed
  generalize p.pending = pending at hpending
  cases hpending with
  | none => simpa using h.questions
  | some hd => exact List.rel_append h.questions (.cons ⟨hd.1, hd.2.finish⟩ .nil)

lemma close (h : p.Reads n closed opened) : p.close.Reads n (closed ++ opened.toList) none :=
  ⟨h.title, h.type, h.sections_lt, h.closed_lt, .none⟩

/-- What changes the pending question alone, in a line that is passed. -/
lemma mapPending (h : p.Reads n closed opened) {f : Draft → Draft} {g : Block → Block}
    (hg : ∀ b, (g b).number = b.number)
    (hf : ∀ b d, Drafted p.sections b d → Drafted p.sections (g b) (f d)) :
    ({ p with pending := p.pending.map f } : Progress).Reads (n + 1) closed (opened.map g) := by
  refine ⟨h.title, h.type, fun s hs => ?_, ?_, ?_⟩
  · have hlt := h.sections_lt s hs
    omega
  · exact h.questions.imp fun b q hq => ⟨Nat.lt_succ_of_lt hq.1, hq.2⟩
  · have hpending := h.pending
    dsimp only
    generalize p.pending = pending at hpending
    cases hpending with
    | none => exact .none
    | some hd =>
      refine .some ⟨?_, hf _ _ hd.2⟩
      rw [hg]
      exact Nat.lt_succ_of_lt hd.1

lemma succ (h : p.Reads n closed opened) : p.Reads (n + 1) closed opened := by
  have hsame := h.mapPending (f := id) (g := id) (fun _ => rfl) fun _ _ hd => hd
  rwa [Option.map_id_fun, Option.map_id_fun] at hsame

lemma addBody (h : p.Reads n closed opened) (line : List Char) :
    (p.addBody line).Reads (n + 1) closed opened := by
  have hsame := h.mapPending (f := fun d => { d with body := d.body ++ [line] }) (g := id)
    (fun _ => rfl) fun _ _ hd => ⟨hd.sourceLine, hd.title, hd.type, hd.arrow⟩
  rwa [Option.map_id_fun] at hsame

lemma readLine (h : p.Reads n closed opened) (line : List Char) :
    ({ p with pending := p.pending.map (·.readLine line) } : Progress).Reads (n + 1) closed
      (opened.map (·.addLines [line])) :=
  h.mapPending (fun _ => rfl) fun _ _ hd => hd.readLine line

lemma readBlank (h : p.Reads n closed opened) (hblank : allBlank line = true) :
    p.Reads (n + 1) closed (opened.map (·.addLines [line])) := by
  have hsame := h.mapPending (f := id) (g := (·.addLines [line])) (fun _ => rfl)
    fun _ _ hd => hd.addBlank hblank
  rwa [Option.map_id_fun] at hsame

/-- A heading closes a question whether or not it opens a section. -/
lemma readHeading (h : p.Reads n closed opened) (heading : List Char) :
    (p.readHeading n heading).Reads (n + 1) (closed ++ opened.toList) none := by
  have hclose := h.close.succ
  unfold Progress.readHeading
  dsimp only
  split
  · exact ⟨hclose.title, hclose.type, hclose.sections_lt, hclose.questions, .none⟩
  · refine ⟨by simp, by simp [baseType], ?_, ?_, .none⟩
    · refine List.forall_mem_append.mpr ⟨hclose.sections_lt, List.forall_mem_singleton.mpr ?_⟩
      exact Int.lt_add_one_of_le (Int.le_refl n)
    · refine hclose.questions.imp fun b q hq => ⟨hq.1, hq.2.append ?_⟩
      exact Int.ofNat_le.mpr (Nat.le_of_lt_succ hq.1)

lemma readQuestion (h : p.Reads n closed opened) (header : List Char) :
    (p.readQuestion default n header).Reads (n + 1) (closed ++ opened.toList)
      (some ⟨header, n, []⟩) := by
  have hclose := h.close.succ
  have habove : sectionAbove p.sections n = p.sections.getLast? :=
    sectionAbove_of_forall_lt h.sections_lt
  refine ⟨hclose.title, hclose.type, hclose.sections_lt, hclose.questions, ?_⟩
  refine .some ⟨Nat.lt_succ_self n, rfl, ?_, ?_, ?_⟩
  · exact h.title.trans (congrArg _ habove.symm)
  · exact h.type.trans (congrArg _ habove.symm)
  · simp [Block.received]

end Progress.Reads

/-! ### Blocks -/

/-- The blocks that some more active lines lead to. -/
def blocksWith (closed : List Block) (opened : Option Block) (active : List (List Char × Nat)) :
    List Block :=
  closed ++ (opened.map (·.addLines (linesAbove active))).toList ++ blocksOf active

section Blocks

variable {closed : List Block} {opened : Option Block} {active : List (List Char × Nat)}
  {line heading header : List Char} {n : Nat}

lemma blocksWith_nil (closed : List Block) (opened : Option Block) :
    blocksWith closed opened [] = closed ++ opened.toList := by
  simp [blocksWith]

lemma blocksWith_cons (h : isHeadingLine line = false) :
    blocksWith closed opened ((line, n) :: active) =
      blocksWith closed (opened.map (·.addLines [line])) active := by
  have hheader : questionHeader? line = none := by
    simpa [isQuestionLine] using (Bool.or_eq_false_iff.mp h).2
  rw [blocksWith, linesAbove_cons h, blocksOf_cons_of_none hheader, blocksWith, Option.map_map]
  simp [Function.comp_def, Block.addLines]

lemma blocksWith_cons_of_heading (h : heading? line = some heading) :
    blocksWith closed opened ((line, n) :: active) =
      blocksWith (closed ++ opened.toList) none active := by
  have hheading := isHeadingLine_of_heading? h
  rw [blocksWith, linesAbove_cons_of_heading hheading,
    blocksOf_cons_of_none (questionHeader?_of_heading? h)]
  simp [blocksWith]

lemma blocksWith_cons_of_header (h : questionHeader? line = some header) :
    blocksWith closed opened ((line, n) :: active) =
      blocksWith (closed ++ opened.toList) (some ⟨header, n, []⟩) active := by
  have hheading := isHeadingLine_of_questionHeader? h
  rw [blocksWith, linesAbove_cons_of_heading hheading, blocksOf_cons_of_header h]
  simp [blocksWith, Block.addLines]

end Blocks

namespace Progress.Reads

variable {n : Nat} {closed : List Block} {opened : Option Block} {p : Progress}
  (default : Float)

lemma readActive (h : p.Reads n closed opened) (line : List Char) :
    ∃ closed' opened', (p.readActive default n line).Reads (n + 1) closed' opened' ∧
      ∀ active, blocksWith closed' opened' active =
        blocksWith closed opened ((line, n) :: active) := by
  unfold Progress.readActive
  cases hheading : heading? line with
  | some heading =>
    exact ⟨_, _, h.readHeading heading, fun active => (blocksWith_cons_of_heading hheading).symm⟩
  | none =>
    cases hheader : questionHeader? line with
    | some header =>
      exact ⟨_, _, h.readQuestion default header,
        fun active => (blocksWith_cons_of_header hheader).symm⟩
    | none =>
      have hline := isHeadingLine_eq_false hheading hheader
      refine ⟨_, _, ?_, fun active => (blocksWith_cons hline).symm⟩
      dsimp only
      split
      · next hblank => exact h.readBlank hblank
      · exact h.readLine line

/-- The blocks of the active lines give the questions, each with the section above it. -/
theorem readAll (h : p.Reads n closed opened) (place : Place) (lines : List (List Char)) :
    ∃ closed' opened',
      (Progress.readAll default n p (assignRoles place lines)).Reads (n + lines.length)
        closed' opened' ∧
      closed' ++ opened'.toList =
        blocksWith closed opened (activeAmong place (lines.zipIdx n)) := by
  induction lines generalizing place n p closed opened with
  | nil => exact ⟨closed, opened, h, (blocksWith_nil closed opened).symm⟩
  | cons line lines ih =>
    rw [assignRoles, Progress.readAll, List.zipIdx_cons, activeAmong, List.length_cons,
      Nat.add_comm lines.length, ← Nat.add_assoc, Progress.read]
    dsimp only
    cases (place.step line).1 with
    | hidden => exact ih h.succ _
    | verbatim => exact ih (h.addBody line) _
    | active =>
      obtain ⟨closed', opened', hread, hblocks⟩ := h.readActive default line
      rw [if_pos rfl, ← hblocks]
      exact ih hread _

end Progress.Reads

/-! ### Whole documents -/

section Documents

variable {loader : Yaml.Loader} {content : String} {quiz : Quiz} {b : Block} {q : Question}

/-- An arrow answer that a question receives offers choices. -/
lemma Block.choices_ne_nil (h : b.received ≠ []) : b.choices ≠ [] := by
  have harrows : b.arrows ≠ [] := by
    intro hnone
    obtain ⟨hheader, hlines⟩ := List.append_eq_nil_iff.mp hnone
    refine h (List.append_eq_nil_iff.mpr ⟨hheader, ?_⟩)
    rw [List.filterMap_eq_nil_iff] at hlines ⊢
    exact fun line hline => hlines line (List.mem_of_mem_filter hline)
  by_cases hwritten : b.written = []
  · obtain ⟨a, ha⟩ : ∃ a, b.arrows.getLast? = some a :=
      ⟨_, List.getLast?_eq_some_getLast harrows⟩
    rw [b.choices_of_arrow hwritten ha]
    exact List.cons_ne_nil _ _
  · rwa [b.choices_of_written hwritten]

lemma attributed_of_parse (h : parse loader content = .ok quiz) :
    List.Forall₂ (Attributed quiz.sections) (blocksOf (activeLines content.toList))
      quiz.questions := by
  obtain ⟨metadata, default, -, -, rfl⟩ := parse_eq_ok_iff.mp h
  obtain ⟨closed, opened, hread, hblocks⟩ :=
    (Progress.Reads.start ((cut content.toList).offset + 1) (titleOf metadata)).readAll default
      Place.start (splitLines (cut content.toList).body)
  have hattributed := hread.closed_lt.imp fun b q hq => hq.2
  rw [hblocks, ← activeLines_eq, blocksWith] at hattributed
  exact hattributed

lemma choices_ne_nil_of_parse (h : parse loader content = .ok quiz) (hq : q ∈ quiz.questions)
    (htype : q.type ≠ baseType (sectionAbove quiz.sections q.sourceLine)) : q.choices ≠ [] := by
  obtain ⟨i, hi, rfl⟩ := List.getElem_of_mem hq
  have hattributed := attributed_of_parse h
  have hblock : i < (blocksOf (activeLines content.toList)).length := hattributed.length_eq ▸ hi
  have hfrom : Attributed quiz.sections (blocksOf (activeLines content.toList))[i]
      quiz.questions[i] := hattributed.get hblock hi
  have hplace := List.getElem_of_eq (map_questionPlace_of_parse h) (by rwa [List.length_map])
  rw [List.getElem_map, List.getElem_map] at hplace
  have hchoices : quiz.questions[i].choices = (blocksOf (activeLines content.toList))[i].choices :=
    (Prod.mk.inj hplace).2
  rw [hchoices]
  refine Block.choices_ne_nil fun hnone => htype ?_
  rw [hfrom.sourceLine, hfrom.type, if_pos hnone]

/-- The numbers of the active lines increase. -/
lemma pairwise_activeLines (content : List Char) :
    (activeLines content).Pairwise fun line line' => line.2 < line'.2 :=
  (pairwise_zipIdx _ 1).sublist ((activeAmong_sublist _ _).trans (List.drop_sublist _ _))

lemma pairwise_sourceLine {lines : List (List Char × Nat)}
    (h : lines.Sublist (activeLines content.toList)) :
    (lines.map fun line => (line.2 : Int)).Pairwise (· < ·) := by
  rw [List.pairwise_map]
  exact ((pairwise_activeLines _).sublist h).imp Int.ofNat_lt.mpr

/-- Questions come in the order of their lines. -/
lemma pairwise_questions_of_parse (h : parse loader content = .ok quiz) :
    (quiz.questions.map Question.sourceLine).Pairwise (· < ·) := by
  rw [map_sourceLine_of_parse h]
  exact pairwise_sourceLine List.filter_sublist

/-- A line that is numbered like another one is this line. -/
lemma eq_of_mem_activeLines {line line' : List Char} {n : Nat}
    (h : (line, n) ∈ activeLines content.toList) (h' : (line', n) ∈ activeLines content.toList) :
    line = line' := by
  have hnodup : ((activeLines content.toList).map Prod.snd).Nodup :=
    List.pairwise_map.mpr ((pairwise_activeLines _).imp Nat.ne_of_lt)
  exact congrArg Prod.fst (List.inj_on_of_nodup_map hnodup h h' rfl)

/-- A question has the title and the type of the last section above it, and without one it has
none and offers one choice out of many; an arrow answer makes it true or false, and then it offers
choices. No two questions or sections stand at the same line, and both come in document order. -/
theorem parse_attribution (h : parse loader content = .ok quiz) :
    List.Forall₂ (Attributed quiz.sections) (blocksOf (activeLines content.toList))
      quiz.questions ∧
    (∀ q ∈ quiz.questions, q.type ≠ baseType (sectionAbove quiz.sections q.sourceLine) →
      q.choices ≠ []) ∧
    (quiz.questions.map Question.sourceLine).Pairwise (· < ·) ∧
    (quiz.sections.map Section.sourceLine).Pairwise (· < ·) ∧
    (quiz.questions.map Question.sourceLine ++ quiz.sections.map Section.sourceLine).Nodup := by
  have hquestions := pairwise_questions_of_parse h
  have hsections : (quiz.sections.map Section.sourceLine).Pairwise (· < ·) := by
    rw [map_sourceLine_sections_of_parse h]
    exact pairwise_sourceLine (List.eraseP_sublist.trans List.filter_sublist)
  refine ⟨attributed_of_parse h, fun q hq => choices_ne_nil_of_parse h hq, hquestions, hsections,
    List.nodup_append.mpr ⟨hquestions.imp Int.ne_of_lt, hsections.imp Int.ne_of_lt, ?_⟩⟩
  -- no line is a question header and a section heading at once
  rw [map_sourceLine_of_parse h, map_sourceLine_sections_of_parse h]
  intro n hn m hm hnm
  obtain ⟨⟨line, k⟩, hline, rfl⟩ := List.mem_map.mp hn
  obtain ⟨⟨line', k'⟩, hline', rfl⟩ := List.mem_map.mp hm
  obtain rfl : k = k' := Int.ofNat_inj.mp hnm
  obtain ⟨hactive, hheader⟩ := List.mem_filter.mp hline
  obtain ⟨hactive', hheading⟩ := List.mem_filter.mp (List.eraseP_sublist.subset hline')
  obtain rfl := eq_of_mem_activeLines hactive hactive'
  obtain ⟨heading, hheading⟩ := Option.isSome_iff_exists.mp hheading
  rw [isQuestionLine, questionHeader?_of_heading? hheading] at hheader
  cases hheader

/-- A title heading closes the first question and changes no section. -/
theorem parse_essay : ∃ quiz,
    parse Yaml.safeLoader "## 1. A\n# Week 3\n## 2. B\n# Essay\n## 3. C\n## 4. D -> true" =
        .ok quiz ∧
      quiz.questions.map Question.sectionTitle = [none, none, some "Essay", some "Essay"] ∧
      quiz.questions.map Question.type =
        [.multipleChoice, .multipleChoice, .other, .trueFalse] := by
  obtain ⟨quiz, h, hsections⟩ : ∃ quiz,
      parse Yaml.safeLoader "## 1. A\n# Week 3\n## 2. B\n# Essay\n## 3. C\n## 4. D -> true" =
          .ok quiz ∧
        quiz.sections = [⟨"Essay", .other, 4⟩] := ⟨_, rfl, rfl⟩
  obtain ⟨hattributed, -⟩ := parse_attribution h
  rw [hsections] at hattributed
  have htitles := hattributed.imp fun b q hq => hq.title.symm
  have htypes := hattributed.imp fun b q hq => hq.type.symm
  rw [← List.forall₂_map_right_iff, ← List.forall₂_map_left_iff, List.forall₂_eq_eq_eq]
    at htitles htypes
  exact ⟨quiz, h, htitles.symm.trans (by decide), htypes.symm.trans (by decide)⟩

end Documents

end QuizPreflight.Quiz
