import QuizPreflight.Proofs.Quiz.Parsing
import QuizPreflight.Proofs.Quiz.Writing
import QuizPreflight.Yaml.Document

/-!
# Reading what was written

Each written line is read as what it stands for, whatever was read before it. The lines of a
question then add the question to those already closed, and those of a quiz give the quiz.
-/
namespace QuizPreflight.Quiz

open QuizPreflight.Text QuizPreflight.Decimal

/-! ### Reading line after line -/

namespace Progress

variable (n : Nat) (p : Progress)

/-- What reading active lines leaves. -/
def readLines (n : Nat) (p : Progress) (lines : List (List Char)) : Progress :=
  readAll defaultPoints n p (lines.map fun line => (.active, line))

lemma readLines_cons (line : List Char) (lines : List (List Char)) :
    readLines n p (line :: lines) =
      readLines (n + 1) (p.readActive defaultPoints n line) lines := rfl

lemma readLines_append (first second : List (List Char)) :
    readLines n p (first ++ second) =
      readLines (n + first.length) (readLines n p first) second := by
  rw [readLines, List.map_append, readAll_append, List.length_map]
  rfl

lemma readActive_heading (s : WrittenSection) : p.readActive defaultPoints n s.heading =
    { p.close with
      type := s.type
      sectionTitle := some s.title.chars
      sections := p.sections ++ [⟨String.ofList s.title.chars, s.type, n⟩] } := by
  have hstarts : startsWith sectionPrefix s.headingText = true := by
    rw [startsWith, s.sectionPrefix_headingText, Option.isSome_some]
  have hname : strip (skip sectionPrefix s.headingText) = s.title.chars := by
    rw [skip, s.sectionPrefix_headingText, Option.getD_some, s.title.strip_chars]
  rw [readActive, s.heading?_heading]
  dsimp only
  unfold readHeading
  dsimp only
  rw [hstarts, hname]
  rfl

lemma readActive_header (q : WrittenQuestion) : p.readActive defaultPoints n q.header =
    { p.close with pending := some (q.draft p.type p.sectionTitle n) } := by
  rw [readActive, q.heading?_header, q.questionHeader?_header]
  dsimp only
  unfold readQuestion
  rw [q.readHeader_headerText]
  rfl

lemma readActive_stem (l : StemLine) : p.readActive defaultPoints n l.chars =
    { p with pending := p.pending.map fun d => { d with body := d.body ++ [l.chars] } } := by
  have hread : ∀ d : Draft, d.readLine l.chars = { d with body := d.body ++ [l.chars] } := by
    intro d
    rw [Draft.readLine, l.no_choice, l.no_arrow]
    dsimp only
    rw [l.strip_chars]
  rw [readActive, l.no_heading, l.no_header]
  dsimp only
  rw [l.not_allBlank, if_neg Bool.false_ne_true]
  simp only [hread]

lemma readActive_choice (c : WrittenChoice) : p.readActive defaultPoints n c.line =
    { p with pending := p.pending.map fun d => { d with choices := d.choices ++ [c.choice] } } := by
  have hread : ∀ d : Draft, d.readLine c.line = { d with choices := d.choices ++ [c.choice] } := by
    intro d
    rw [Draft.readLine, c.readChoice?_line]
  obtain ⟨d, rest, hline, hblank, hhash, -, -⟩ := c.exists_line_eq_cons
  have hnot : allBlank c.line = false := by
    rw [hline, allBlank, List.all_cons, hblank, Bool.false_and]
  have hheading : heading? c.line = none := by rw [hline, heading?_cons hhash]
  have hheader : questionHeader? c.line = none := by rw [hline, questionHeader?_cons hhash]
  rw [readActive, hheading, hheader]
  dsimp only
  rw [hnot, if_neg Bool.false_ne_true]
  simp only [hread]

lemma readLines_stem (more : List StemLine) : readLines n p (more.map (·.chars)) =
    { p with pending := p.pending.map fun d =>
        { d with body := d.body ++ more.map (·.chars) } } := by
  induction more generalizing n p with
  | nil => simp [readLines, readAll]
  | cons l more ih =>
    rw [List.map_cons, readLines_cons, readActive_stem, ih]
    simp [Function.comp_def]

lemma readLines_choices (choices : List WrittenChoice) :
    readLines n p (choices.map WrittenChoice.line) =
      { p with pending := p.pending.map fun d =>
          { d with choices := d.choices ++ choices.map WrittenChoice.choice } } := by
  induction choices generalizing n p with
  | nil => simp [readLines, readAll]
  | cons c choices ih =>
    rw [List.map_cons, readLines_cons, readActive_choice, ih]
    simp [Function.comp_def]

/-- The lines of a question close what is pending and leave the question to be closed. -/
lemma close_readLines_question (q : WrittenQuestion) :
    (readLines n p q.lines).close =
      { p.close with questions := p.closed ++ [q.question p.type p.sectionTitle n] } := by
  have hstem : ∀ l ∈ q.stem.chars :: q.more.map (·.chars), strip l = l ∧ l ≠ [] := by
    rw [List.forall_mem_cons]
    refine ⟨⟨q.stem.strip_chars, q.stem.ne_nil⟩, fun l hl => ?_⟩
    obtain ⟨line, -, rfl⟩ := List.mem_map.mp hl
    exact ⟨line.strip_chars, line.ne_nil⟩
  rw [WrittenQuestion.lines, readLines_cons, readActive_header, readLines_append, readLines_stem,
    readLines_choices]
  simp [close, closed, WrittenQuestion.draft, Draft.finish, Draft.stem, (strip_joinLines hstem).1,
    WrittenQuestion.question]

/-- The lines of questions add them to those that are closed. -/
lemma close_readLines_questions (qs : List WrittenQuestion) :
    (readLines n p (qs.flatMap WrittenQuestion.lines)).close =
      { p.close with questions := p.closed ++ questionsFrom p.type p.sectionTitle n qs } := by
  induction qs generalizing n p with
  | nil => simp [readLines, readAll, questionsFrom, close]
  | cons q qs ih =>
    -- the first question is still pending when the second one is read, and is closed by it
    have hclose := close_readLines_question n p q
    have hclosed := congrArg Progress.questions hclose
    have htype := congrArg Progress.type hclose
    have htitle := congrArg Progress.sectionTitle hclose
    rw [List.flatMap_cons, readLines_append, ih, hclose]
    dsimp only [close] at hclosed htype htitle
    rw [hclosed, htype, htitle, questionsFrom, List.append_assoc, List.singleton_append]

lemma close_readLines_section (s : WrittenSection) :
    (readLines n p s.lines).close =
      { p.close with
        type := s.type
        sectionTitle := some s.title.chars
        questions := p.closed ++ questionsFrom s.type (some s.title.chars) (n + 1) s.questions
        sections := p.sections ++ [⟨String.ofList s.title.chars, s.type, n⟩] } := by
  rw [WrittenSection.lines, readLines_cons, close_readLines_questions, readActive_heading]
  rfl

/-- The lines of sections add the sections and their questions. -/
lemma readLines_sections (ss : List WrittenSection) :
    (readLines n p (ss.flatMap WrittenSection.lines)).closed =
        p.closed ++ WrittenSection.questionsOf n ss ∧
      (readLines n p (ss.flatMap WrittenSection.lines)).sections =
        p.sections ++ WrittenSection.sectionsOf n ss ∧
      (readLines n p (ss.flatMap WrittenSection.lines)).title = p.title := by
  induction ss generalizing n p with
  | nil => simp [readLines, readAll, WrittenSection.questionsOf, WrittenSection.sectionsOf]
  | cons s ss ih =>
    have hclose := close_readLines_section n p s
    have hclosed := congrArg Progress.questions hclose
    have hsections := congrArg Progress.sections hclose
    have htitle := congrArg Progress.title hclose
    dsimp only [close] at hclosed hsections htitle
    obtain ⟨hquestions, hrest, hsame⟩ := ih (n + s.lines.length) (readLines n p s.lines)
    rw [List.flatMap_cons, readLines_append, hquestions, hrest, hsame, hclosed, hsections, htitle]
    simp [WrittenSection.questionsOf, WrittenSection.sectionsOf]

end Progress

/-! ### Whole documents -/

lemma assignRoles_of_active {lines : List (List Char)}
    (h : ∀ line ∈ lines, opensSolution line = false ∧ isFence line = false) :
    assignRoles Place.start lines = lines.map fun line => (.active, line) := by
  have hstep : ∀ line ∈ lines, Place.start.step line = (.active, Place.start) := fun line hline =>
    Place.step_of_active Place.isOutside_start (h line hline).1 (h line hline).2
  exact (assignRoles_of_forall_step hstep).1

lemma cut_cons {c : Char} (h : c ≠ '-') (s : List Char) : cut (c :: s) = ⟨none, c :: s, 0⟩ := by
  have hdashes : literal dashes (c :: s) = none := if_neg (Ne.symm h)
  rw [cut, hdashes]
  rfl

namespace WrittenQuiz

variable (t : WrittenQuiz)

/-- What holds of every kind of line holds of all lines of a quiz. -/
lemma forall_mem_lines {P : List Char → Prop} (hheading : ∀ s : WrittenSection, P s.heading)
    (hheader : ∀ q : WrittenQuestion, P q.header) (hstem : ∀ l : StemLine, P l.chars)
    (hchoice : ∀ c : WrittenChoice, P c.line) : ∀ line ∈ t.lines, P line := by
  have hquestions : ∀ qs : List WrittenQuestion, ∀ line ∈ qs.flatMap WrittenQuestion.lines,
      P line := by
    intro qs line hline
    obtain ⟨q, -, hline⟩ := List.mem_flatMap.mp hline
    rw [WrittenQuestion.lines, List.mem_cons, List.mem_append] at hline
    rcases hline with rfl | hline | hline
    · exact hheader q
    · obtain ⟨l, -, rfl⟩ := List.mem_map.mp hline
      exact hstem l
    · obtain ⟨c, -, rfl⟩ := List.mem_map.mp hline
      exact hchoice c
  intro line hline
  rcases List.mem_append.mp hline with hline | hline
  · exact hquestions t.loose line hline
  · obtain ⟨s, -, hline⟩ := List.mem_flatMap.mp hline
    rcases List.mem_cons.mp hline with rfl | hline
    · exact hheading s
    · exact hquestions s.questions line hline

lemma isFence_of_mem_lines : ∀ line ∈ t.lines, isFence line = false := by
  have hhash : ∀ s, isFence ('#' :: s) = false :=
    fun s => isFence_cons (by decide) (by decide) (by decide)
  refine t.forall_mem_lines (fun s => hhash _) (fun q => hhash _) (fun l => l.no_fence) fun c => ?_
  obtain ⟨d, rest, hline, hblank, -, hbacktick, htilde⟩ := c.exists_line_eq_cons
  rw [hline, isFence_cons hblank hbacktick htilde]

lemma newline_notMem_of_mem_lines : ∀ line ∈ t.lines, '\n' ∉ line :=
  t.forall_mem_lines WrittenSection.newline_notMem_heading WrittenQuestion.newline_notMem_header
    (fun l => l.newline_notMem) WrittenChoice.newline_notMem_line

/-- A document starts with a heading or a header, if with anything. -/
lemma lines_cases : t.lines = [] ∨ ∃ s rest, t.lines = ('#' :: s) :: rest := by
  obtain ⟨loose, sections⟩ := t
  cases loose with
  | cons q qs => exact .inr ⟨_, _, rfl⟩
  | nil =>
    cases sections with
    | cons s ss => exact .inr ⟨_, _, rfl⟩
    | nil => exact .inl rfl

lemma cut_joinLines : cut (joinLines t.lines) = ⟨none, joinLines t.lines, 0⟩ := by
  rcases t.lines_cases with h | ⟨s, rest, h⟩
  · rw [h]
    rfl
  · rw [h]
    cases rest with
    | nil => exact cut_cons (by decide) s
    | cons next rest =>
      rw [joinLines_cons_cons]
      exact cut_cons (by decide) _

lemma readAll_joinLines (h : ∀ line ∈ t.lines, opensSolution line = false) (p : Progress) :
    Progress.readAll defaultPoints 1 p (assignRoles Place.start (splitLines (joinLines t.lines))) =
      p.readLines 1 t.lines := by
  rcases t.lines_cases with hlines | ⟨s, rest, hlines⟩
  · rw [hlines]
    rfl
  · have hne : t.lines ≠ [] := by simp [hlines]
    have hactive : ∀ line ∈ t.lines, opensSolution line = false ∧ isFence line = false :=
      fun line hline => ⟨h line hline, t.isFence_of_mem_lines line hline⟩
    rw [splitLines_joinLines hne t.newline_notMem_of_mem_lines, assignRoles_of_active hactive,
      Progress.readLines]

end WrittenQuiz

/-- A quiz that is written in the documented form is read back as it was meant. -/
theorem parse_written (loader : Yaml.Loader) (t : WrittenQuiz)
    (h : ∀ line ∈ t.lines, opensSolution line = false) : parse loader t.text = .ok t.quiz := by
  have htext : t.text.toList = joinLines t.lines := String.toList_ofList
  -- the sections are read on from what the questions in front of them leave
  have hclose := Progress.close_readLines_questions 1 (Progress.start (titleOf [])) t.loose
  have hclosed := congrArg Progress.questions hclose
  have hsections := congrArg Progress.sections hclose
  have htitle := congrArg Progress.title hclose
  dsimp only [Progress.close] at hclosed hsections htitle
  obtain ⟨hquestions, hopened, hsame⟩ := Progress.readLines_sections t.sectionsStart
    (Progress.readLines 1 (Progress.start (titleOf [])) (t.loose.flatMap WrittenQuestion.lines))
    t.sections
  rw [parse_of_no_frontmatter (by rw [htext, t.cut_joinLines]), htext, readBody,
    t.readAll_joinLines h, WrittenQuiz.lines, Progress.readLines_append,
    ← WrittenQuiz.sectionsStart, hquestions, hopened, hsame, hclosed, hsections, htitle]
  rfl

section Example

def whichQuestion : WrittenQuestion where
  id := ['1']
  id_ne_nil := by decide
  isIdChar_of_mem := List.all_eq_true.mp rfl
  stem := ⟨"Which?".toList, by decide, by decide, by decide⟩
  no_tag := by decide
  no_arrow := by decide
  points := some ⟨['2'], ['5'], by decide, List.all_eq_true.mp rfl⟩
  more := [{
    chars := "Pick one.".toList
    ne_nil := by decide
    strip_chars := by decide
    newline_notMem := by decide
    no_heading := by decide
    no_header := by decide
    no_fence := by decide
    no_choice := by decide
    no_arrow := by decide }]
  choices :=
    [⟨.letter 'a' (by decide), ⟨"This".toList, by decide, by decide, by decide⟩,
      (stripMarkers_eq_self_iff (by decide)).mpr (by decide), true⟩,
     ⟨.dash, ⟨"That".toList, by decide, by decide, by decide⟩,
      (stripMarkers_eq_self_iff (by decide)).mpr (by decide), false⟩]

def whetherQuestion : WrittenQuestion where
  id := "x-2".toList
  id_ne_nil := by decide
  isIdChar_of_mem := List.all_eq_true.mp rfl
  stem := ⟨"Is it so?".toList, by decide, by decide, by decide⟩
  no_tag := by decide
  no_arrow := by decide
  points := none
  more := []
  choices := []

def sampleQuiz : WrittenQuiz where
  loose := [whichQuestion]
  sections := [⟨⟨"True/False".toList, by decide, by decide, by decide⟩, [whetherQuestion]⟩]

def sampleText : String :=
  "## 1. Which? [2.5 pts]\nPick one.\na) This [x]\n- That\n# Section: True/False\n## x-2. Is it so?"

/-- A question on its own and one below a heading. -/
theorem parse_written_sample : parse Yaml.safeLoader sampleText = .ok
    { title := ""
      questions := [
        ⟨"1", "Which?\nPick one.", .multipleChoice, ofDecimal 25 (-1), 1,
          [⟨"This", true⟩, ⟨"That", false⟩], none⟩,
        ⟨"x-2", "Is it so?", .trueFalse, 1.0, 6, [], some "True/False"⟩]
      sections := [⟨"True/False", .trueFalse, 5⟩]
      metadata := [] } := by
  have hplain : (sampleQuiz.lines.all fun line => !opensSolution line) = true := rfl
  have hlines : ∀ line ∈ sampleQuiz.lines, opensSolution line = false := by simpa using hplain
  have htext : sampleQuiz.text = sampleText := rfl
  have hstart : sampleQuiz.sectionsStart = 5 := rfl
  have hnumber : numberOf (['2'] ++ ['5']) = 25 := by decide
  have hworth : whichQuestion.worth = ofDecimal 25 (-1) := by
    rw [WrittenQuestion.worth, whichQuestion, Option.map_some, Option.getD_some, Numeral.value,
      hnumber]
    rfl
  rw [← htext, parse_written Yaml.safeLoader sampleQuiz hlines, WrittenQuiz.quiz, hstart, ← hworth]
  rfl

end Example

end QuizPreflight.Quiz
