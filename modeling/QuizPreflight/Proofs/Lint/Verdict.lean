import Mathlib.Data.List.Count
import Mathlib.Data.List.Nodup
import QuizPreflight.Command.Run
import QuizPreflight.Proofs.Files.Descent
import QuizPreflight.Proofs.Lint.Selection
import QuizPreflight.Proofs.Result
import QuizPreflight.Proofs.Settings

/-!
# Quizzes without errors

A quiz that can be imported has questions with different ids, each with a stem and, where choices
are offered, with two choices of which one is correct. Exactly such quizzes are linted without an
error; deprecated markers and second correct choices are no more than warnings.
-/
namespace QuizPreflight.Lint

/-- A question with enough choices, or one that is answered in another way. -/
def HasAnswers (q : Question) : Prop :=
  q.type ≠ .other → 2 ≤ q.choices.length ∧ ∃ c ∈ q.choices, c.isCorrect = true

def HasStem (q : Question) : Prop := ∃ c ∈ q.stem.toList, Text.isBlank c = false

/-- Questions that can be imported. -/
def Importable (qs : List Question) : Prop :=
  qs ≠ [] ∧ (∀ q ∈ qs, HasStem q) ∧ (∀ q ∈ qs, HasAnswers q) ∧ (qs.map Question.id).Nodup

/-- Nothing that was found keeps a quiz from being imported. -/
def NoErrors (ds : List Diagnostic) : Prop := ∀ d ∈ ds, d.severity ≠ .error

section Findings

variable {ds ds' : List Diagnostic} {d : Diagnostic}

lemma noErrors_append : NoErrors (ds ++ ds') ↔ NoErrors ds ∧ NoErrors ds' :=
  List.forall_mem_append

lemma noErrors_cons_error (h : d.severity = .error) : ¬NoErrors (d :: ds) :=
  fun hall => hall d List.mem_cons_self h

lemma noErrors_when_error {c : Prop} [Decidable c] (h : d.severity = .error) :
    NoErrors (if c then [d] else []) ↔ ¬c := by
  rw [NoErrors, forall_mem_when, h]
  simp

lemma noErrors_when_warning {c : Prop} [Decidable c] (h : d.severity = .warning) :
    NoErrors (if c then [d] else []) := by
  rw [NoErrors, forall_mem_when, h]
  simp

end Findings

/-! ### One question -/

section Questions

variable (q : Question) (index : Nat)

lemma noErrors_tooFewChoices :
    NoErrors (tooFewChoices q index) ↔ (q.type ≠ .other → 2 ≤ q.choices.length) := by
  rw [tooFewChoices, noErrors_when_error rfl, Bool.and_eq_true, decide_eq_true_eq, not_and,
    Nat.not_lt, QuestionType.hasChoices, bne_iff_ne, minChoices]

lemma noErrors_missingCorrectAnswer :
    NoErrors (missingCorrectAnswer q index) ↔
      (q.type ≠ .other → ∃ c ∈ q.choices, c.isCorrect = true) := by
  rw [missingCorrectAnswer, noErrors_when_error rfl]
  simp [QuestionType.hasChoices, Question.correctChoices]

lemma noErrors_ambiguousSingleChoice : NoErrors (ambiguousSingleChoice q index) :=
  noErrors_when_warning rfl

lemma noErrors_missingStem : NoErrors (missingStem q index) ↔ HasStem q := by
  rw [missingStem, noErrors_when_error rfl, Text.allBlank, List.all_eq_true, HasStem]
  simp

lemma noErrors_questionFindings :
    NoErrors (questionFindings none q index) ↔ HasStem q ∧ HasAnswers q := by
  have hrules : questionFindings none q index =
      tooFewChoices q index ++ (missingCorrectAnswer q index ++
        (ambiguousSingleChoice q index ++ missingStem q index)) := by
    simp [questionFindings, questionRules, isSelected]
  rw [hrules, noErrors_append, noErrors_append, noErrors_append, noErrors_tooFewChoices,
    noErrors_missingCorrectAnswer, noErrors_missingStem, HasAnswers]
  have hambiguous := noErrors_ambiguousSingleChoice q index
  tauto

lemma noErrors_eachQuestion (qs : List Question) :
    NoErrors (eachQuestion none index qs) ↔ ∀ q ∈ qs, HasStem q ∧ HasAnswers q := by
  induction qs generalizing index with
  | nil => simp [eachQuestion, NoErrors]
  | cons q qs ih =>
    rw [eachQuestion, noErrors_append, noErrors_questionFindings, ih, List.forall_mem_cons]

end Questions

/-! ### All questions -/

section Quizzes

variable {all qs : List Question} {reported : List String} {index : Nat}

/-- An id that is borne twice is told of, unless it was told of before. -/
lemma noErrors_duplicatesFrom :
    NoErrors (duplicatesFrom all reported index qs) ↔
      ∀ q ∈ qs, countId q.id all < 2 ∨ q.id ∈ reported := by
  induction qs generalizing index with
  | nil => simp [duplicatesFrom, NoErrors]
  | cons q qs ih =>
    rw [duplicatesFrom, List.forall_mem_cons]
    split
    · next hskip => simp_all
    · next hnew =>
      rw [Bool.or_eq_true, decide_eq_true_eq, List.contains_iff_mem] at hnew
      exact iff_of_false (noErrors_cons_error rfl) fun h => hnew h.1

lemma countId_eq_count (id : String) (qs : List Question) :
    countId id qs = (qs.map Question.id).count id := by
  rw [countId, List.count, List.countP_map]
  rfl

lemma noErrors_duplicateIds (qs : List Question) :
    NoErrors (duplicateIds qs) ↔ (qs.map Question.id).Nodup := by
  rw [duplicateIds, noErrors_duplicatesFrom, List.nodup_iff_count_le_one]
  simp only [List.not_mem_nil, or_false, countId_eq_count]
  constructor
  · intro h id
    by_cases hid : id ∈ qs.map Question.id
    · obtain ⟨q, hq, rfl⟩ := List.mem_map.mp hid
      exact Nat.le_of_lt_succ (h q hq)
    · rw [List.count_eq_zero_of_not_mem hid]
      exact Nat.zero_le 1
  · intro h q _
    exact Nat.lt_succ_of_le (h q.id)

lemma noErrors_structureFindings (qs : List Question) :
    NoErrors (structureFindings none qs) ↔ Importable qs := by
  cases qs with
  | nil => simp [structureFindings, noQuestions, NoErrors, Importable]
  | cons q qs =>
    have hquiz : quizFindings none (q :: qs) = duplicateIds (q :: qs) := by
      simp [quizFindings, quizRules, isSelected]
    rw [structureFindings, List.isEmpty_cons, if_neg Bool.false_ne_true, noErrors_append,
      noErrors_eachQuestion, hquiz, noErrors_duplicateIds, Importable, forall₂_and, and_assoc]
    simp

end Quizzes

/-! ### Reports -/

/-- A report whose numbers are those of its findings. -/
structure Tallied (r : LintReport) : Prop where
  total : r.totalIssues = r.diagnostics.length
  sum : r.totalIssues = r.warnings + r.errors
  errors : r.errors = r.diagnostics.countP (·.severity = .error)

section Reports

variable {r : LintReport}

lemma tallied_start (source : String) : Tallied (LintReport.start source) := ⟨rfl, rfl, rfl⟩

protected lemma Tallied.add (h : Tallied r) (d : Diagnostic) : Tallied (r.add d) := by
  obtain ⟨htotal, hsum, herrors⟩ := h
  refine ⟨?_, ?_, ?_⟩
  · simp [LintReport.add, htotal]
  · cases hd : d.severity <;> simp [LintReport.add, hd] <;> omega
  · cases hd : d.severity <;> simp [LintReport.add, hd, herrors]

protected lemma Tallied.addAll (h : Tallied r) (ds : List Diagnostic) : Tallied (r.addAll ds) := by
  induction ds generalizing r with
  | nil => exact h
  | cons d ds ih => exact ih (h.add d)

lemma tallied_report (source : String) (ds : List Diagnostic) :
    Tallied ((LintReport.start source).addAll ds) := (tallied_start source).addAll ds

lemma diagnostics_report (source : String) (ds : List Diagnostic) :
    ((LintReport.start source).addAll ds).diagnostics = ds :=
  (LintReport.start source).addAll_diagnostics ds

lemma errors_report_eq_zero_iff (source : String) (ds : List Diagnostic) :
    ((LintReport.start source).addAll ds).errors = 0 ↔ NoErrors ds := by
  rw [(tallied_report source ds).errors, diagnostics_report, List.countP_eq_zero, NoErrors]
  simp

end Reports

/-! ### Whole documents -/

section Documents

variable {content : String} {qs : List Question} {selection : Selection} {width : Width}

lemma noErrors_scanLines {rules : List MarkerRule} (h : ∀ r ∈ rules, r.severity = .warning)
    (width : Width) (n : Int) (lines : List (List Char)) :
    NoErrors (scanLines rules width n lines) := by
  induction lines generalizing n with
  | nil => simp [scanLines, NoErrors]
  | cons line lines ih =>
    rw [scanLines, noErrors_append]
    refine ⟨fun d hd => ?_, ih (n + 1)⟩
    obtain ⟨r, hr, rfl⟩ := List.mem_map.mp hd
    simp [h r (List.mem_of_mem_filter hr)]

lemma noErrors_markerFindings : NoErrors (markerFindings content none width) := by
  have hrules : ∀ r ∈ markerRules, r.severity = .warning := by decide
  exact noErrors_scanLines (fun r hr => hrules r (List.mem_of_mem_filter hr)) _ _ _

/-- A document is linted without an error exactly if its questions can be imported. -/
theorem noErrors_lintQuestions (hselection : Unselective selection) :
    NoErrors (lintQuestions content qs selection width) ↔ Importable qs := by
  rw [lintQuestions_of_unselective hselection, lintQuestions, noErrors_append,
    noErrors_structureFindings]
  exact and_iff_right noErrors_markerFindings

end Documents

/-! ### The program -/

section Program

open QuizPreflight.Command

variable {host : Host} {settings : Settings} {env : Environment} {fs : FileSystem}
  {path text : String} {p : Path} {quiz : Quiz} {selection : Selection}

lemma exists_read_of_readText (h : fs.readText p = .ok text) : ∃ bytes, fs.read p = .ok bytes := by
  unfold FileSystem.readText at h
  split at h
  · cases h
  · next bytes hread => exact ⟨bytes, hread⟩

lemma isFile?_of_readText (h : fs.readText p = .ok text) : fs.isFile? p = .ok true := by
  obtain ⟨bytes, hread⟩ := exists_read_of_readText h
  exact FileSystem.test_of_lookup (FileSystem.read_eq_ok_iff.mp hread) _

/-- A file that may be read is found where there is a text. -/
lemma guard_of_readText {access : Access} (hread : access.read p = none)
    (htext : fs.readText p = .ok text) : access.guard p (fs.isFile? p) = .ok true :=
  Access.guard_eq_ok_iff.mpr ⟨access.look_of_read hread, isFile?_of_readText htext⟩

lemma reportOnFile_of_lint {ds : List Diagnostic} {width : Width}
    (hread : host.access.read p = none) (htext : fs.readText p = .ok text)
    (hlint : lint host.loader text selection width = .ok ds) :
    reportOnFile host.loader host.access fs p selection width =
      .ok ((LintReport.start p.toString).addAll ds) := by
  have hreport : reportOn host.loader p.toString text selection width =
      .ok ((LintReport.start p.toString).addAll ds) := by
    rw [reportOn, hlint]
    rfl
  rw [reportOnFile, hread, htext]
  exact congrArg (Except.mapError SourceFault.frontmatter) hreport

lemma reportOnFile_of_parse (hread : host.access.read p = none) (htext : fs.readText p = .ok text)
    (hquiz : Quiz.parse host.loader text = .ok quiz) (width : Width) :
    reportOnFile host.loader host.access fs p selection width =
      .ok ((LintReport.start p.toString).addAll
        (lintQuestions text quiz.questions selection width)) :=
  reportOnFile_of_lint hread htext (lintWith_of_ok hquiz selection width)

lemma ending_lint (hpath : env.expandHome (Path.ofString path) = .ok p)
    (hread : host.access.read p = none) (htext : fs.readText p = .ok text)
    (hquiz : Quiz.parse host.loader text = .ok quiz) (hselection : Unselective selection) :
    (Importable quiz.questions →
      (runRequest host settings env fs (.lint path selection true)).1.ending = .code exitOk) ∧
    (¬Importable quiz.questions →
      (runRequest host settings env fs (.lint path selection true)).1.ending =
        .code exitFindings) := by
  have hrun : (runRequest host settings env fs (.lint path selection true)).1 =
      runLint host settings fs p selection true := by
    unfold runRequest
    dsimp only
    rw [hpath]
  rw [hrun, ← noErrors_lintQuestions hselection, ← errors_report_eq_zero_iff p.toString, runLint,
    guard_of_readText hread htext]
  dsimp only
  rw [reportOnFile_of_parse hread htext hquiz]
  dsimp only
  rw [if_pos rfl, Result.plain]
  exact ⟨fun h => by rw [if_pos h], fun h => by rw [if_neg h]⟩

/-- With all rules, a document is linted without an error exactly if the questions that were made
of it can be imported. A report counts every finding once, as a warning or as an error, and the
program ends without a complaint on the files of such quizzes alone. -/
theorem lint_verdict {ε : Type} {selection : Selection} (hselection : Unselective selection) :
    (∀ (parser : String → Except ε Quiz) (content : String) (quiz : Quiz) (width : Width),
      parser content = .ok quiz →
      ∃ ds, lintWith parser content selection width = .ok ds ∧
        ((∀ d ∈ ds, d.severity ≠ .error) ↔ Importable quiz.questions) ∧
        ∀ source, let r := (LintReport.start source).addAll ds
          r.totalIssues = r.warnings + r.errors ∧ r.totalIssues = ds.length ∧
          (r.errors = 0 ↔ Importable quiz.questions)) ∧
    ∀ (host : Host) (settings : Settings) (env : Environment) (fs : FileSystem)
      (path text : String) (p : Path) (quiz : Quiz),
      env.expandHome (Path.ofString path) = .ok p → host.access.read p = none →
      fs.readText p = .ok text → Quiz.parse host.loader text = .ok quiz →
      (Importable quiz.questions →
        (runRequest host settings env fs (.lint path selection true)).1.ending = .code 0) ∧
      (¬Importable quiz.questions →
        (runRequest host settings env fs (.lint path selection true)).1.ending = .code 1) := by
  constructor
  · intro parser content quiz width hquiz
    have herrors : NoErrors (lintQuestions content quiz.questions selection width) ↔
        Importable quiz.questions := noErrors_lintQuestions hselection
    refine ⟨_, lintWith_of_ok hquiz selection width, herrors, fun source => ?_⟩
    have htally := tallied_report source (lintQuestions content quiz.questions selection width)
    refine ⟨htally.sum, ?_, ?_⟩
    · rw [htally.total, diagnostics_report]
    · rw [errors_report_eq_zero_iff, herrors]
  · intro host settings env fs path text p quiz hpath hread htext hquiz
    exact ending_lint hpath hread htext hquiz hselection

/-- A file with one question that is answered by an arrow. -/
def arrowFiles : FileSystem :=
  ⟨.folder [("q.md", .file (Text.Utf8.encode "## 1. Is it so? -> true".toList))], [], ⟨1, []⟩⟩

/-- The question in that file. -/
def arrowQuestion : Question :=
  ⟨"1", "Is it so?", .trueFalse, Quiz.defaultPoints, 1, Quiz.Arrow.true.choices, none⟩

lemma importable_arrowQuestion : Importable [arrowQuestion] := by
  have hstem : HasStem arrowQuestion := ⟨'I', by decide, rfl⟩
  have hanswers : HasAnswers arrowQuestion := fun _ =>
    ⟨le_refl 2, ⟨"True", true⟩, List.mem_cons_self, rfl⟩
  exact ⟨List.cons_ne_nil _ _, List.forall_mem_singleton.mpr hstem,
    List.forall_mem_singleton.mpr hanswers, List.nodup_singleton _⟩

/-- The question can be imported: nothing is wrong with it, and the program says so. -/
theorem lint_arrow :
    (∃ ds, lint Yaml.safeLoader "## 1. Is it so? -> true" none defaultWidth = .ok ds ∧
      ∀ d ∈ ds, d.severity ≠ .error) ∧
    (runRequest Host.plain Settings.default ⟨[], none, []⟩ arrowFiles
      (.lint "/q.md" none true)).1.ending = .code 0 := by
  obtain ⟨quiz, hquiz, hquestions⟩ : ∃ quiz,
      Quiz.parse Yaml.safeLoader "## 1. Is it so? -> true" = .ok quiz ∧ quiz.questions = [arrowQuestion] := ⟨_, rfl, rfl⟩
  have himport : Importable quiz.questions := hquestions ▸ importable_arrowQuestion
  have htext : arrowFiles.readText ⟨1, ["q.md"]⟩ = .ok "## 1. Is it so? -> true" :=
    eq_ok_of_toOption (by decide +kernel)
  obtain ⟨hlint, hprogram⟩ := lint_verdict (ε := Quiz.Fault) unselective_none
  obtain ⟨ds, hds, hsound, -⟩ := hlint (Quiz.parse Yaml.safeLoader) _ quiz defaultWidth hquiz
  obtain ⟨hzero, -⟩ := hprogram Host.plain Settings.default ⟨[], none, []⟩ arrowFiles "/q.md" _ _
    quiz rfl rfl htext hquiz
  exact ⟨⟨ds, hds, hsound.mpr himport⟩, hzero himport⟩

end Program

end QuizPreflight.Lint
