import QuizPreflight.Proofs.Command.Ending
import QuizPreflight.Proofs.Lint.Displacement
import QuizPreflight.Proofs.Quiz.Normalising
import QuizPreflight.Proofs.Text.Encoding

/-!
# Files and their texts

A file is read with one newline for every line ending, a text is taken as it is. So a file is
linted as its normalised text. That text is linted as the one in the file if its carriage returns
all end lines and none of them makes a mark of a bare one; only a stem that keeps a return, from
the lines of a code block, may then be quoted otherwise.
-/
namespace QuizPreflight

/-- The same finding without what it quotes. -/
def Diagnostic.unquoted (d : Diagnostic) : Diagnostic := { d with context := none }

/-- The same report on another source. -/
def LintReport.on (r : LintReport) (source : String) : LintReport := { r with sourcePath := source }

/-- Two reports of the same findings, which may quote other texts. -/
structure LintReport.Agrees (r r' : LintReport) : Prop where
  totalIssues : r'.totalIssues = r.totalIssues
  warnings : r'.warnings = r.warnings
  errors : r'.errors = r.errors
  diagnostics : r'.diagnostics.map Diagnostic.unquoted = r.diagnostics.map Diagnostic.unquoted

namespace Lint

open QuizPreflight.Text QuizPreflight.Quiz

/-! ### Findings -/

section Findings

variable {rules : List MarkerRule} {selection : Selection} {width : Width} {line : List Char}
  {lines : List (List Char)} {loader : Yaml.Loader} {t : String} {quiz quiz' : Quiz}

lemma scanLine_append_return (hrules : rules ⊆ markerRules) (h : isBareMark line = false)
    (n : Int) : scanLine rules width n (line ++ ['\r']) = scanLine rules width n line := by
  have hmatches : ∀ r ∈ markerRules, r.matches (line ++ ['\r']) = r.matches line := by
    simp only [markerRules, List.forall_mem_cons]
    exact ⟨hasBoldMarker_append_return line, hasPrefixMarker_append_return h, by simp⟩
  rw [scanLine, scanLine, (trails_append line).strip,
    List.filter_congr fun r hr => hmatches r (hrules hr)]

lemma scanLines_map_dropReturn (hrules : rules ⊆ markerRules)
    (h : ∀ line ∈ lines, line.getLast? = some '\r' → isBareMark (dropReturn line) = false)
    (n : Int) :
    scanLines rules width n (lines.map dropReturn) = scanLines rules width n lines := by
  induction lines generalizing n with
  | nil => rfl
  | cons line lines ih =>
    have hline : scanLine rules width n (dropReturn line) = scanLine rules width n line := by
      rcases dropReturn_cases line with hsame | hreturn
      · rw [← hsame]
      · have hlast : line.getLast? = some '\r' := by rw [hreturn, List.getLast?_concat]
        have hbare := h line List.mem_cons_self hlast
        rw [hreturn, scanLine_append_return hrules hbare, dropReturn_append]
    rw [List.map_cons, scanLines, scanLines, hline,
      ih fun line hmem => h line (List.mem_cons_of_mem _ hmem)]

/-- The raw lines show the same markers once they are normalised. -/
lemma markerFindings_normalised (h : ReturnsEndLines t.toList)
    (hbare : NoBareMarks (cut t.toList).body) :
    markerFindings (normalised t) selection width = markerFindings t selection width := by
  have hbody := h.of_suffix (body_suffix t.toList)
  rw [markerFindings, markerFindings, toList_normalised, cut_normaliseNewlines h, scanMarkers,
    scanMarkers, (splitLines_normaliseNewlines hbody).1]
  exact scanLines_map_dropReturn (List.filter_subset_self _) hbare _

lemma alike_normalised (q : Question) :
    Alike Diagnostic.unquoted Diagnostic.unquoted q q.normalised := by
  have hstem : allBlank (normalised q.stem).toList = allBlank q.stem.toList := by
    rw [toList_normalised, allBlank_normaliseNewlines]
  refine ⟨rfl, rfl, rfl, hstem, fun index rule severity message => ?_⟩
  simp only [finding, Diagnostic.unquoted, Question.normalised]

lemma moved_zero (d : Diagnostic) : d.moved 0 = d := by
  obtain ⟨rule, severity, message, line, context⟩ := d
  cases line <;> simp [Diagnostic.moved]

/-- The questions of the normalised text, points aside. -/
lemma moved_of_parse (h : ReturnsEndLines t.toList) (hbare : NoBareMarks (cut t.toList).body)
    (hquiz : parse loader t = .ok quiz) (hquiz' : parse loader (normalised t) = .ok quiz') :
    List.Forall₂ (Question.Moved 0) (quiz.questions.map Question.normalised) quiz'.questions := by
  obtain ⟨metadata, default, -, -, rfl⟩ := parse_eq_ok_iff.mp hquiz
  obtain ⟨metadata', default', -, -, rfl⟩ := parse_eq_ok_iff.mp hquiz'
  have hcut := cut_normaliseNewlines h
  rw [← toList_normalised] at hcut
  rw [hcut]
  dsimp only
  rw [← readBody_normaliseNewlines (h.of_suffix (body_suffix t.toList)) hbare]
  exact moved_readBody 0 metadata metadata' default default' _ _

lemma lintQuestions_normalised (h : ReturnsEndLines t.toList)
    (hbare : NoBareMarks (cut t.toList).body) (hquiz : parse loader t = .ok quiz)
    (hquiz' : parse loader (normalised t) = .ok quiz') :
    (lintQuestions (normalised t) quiz'.questions selection width).map Diagnostic.unquoted =
        (lintQuestions t quiz.questions selection width).map Diagnostic.unquoted ∧
      ((∀ q ∈ quiz.questions, '\r' ∉ q.stem.toList) →
        lintQuestions (normalised t) quiz'.questions selection width =
          lintQuestions t quiz.questions selection width) := by
  have hstructure : structureFindings selection quiz'.questions =
      structureFindings selection (quiz.questions.map Question.normalised) := by
    have hzero : Diagnostic.moved 0 = id := funext moved_zero
    rw [structureFindings_moved (moved_of_parse h hbare hquiz hquiz'), hzero, List.map_id]
  rw [lintQuestions, lintQuestions, markerFindings_normalised h hbare, hstructure]
  constructor
  · have hlike : List.Forall₂ (Alike Diagnostic.unquoted Diagnostic.unquoted) quiz.questions
        (quiz.questions.map Question.normalised) := by
      rw [List.forall₂_map_right_iff, List.forall₂_same]
      exact fun q _ => alike_normalised q
    rw [List.map_append, List.map_append, structureFindings_alike hlike rfl]
  · intro hstems
    have hsame : ∀ q ∈ quiz.questions, q.normalised = q := fun q hq => by
      rw [Question.normalised, normalised_of_notMem (hstems q hq)]
    rw [List.map_congr_left hsame, List.map_id']

end Findings

/-! ### Front matter -/

section Frontmatter

/-- Whether a document can be read depends on its front matter alone. -/
lemma parse_normalised_eq_error_iff {loader : Yaml.Loader} {t : String} {f : Quiz.Fault}
    (h : ReturnsEndLines t.toList) (hinner : ∀ inner ∈ (cut t.toList).inner, '\r' ∉ inner) :
    parse loader (normalised t) = .error f ↔ parse loader t = .error f := by
  have hsame : (cut (normalised t).toList).inner = (cut t.toList).inner := by
    rw [toList_normalised, cut_normaliseNewlines h]
    cases hcut : (cut t.toList).inner with
    | none => rfl
    | some inner =>
      have hnone := hinner inner hcut
      rw [Option.map_some, dropReturn_of_notMem hnone, normaliseNewlines_of_notMem hnone]
  rw [parse_eq_error_iff, parse_eq_error_iff, hsame]

end Frontmatter

/-! ### Reports -/

section Reports

variable {ds ds' : List Diagnostic}

lemma addAll_on (r : LintReport) (ds : List Diagnostic) (source : String) :
    (r.on source).addAll ds = (r.addAll ds).on source := by
  induction ds generalizing r with
  | nil => rfl
  | cons d ds ih => exact ih (r.add d)

/-- The name of a source does not change what is reported on it. -/
lemma reportOn_eq_map (loader : Yaml.Loader) (source source' content : String)
    (selection : Selection) (width : Width) : reportOn loader source content selection width =
      (reportOn loader source' content selection width).map (·.on source) := by
  unfold reportOn
  cases lint loader content selection width with
  | error f => rfl
  | ok ds => exact congrArg Except.ok (addAll_on (LintReport.start source') ds source)

/-- Reports of the same findings have the same numbers. -/
lemma agrees_of_findings (source : String)
    (h : ds'.map Diagnostic.unquoted = ds.map Diagnostic.unquoted) :
    ((LintReport.start source).addAll ds).Agrees ((LintReport.start source).addAll ds') := by
  have hcount : ds'.countP (·.severity = .error) = ds.countP (·.severity = .error) := by
    have hmap := congrArg (List.countP (·.severity = .error)) h
    rwa [List.countP_map, List.countP_map] at hmap
  have hlength : ds'.length = ds.length := by
    have hmap := congrArg List.length h
    rwa [List.length_map, List.length_map] at hmap
  have htallied := tallied_report source ds
  have htallied' := tallied_report source ds'
  have htotal : ((LintReport.start source).addAll ds').totalIssues =
      ((LintReport.start source).addAll ds).totalIssues := by
    rw [htallied'.total, htallied.total, diagnostics_report, diagnostics_report, hlength]
  have herrors : ((LintReport.start source).addAll ds').errors =
      ((LintReport.start source).addAll ds).errors := by
    rw [htallied'.errors, htallied.errors, diagnostics_report, diagnostics_report, hcount]
  refine ⟨htotal, ?_, herrors, by rwa [diagnostics_report, diagnostics_report]⟩
  have hsum := htallied.sum
  have hsum' := htallied'.sum
  omega

end Reports

/-! ### The program and its tools -/

section Program

open QuizPreflight.Command

variable {host : Host} {settings : Settings} {env : Environment} {fs : FileSystem}
  {path t : String} {p : Path} {selection : Selection} {r r' : LintReport}

/-- A file that holds a text is read as the normalised text. -/
lemma readText_of_encoded (h : fs.read p = .ok (Utf8.encode t.toList)) :
    fs.readText p = .ok (normalised t) := by
  rw [FileSystem.readText, h]
  dsimp only
  rw [Utf8.decode_encode]
  rfl

lemma lintQuizContent_eq_ok_iff : Tool.lintQuizContent host settings t selection = .ok r ↔
    ∃ ds, lint host.loader t selection (some settings.contextWidth) = .ok ds ∧
      (LintReport.start Tool.contentName).addAll ds = r := by
  unfold Tool.lintQuizContent reportOn
  cases lint host.loader t selection (some settings.contextWidth) with
  | ok ds => simp [bind, Except.bind, pure, Except.pure, Except.mapError]
  | error f => simp [bind, Except.bind, Except.mapError]

lemma lintQuizContent_eq_error_iff {c : Tool.Complaint} :
    Tool.lintQuizContent host settings t selection = .error c ↔
      ∃ f, Quiz.parse host.loader t = .error f ∧ c = .source (.frontmatter f) := by
  have hlint : ∀ f, lint host.loader t selection (some settings.contextWidth) = .error f ↔
      Quiz.parse host.loader t = .error f := fun f => lintWith_eq_error_iff
  simp only [← hlint]
  unfold Tool.lintQuizContent reportOn
  cases lint host.loader t selection (some settings.contextWidth) with
  | ok ds => simp [bind, Except.bind, pure, Except.pure, Except.mapError]
  | error f => simp [bind, Except.bind, Except.mapError, eq_comm]

lemma guard_exists?_of_readText (hread : host.access.read p = none)
    (htext : fs.readText p = .ok t) : host.access.guard p (fs.exists? p) = .ok true := by
  obtain ⟨bytes, hbytes⟩ := exists_read_of_readText htext
  exact Access.guard_eq_ok_iff.mpr ⟨host.access.look_of_read hread,
    FileSystem.test_of_lookup (FileSystem.read_eq_ok_iff.mp hbytes) _⟩

/-- A file is linted as the text that is read from it. -/
lemma lintQuiz_of_readText (hp : env.path? path = some p) (hname : Tool.isQuizName p = true)
    (hread : host.access.read p = none) (htext : fs.readText p = .ok t) :
    Tool.lintQuiz host settings env fs path selection =
      .ok ((Tool.lintQuizContent host settings t selection).map (·.on p.toString)) := by
  have hreport : (reportOnFile host.loader host.access fs p selection
      (some settings.contextWidth)).mapError Tool.Complaint.source =
        (Tool.lintQuizContent host settings t selection).map (·.on p.toString) := by
    rw [reportOnFile, hread, htext, Tool.lintQuizContent]
    simp only [bind, Except.bind, Except.mapError]
    rw [reportOn_eq_map host.loader p.toString Tool.contentName]
    cases reportOn host.loader Tool.contentName t selection (some settings.contextWidth) <;> rfl
  unfold Tool.lintQuiz
  rw [Environment.expandHome_eq_ok hp]
  simp only [bind, Except.bind, guard_exists?_of_readText hread htext, pure, Except.pure, hname]
  exact congrArg Except.ok hreport

lemma out_plain (s : String) (code : Nat) : (Result.plain s code).out = s ++ "\n" := by
  simp [Result.out, Result.plain, String.join]

/-- The report of a command is the JSON of that of the tool. -/
lemma out_of_readText (hp : env.path? path = some p) (hread : host.access.read p = none)
    (htext : fs.readText p = .ok t)
    (hr : Tool.lintQuizContent host settings t selection = .ok r) :
    (runRequest host settings env fs (.lint path selection true)).1.out =
      (lintReportJson (r.on p.toString)).toText ++ "\n" := by
  obtain ⟨ds, hlint, rfl⟩ := lintQuizContent_eq_ok_iff.mp hr
  have hreport : ((LintReport.start Tool.contentName).addAll ds).on p.toString =
      (LintReport.start p.toString).addAll ds :=
    (addAll_on (LintReport.start Tool.contentName) ds p.toString).symm
  rw [runRequest_lint hp, runLint, guard_of_readText hread htext, hreport]
  dsimp only
  rw [reportOnFile_of_lint hread htext hlint]
  dsimp only
  rw [if_pos rfl, out_plain]

/-- A file and its normalised text have the same report, under the name of each, and the command
prints that of the file. The text itself has it if it has no carriage returns. It has a report of
the same findings, quoting the same unless a stem keeps a return, if its returns all end lines and
none stands behind a bare mark; and it is not refused unless the normalised text is, if its front
matter has no returns. -/
theorem lint_file_agrees (settings : Settings) (selection : Selection)
    (hp : env.path? path = some p) (hname : Tool.isQuizName p = true)
    (haccess : host.access.read p = none) (hread : fs.read p = .ok (Utf8.encode t.toList)) :
    Tool.lintQuiz host settings env fs path selection =
        .ok ((Tool.lintQuizContent host settings (normalised t) selection).map
          (·.on p.toString)) ∧
      (∀ r, Tool.lintQuizContent host settings (normalised t) selection = .ok r →
        (runRequest host settings env fs (.lint path selection true)).1.out =
          (lintReportJson (r.on p.toString)).toText ++ "\n") ∧
      ('\r' ∉ t.toList → Tool.lintQuizContent host settings (normalised t) selection =
        Tool.lintQuizContent host settings t selection) ∧
      (ReturnsEndLines t.toList → NoBareMarks (cut t.toList).body →
        (∀ r r', Tool.lintQuizContent host settings t selection = .ok r →
          Tool.lintQuizContent host settings (normalised t) selection = .ok r' →
          r.Agrees r' ∧ ((∀ quiz, Quiz.parse host.loader t = .ok quiz →
            ∀ q ∈ quiz.questions, '\r' ∉ q.stem.toList) → r' = r)) ∧
        ((∀ inner ∈ (cut t.toList).inner, '\r' ∉ inner) → ∀ c,
          Tool.lintQuizContent host settings (normalised t) selection = .error c ↔
            Tool.lintQuizContent host settings t selection = .error c)) := by
  have htext := readText_of_encoded hread
  refine ⟨lintQuiz_of_readText hp hname haccess htext, fun r => out_of_readText hp haccess htext,
    fun hnone => by rw [normalised_of_notMem hnone], fun hends hbare => ⟨?_, ?_⟩⟩
  · intro r r' hr hr'
    obtain ⟨ds, hlint, rfl⟩ := lintQuizContent_eq_ok_iff.mp hr
    obtain ⟨ds', hlint', rfl⟩ := lintQuizContent_eq_ok_iff.mp hr'
    obtain ⟨quiz, hquiz, hds⟩ := bind_eq_ok_iff.mp hlint
    obtain ⟨quiz', hquiz', hds'⟩ := bind_eq_ok_iff.mp hlint'
    obtain rfl := Except.ok.inj hds
    obtain rfl := Except.ok.inj hds'
    obtain ⟨hunquoted, hsame⟩ := lintQuestions_normalised hends hbare hquiz hquiz'
    refine ⟨agrees_of_findings _ hunquoted, fun hstems => ?_⟩
    rw [hsame (hstems quiz hquiz)]
  · intro hinner c
    simp only [lintQuizContent_eq_error_iff, parse_normalised_eq_error_iff hends hinner]

/-- One file that holds a text. -/
def filesOf (text : String) : FileSystem :=
  ⟨.folder [("q.md", .file (Utf8.encode text.toList))], [], ⟨1, []⟩⟩

/-- A quiz whose lines end in both ways. -/
def mixedText : String := "## 1. Q\r\na) A\n- B [x]\r\n"

lemma returnsEndLines_mixedText : ReturnsEndLines mixedText.toList := by
  have hchars : mixedText.toList = "## 1. Q\r\na) A\n- B [x]\r\n".toList := rfl
  rw [hchars]
  repeat' first | exact .nil | refine .ending ?_ | refine .char (by decide) ?_

/-- A file that is linted as its text, returns and all. -/
theorem lint_file_mixed : ∃ r,
    Tool.lintQuizContent Host.plain Settings.default mixedText none = .ok r ∧
    Tool.lintQuiz Host.plain Settings.default ⟨[], none, []⟩ (filesOf mixedText) "/q.md" none =
      .ok (.ok (r.on "/q.md")) := by
  obtain ⟨r, hr⟩ : ∃ r, Tool.lintQuizContent Host.plain Settings.default mixedText none =
    .ok r := ⟨_, rfl⟩
  obtain ⟨r', hr'⟩ : ∃ r, Tool.lintQuizContent Host.plain Settings.default
    (normalised mixedText) none = .ok r := ⟨_, rfl⟩
  have hstems : ∀ quiz, Quiz.parse Yaml.safeLoader mixedText = .ok quiz →
      ∀ q ∈ quiz.questions, '\r' ∉ q.stem.toList := by
    rintro quiz hquiz
    obtain rfl := Except.ok.inj (hquiz.symm.trans rfl)
    decide +kernel
  have hpath : Environment.path? ⟨[], none, []⟩ "/q.md" = some ⟨1, ["q.md"]⟩ := rfl
  have haccess : Host.plain.access.read ⟨1, ["q.md"]⟩ = none := rfl
  have hread : (filesOf mixedText).read ⟨1, ["q.md"]⟩ = .ok (Utf8.encode mixedText.toList) := rfl
  obtain ⟨htool, -, -, hagree⟩ :=
    lint_file_agrees Settings.default none hpath (by decide) haccess hread
  have hsame := ((hagree returnsEndLines_mixedText (by decide +kernel)).1 r r' hr hr').2 hstems
  refine ⟨r, hr, htool.trans ?_⟩
  rw [hr', hsame]
  rfl

/-- A dash that marks a choice in the text and none in the file. -/
def bareText : String := "## 1. Q\r\n-\r\na) A [x]\r\n"

/-- A text that is linted without an error while its file is not. -/
theorem lint_file_bare : ∃ r r',
    Tool.lintQuizContent Host.plain Settings.default bareText none = .ok r ∧
    Tool.lintQuiz Host.plain Settings.default ⟨[], none, []⟩ (filesOf bareText) "/q.md" none =
      .ok (.ok r') ∧
    r.errors = 0 ∧ r'.errors = 1 := by
  have htext : (filesOf bareText).readText ⟨1, ["q.md"]⟩ = .ok (normalised bareText) :=
    readText_of_encoded rfl
  have htool : Tool.lintQuiz Host.plain Settings.default ⟨[], none, []⟩ (filesOf bareText)
      "/q.md" none = .ok ((Tool.lintQuizContent Host.plain Settings.default (normalised bareText)
        none).map (·.on "/q.md")) :=
    lintQuiz_of_readText rfl (by decide) rfl htext
  exact ⟨_, _, rfl, htool.trans rfl, by decide +kernel, by decide +kernel⟩

end Program

end Lint

end QuizPreflight
