import QuizPreflight.Proofs.Command.Printing
import QuizPreflight.Proofs.Lint.Verdict
import QuizPreflight.Proofs.Package.Verdict
import QuizPreflight.Proofs.Quiz.Totality
import QuizPreflight.Tool

/-!
# Endings of the program

A run ends with a code that tells what came of the request, unless something stands in its way
that no command foresees: a home folder that is not known, a path that the system refuses to look
at or that no file system takes, a work folder that cannot be made, a level that does not exist,
front matter that keeps a quiz from being read, a text that the renderer refuses where it is printed
as it is, or a character that the output cannot write. Of the renderer it is assumed that it can be
relied on, and of the loader and the system nothing.
-/
namespace QuizPreflight.Command

open QuizPreflight.Console

/-- The path that a request is about. -/
def Request.path? : Request → Option String
  | .lint path _ _ | .validate path _ _ => some path
  | .rules | .check => none

def missingBlock (p : Path) : Block := complaintBlock s!"File not found: {p.toString}"

def unreadBlock (p : Path) (why : String) : Block :=
  complaintBlock s!"Could not read {p.toString}: {why}"

/-- Why a file that is there gives no text. -/
inductive Unread (access : Access) (fs : FileSystem) (p : Path) : String → Prop
  | refused {message : String} (h : access.read p = some message) : Unread access fs p message
  | undecodable {f : Text.Utf8.Fault} (hread : access.read p = none)
      (htext : fs.readText p = .error (.encoding f)) : Unread access fs p f.message

/-- What keeps a request from being answered with a code. -/
inductive RequestObstacle (host : Host) (settings : Settings) (env : Environment)
    (fs : FileSystem) : Request → Prop
  | path {r : Request} {path : String} (hr : r.path? = some path)
      (h : Unusable host.access env fs path) : RequestObstacle host settings env fs r
  | frontmatter {path text : String} {p : Path} {rules : Option (List String)} {asJson : Bool}
      {inner : List Char} {f : Quiz.Fault} (hp : env.path? path = some p)
      (hread : host.access.read p = none) (htext : fs.readText p = .ok text)
      (hinner : (Quiz.cut text.toList).inner = some inner)
      (hf : Quiz.Obstacle host.loader inner f) :
      RequestObstacle host settings env fs (.lint path rules asJson)
  | missingQuiz {path : String} {p : Path} {rules : Option (List String)} {asJson : Bool}
      (hp : env.path? path = some p)
      (habsent : host.access.guard p (fs.isFile? p) = .ok false)
      (hdraw : ¬host.renderer.Draws (missingBlock p)) :
      RequestObstacle host settings env fs (.lint path rules asJson)
  | unread {path why : String} {p : Path} {rules : Option (List String)} {asJson : Bool}
      (hp : env.path? path = some p)
      (hthere : host.access.guard p (fs.isFile? p) = .ok true)
      (hwhy : Unread host.access fs p why) (hdraw : ¬host.renderer.Draws (unreadBlock p why)) :
      RequestObstacle host settings env fs (.lint path rules asJson)
  | missingPackage {path : String} {p : Path} {strict : Option Bool} {asJson : Bool}
      (hp : env.path? path = some p)
      (habsent : host.access.guard p (fs.exists? p) = .ok false)
      (hdraw : ¬host.renderer.Draws (missingBlock p)) :
      RequestObstacle host settings env fs (.validate path strict asJson)
  /-- The work folder is there but may not be looked at. -/
  | hidden {p : Path} {message : String} (hp : settings.workFolder = some p)
      (h : host.access.look p = some message) : RequestObstacle host settings env fs .check
  | folder {p : Path} (hp : settings.workFolder = some p)
      (hdraw : ¬host.renderer.Draws (workBlock p)) : RequestObstacle host settings env fs .check
  | level (hdraw : ¬host.renderer.Draws (levelBlock settings)) :
      RequestObstacle host settings env fs .check

/-- The report on the package at a path. -/
def packageReport (host : Host) (settings : Settings) (fs : FileSystem) (p : Path)
    (strict : Option Bool) : Package.Report :=
  (host.validate settings fs p strict).1

/-- The code that a request is answered with. -/
inductive Answered (host : Host) (settings : Settings) (env : Environment) (fs : FileSystem) :
    Request → Nat → Prop
  | missingQuiz {path : String} {p : Path} {rules : Option (List String)} {asJson : Bool}
      (hp : env.path? path = some p)
      (habsent : host.access.guard p (fs.isFile? p) = .ok false)
      (hdraw : host.renderer.Draws (missingBlock p)) :
      Answered host settings env fs (.lint path rules asJson) 2
  | unread {path why : String} {p : Path} {rules : Option (List String)} {asJson : Bool}
      (hp : env.path? path = some p)
      (hthere : host.access.guard p (fs.isFile? p) = .ok true)
      (hwhy : Unread host.access fs p why) (hdraw : host.renderer.Draws (unreadBlock p why)) :
      Answered host settings env fs (.lint path rules asJson) 2
  | faulty {path text : String} {p : Path} {rules : Option (List String)} {asJson : Bool}
      {ds : List Diagnostic} (hp : env.path? path = some p)
      (hread : host.access.read p = none) (htext : fs.readText p = .ok text)
      (hlint : Lint.lint host.loader text rules (some settings.contextWidth) = .ok ds)
      (herror : ∃ d ∈ ds, d.severity = .error) :
      Answered host settings env fs (.lint path rules asJson) 1
  | clean {path text : String} {p : Path} {rules : Option (List String)} {asJson : Bool}
      {ds : List Diagnostic} (hp : env.path? path = some p)
      (hread : host.access.read p = none) (htext : fs.readText p = .ok text)
      (hlint : Lint.lint host.loader text rules (some settings.contextWidth) = .ok ds)
      (hnone : ∀ d ∈ ds, d.severity ≠ .error) :
      Answered host settings env fs (.lint path rules asJson) 0
  | missingPackage {path : String} {p : Path} {strict : Option Bool} {asJson : Bool}
      (hp : env.path? path = some p)
      (habsent : host.access.guard p (fs.exists? p) = .ok false)
      (hdraw : host.renderer.Draws (missingBlock p)) :
      Answered host settings env fs (.validate path strict asJson) 2
  | invalid {path : String} {p : Path} {strict : Option Bool} {asJson : Bool}
      (hp : env.path? path = some p)
      (hthere : host.access.guard p (fs.exists? p) = .ok true)
      (herrors : (packageReport host settings fs p strict).errors ≠ []) :
      Answered host settings env fs (.validate path strict asJson) 1
  | valid {path : String} {p : Path} {strict : Option Bool} {asJson : Bool}
      (hp : env.path? path = some p)
      (hthere : host.access.guard p (fs.exists? p) = .ok true)
      (hnone : (packageReport host settings fs p strict).errors = []) :
      Answered host settings env fs (.validate path strict asJson) 0
  | rules : Answered host settings env fs .rules 0
  | checked (hfolder : ∀ p ∈ settings.workFolder,
        host.access.guard p (fs.isFolder? p) = .ok true)
      (hwork : ∀ p ∈ settings.workFolder, host.renderer.Draws (workBlock p))
      (hlevel : host.renderer.Draws (levelBlock settings)) :
      Answered host settings env fs .check 0
  | unready {p : Path} (hp : settings.workFolder = some p)
      (hno : host.access.guard p (fs.isFolder? p) = .ok false)
      (hwork : host.renderer.Draws (workBlock p))
      (hlevel : host.renderer.Draws (levelBlock settings)) :
      Answered host settings env fs .check 2

/-! ### Requests -/

section Requests

variable {host : Host} {settings : Settings} {env : Environment} {fs : FileSystem} {r : Request}
  {path text why : String} {p : Path} {rules : Option (List String)} {strict : Option Bool}
  {asJson : Bool} {n : Nat} {ds : List Diagnostic}

lemma runRequest_lint (hp : env.path? path = some p) :
    (runRequest host settings env fs (.lint path rules asJson)).1 =
      runLint host settings fs p rules asJson := by
  unfold runRequest
  dsimp only
  rw [Environment.expandHome_eq_ok hp]

lemma runRequest_validate (hp : env.path? path = some p) :
    (runRequest host settings env fs (.validate path strict asJson)).1 =
      (runValidate host settings fs p strict asJson).1 := by
  unfold runRequest
  dsimp only
  rw [Environment.expandHome_eq_ok hp]

lemma runLint_missing (h : host.access.guard p (fs.isFile? p) = .ok false) :
    runLint host settings fs p rules asJson = .missing host.renderer p := by
  rw [runLint, h]

lemma runLint_unread (hthere : host.access.guard p (fs.isFile? p) = .ok true)
    (hwhy : Unread host.access fs p why) : runLint host settings fs p rules asJson =
      .complaint host.renderer s!"Could not read {p.toString}: {why}" := by
  cases hwhy with
  | refused hread =>
    rw [runLint, hthere, Lint.reportOnFile, hread]
    rfl
  | undecodable hread htext =>
    rw [runLint, hthere, Lint.reportOnFile, hread, htext]
    rfl

lemma isPlain_rule {selection : Lint.Selection} {width : Lint.Width}
    (h : Lint.lint host.loader text selection width = .ok ds) : ∀ d ∈ ds, IsPlain d.rule := by
  obtain ⟨quiz, -, hds⟩ := bind_eq_ok_iff.mp h
  obtain rfl := Except.ok.inj hds
  exact fun d hd => isPlain_ruleName (Lint.rule_of_lintQuestions hd)

/-- Only front matter keeps a text from being linted. -/
lemma lint_eq_error_iff {selection : Lint.Selection} {width : Lint.Width} {f : Quiz.Fault} :
    Lint.lint host.loader text selection width = .error f ↔
      ∃ inner ∈ (Quiz.cut text.toList).inner, Quiz.Obstacle host.loader inner f :=
  Lint.lintWith_eq_error_iff.trans Quiz.parse_eq_error_iff

lemma runLint_frontmatter {f : Quiz.Fault} (hread : host.access.read p = none)
    (htext : fs.readText p = .ok text)
    (hlint : Lint.lint host.loader text rules (some settings.contextWidth) = .error f) :
    runLint host settings fs p rules asJson = .broken (.frontmatter f) := by
  have hreport : Lint.reportOnFile host.loader host.access fs p rules
      (some settings.contextWidth) = .error (.frontmatter f) := by
    rw [Lint.reportOnFile, hread, htext]
    simp [bind, Except.bind, Lint.reportOn, hlint, Except.mapError]
  rw [runLint, Lint.guard_of_readText hread htext]
  dsimp only
  rw [hreport]

/-- A file that is there gives a text unless it is not read or cannot be decoded. -/
lemma unread_or_readText (hthere : host.access.guard p (fs.isFile? p) = .ok true) :
    (∃ why, Unread host.access fs p why) ∨
      host.access.read p = none ∧ ∃ text, fs.readText p = .ok text := by
  cases hread : host.access.read p with
  | some message => exact .inl ⟨message, .refused hread⟩
  | none =>
    cases htext : fs.readText p with
    | ok text => exact .inr ⟨rfl, text, rfl⟩
    | error e =>
      cases e with
      | encoding f => exact .inl ⟨f.message, .undecodable hread htext⟩
      | file e =>
        refine absurd htext ?_
        obtain ⟨-, hfile⟩ := Access.guard_eq_ok_iff.mp hthere
        unfold FileSystem.test at hfile
        unfold FileSystem.readText
        rcases hlookup : fs.lookup p with problem | content | es
        · rw [hlookup] at hfile
          cases problem <;> simp at hfile
        · rw [FileSystem.read_eq_ok_iff.mpr hlookup]
          dsimp only
          split <;> simp
        · simp [hlookup, Entry.isFolder] at hfile

/-- A report on a file is printed in either form. -/
lemma runLint_report (hreliable : host.renderer.Reliable) (hread : host.access.read p = none)
    (htext : fs.readText p = .ok text)
    (hlint : Lint.lint host.loader text rules (some settings.contextWidth) = .ok ds) :
    ((∃ d ∈ ds, d.severity = .error) →
      (runLint host settings fs p rules asJson).ending = .code 1) ∧
    ((∀ d ∈ ds, d.severity ≠ .error) →
      (runLint host settings fs p rules asJson).ending = .code 0) := by
  have hdraws : ∀ b ∈ lintReportBlocks host.renderer.escape
      ((LintReport.start p.toString).addAll ds), host.renderer.Draws b := fun b hb =>
    hreliable.draws b (isMarked_of_mem_lintReportBlocks
      (by rw [Lint.diagnostics_report]; exact isPlain_rule hlint) b hb)
  have hending : (runLint host settings fs p rules asJson).ending =
      .code (if ((LintReport.start p.toString).addAll ds).errors = 0 then exitOk
        else exitFindings) := by
    rw [runLint, Lint.guard_of_readText hread htext]
    dsimp only
    rw [Lint.reportOnFile_of_lint hread htext hlint]
    dsimp only
    split
    · rfl
    · exact ending_printing hdraws _
  have hcode := Lint.errors_report_eq_zero_iff p.toString ds
  rw [hending]
  constructor
  · rintro ⟨d, hd, herror⟩
    rw [if_neg fun hzero => hcode.mp hzero d hd herror]
    rfl
  · intro hnone
    rw [if_pos (hcode.mpr hnone)]
    rfl

lemma packageReport_isValid_iff :
    (packageReport host settings fs p strict).isValid = true ↔
      (packageReport host settings fs p strict).errors = [] := by
  unfold packageReport Host.validate
  split
  · exact Package.Outcome.report_isValid_iff _
  · exact Package.Outcome.report_isValid_iff _

lemma runValidate_report (hreliable : host.renderer.Reliable)
    (h : host.access.guard p (fs.exists? p) = .ok true) :
    ((packageReport host settings fs p strict).errors ≠ [] →
      (runValidate host settings fs p strict asJson).1.ending = .code 1) ∧
    ((packageReport host settings fs p strict).errors = [] →
      (runValidate host settings fs p strict asJson).1.ending = .code 0) := by
  have hdraws : ∀ b ∈ packageReportBlocks host.renderer.escape p.toString
      (packageReport host settings fs p strict), host.renderer.Draws b := fun b hb =>
    hreliable.draws b (isMarked_of_mem_packageReportBlocks _ _ b hb)
  have hending : (runValidate host settings fs p strict asJson).1.ending =
      .code (if (packageReport host settings fs p strict).isValid then exitOk
        else exitFindings) := by
    unfold runValidate
    rw [h]
    dsimp only
    split
    · rfl
    · exact ending_printing hdraws _
  rw [hending, ne_eq, ← packageReport_isValid_iff]
  constructor
  · intro hinvalid
    rw [if_neg hinvalid]
    rfl
  · intro hvalid
    rw [if_pos hvalid]
    rfl

lemma runCheck_ready
    (h : ∀ p ∈ settings.workFolder, host.access.guard p (fs.isFolder? p) = .ok true) :
    runCheck host settings fs =
      .printing host.renderer (checkBlocks settings true) exitOk := by
  unfold runCheck
  cases hwork : settings.workFolder with
  | none => rfl
  | some p =>
    rw [Option.mapM_some, h p hwork]
    rfl

lemma runCheck_unready (hp : settings.workFolder = some p)
    (h : host.access.guard p (fs.isFolder? p) = .ok false) :
    runCheck host settings fs =
      .printing host.renderer (checkBlocks settings false) exitUsage := by
  unfold runCheck
  rw [hp, Option.mapM_some, h]
  rfl

lemma runCheck_hidden {message : String} (hp : settings.workFolder = some p)
    (h : host.access.look p = some message) :
    runCheck host settings fs = .broken (.path (.refused message)) := by
  unfold runCheck Access.guard
  rw [hp, Option.mapM_some, h]
  rfl

/-- Settings that cannot be drawn keep the check from being printed. -/
lemma breakdown_runCheck
    (h : ∀ hasFolder, ¬∀ b ∈ checkBlocks settings hasFolder, host.renderer.Draws b) :
    ∃ b, (runCheck host settings fs).ending = .breakdown b := by
  unfold runCheck
  split
  · exact ⟨_, rfl⟩
  · exact breakdown_printing (h _) _

/-- What a request is answered with is the code that it ends with. -/
theorem ending_of_answered (hreliable : host.renderer.Reliable)
    (h : Answered host settings env fs r n) :
    (runRequest host settings env fs r).1.ending = .code n := by
  cases h with
  | missingQuiz hp habsent hdraw =>
    rw [runRequest_lint hp, runLint_missing habsent]
    exact ending_complaint hdraw
  | unread hp hthere hwhy hdraw =>
    rw [runRequest_lint hp, runLint_unread hthere hwhy]
    exact ending_complaint hdraw
  | faulty hp hread htext hlint herror =>
    rw [runRequest_lint hp]
    exact (runLint_report hreliable hread htext hlint).1 herror
  | clean hp hread htext hlint hnone =>
    rw [runRequest_lint hp]
    exact (runLint_report hreliable hread htext hlint).2 hnone
  | missingPackage hp habsent hdraw =>
    rw [runRequest_validate hp, runValidate, habsent]
    exact ending_complaint hdraw
  | invalid hp hthere herrors =>
    rw [runRequest_validate hp]
    exact (runValidate_report hreliable hthere).1 herrors
  | valid hp hthere hnone =>
    rw [runRequest_validate hp]
    exact (runValidate_report hreliable hthere).2 hnone
  | rules =>
    refine ending_printing (fun b hb => hreliable.draws b ?_) 0
    exact isMarked_of_mem_rulesBlocks
      (fun rule hrule => isPlain_ruleName (List.mem_map_of_mem hrule)) b hb
  | checked hfolder hwork hlevel =>
    have hcheck : (runRequest host settings env fs .check).1 = runCheck host settings fs := rfl
    rw [hcheck, runCheck_ready hfolder]
    exact ending_printing ((draws_checkBlocks_iff hreliable _ _).mpr ⟨hwork, hlevel⟩) 0
  | unready hp hno hwork hlevel =>
    have hcheck : (runRequest host settings env fs .check).1 = runCheck host settings fs := rfl
    rw [hcheck, runCheck_unready hp hno]
    have hdraws : ∀ q ∈ settings.workFolder, host.renderer.Draws (workBlock q) := by
      simpa [hp] using hwork
    exact ending_printing ((draws_checkBlocks_iff hreliable _ _).mpr ⟨hdraws, hlevel⟩) 2

/-- A path that cannot be used breaks down what is asked about it. -/
lemma breakdown_of_unusable (hr : r.path? = some path) (h : Unusable host.access env fs path) :
    ∃ b, (runRequest host settings env fs r).1.ending = .breakdown b := by
  cases hp : env.path? path with
  | none =>
    obtain ⟨f, hf⟩ := Environment.path?_eq_none_iff.mp hp
    cases r with
    | lint _ rules asJson =>
      obtain rfl := Option.some.inj hr
      exact ⟨.path f, by unfold runRequest; simp only [hf, Result.broken]⟩
    | validate _ strict asJson =>
      obtain rfl := Option.some.inj hr
      exact ⟨.path f, by unfold runRequest; simp only [hf, Result.broken]⟩
    | rules => cases hr
    | check => cases hr
  | some p =>
    cases r with
    | lint _ rules asJson =>
      obtain rfl := Option.some.inj hr
      obtain ⟨f, hf⟩ := h.guard_eq_error hp (!·.isFolder)
      rw [runRequest_lint hp, runLint, FileSystem.isFile?, hf]
      exact ⟨_, rfl⟩
    | validate _ strict asJson =>
      obtain rfl := Option.some.inj hr
      obtain ⟨f, hf⟩ := h.guard_eq_error hp fun _ => true
      rw [runRequest_validate hp, runValidate, FileSystem.exists?, hf]
      exact ⟨_, rfl⟩
    | rules => cases hr
    | check => cases hr

/-- An obstacle keeps a request from ending with a code. -/
theorem breakdown_of_obstacle (hreliable : host.renderer.Reliable)
    (h : RequestObstacle host settings env fs r) :
    ∃ b, (runRequest host settings env fs r).1.ending = .breakdown b := by
  cases h with
  | path hr hpath => exact breakdown_of_unusable hr hpath
  | frontmatter hp hread htext hinner hf =>
    rw [runRequest_lint hp,
      runLint_frontmatter hread htext (lint_eq_error_iff.mpr ⟨_, hinner, hf⟩)]
    exact ⟨_, rfl⟩
  | missingQuiz hp habsent hdraw =>
    rw [runRequest_lint hp, runLint_missing habsent]
    exact breakdown_complaint hdraw
  | unread hp hthere hwhy hdraw =>
    rw [runRequest_lint hp, runLint_unread hthere hwhy]
    exact breakdown_complaint hdraw
  | missingPackage hp habsent hdraw =>
    rw [runRequest_validate hp, runValidate, habsent]
    exact breakdown_complaint hdraw
  | hidden hp hlook => exact ⟨_, congrArg Result.ending (runCheck_hidden hp hlook)⟩
  | folder hp hdraw =>
    exact breakdown_runCheck fun hasFolder hdraws =>
      hdraw (((draws_checkBlocks_iff hreliable _ _).mp hdraws).1 _ hp)
  | level hdraw =>
    exact breakdown_runCheck fun hasFolder hdraws =>
      hdraw ((draws_checkBlocks_iff hreliable _ _).mp hdraws).2

lemma lint_answered_or_obstacle (hp : env.path? path = some p) :
    (∃ n, Answered host settings env fs (.lint path rules asJson) n) ∨
      RequestObstacle host settings env fs (.lint path rules asJson) := by
  cases hfile : host.access.guard p (fs.isFile? p) with
  | error f => exact .inr (.path rfl (.of_guard hp hfile))
  | ok there =>
    cases there with
    | false =>
      by_cases hdraw : host.renderer.Draws (missingBlock p)
      · exact .inl ⟨2, .missingQuiz hp hfile hdraw⟩
      · exact .inr (.missingQuiz hp hfile hdraw)
    | true =>
      obtain ⟨why, hwhy⟩ | ⟨hread, text, htext⟩ := unread_or_readText hfile
      · by_cases hdraw : host.renderer.Draws (unreadBlock p why)
        · exact .inl ⟨2, .unread hp hfile hwhy hdraw⟩
        · exact .inr (.unread hp hfile hwhy hdraw)
      · cases hlint : Lint.lint host.loader text rules (some settings.contextWidth) with
        | error f =>
          obtain ⟨inner, hinner, hf⟩ := lint_eq_error_iff.mp hlint
          exact .inr (.frontmatter hp hread htext hinner hf)
        | ok ds =>
          by_cases hnone : ∀ d ∈ ds, d.severity ≠ .error
          · exact .inl ⟨0, .clean hp hread htext hlint hnone⟩
          · refine .inl ⟨1, .faulty hp hread htext hlint ?_⟩
            simpa using hnone

lemma validate_answered_or_obstacle (hp : env.path? path = some p) :
    (∃ n, Answered host settings env fs (.validate path strict asJson) n) ∨
      RequestObstacle host settings env fs (.validate path strict asJson) := by
  cases hthere : host.access.guard p (fs.exists? p) with
  | error f => exact .inr (.path rfl (.of_guard hp hthere))
  | ok there =>
    cases there with
    | false =>
      by_cases hdraw : host.renderer.Draws (missingBlock p)
      · exact .inl ⟨2, .missingPackage hp hthere hdraw⟩
      · exact .inr (.missingPackage hp hthere hdraw)
    | true =>
      by_cases hnone : (packageReport host settings fs p strict).errors = []
      · exact .inl ⟨0, .valid hp hthere hnone⟩
      · exact .inl ⟨1, .invalid hp hthere hnone⟩

lemma check_answered_or_obstacle
    (hwork : ∀ p ∈ settings.workFolder, fs.lookup p ≠ .error .nameTooLong) :
    (∃ n, Answered host settings env fs .check n) ∨
      RequestObstacle host settings env fs .check := by
  by_cases hlevel : host.renderer.Draws (levelBlock settings)
  · cases hset : settings.workFolder with
    | none => exact .inl ⟨0, .checked (by simp [hset]) (by simp [hset]) hlevel⟩
    | some p =>
      by_cases hdraw : host.renderer.Draws (workBlock p)
      · cases hlook : host.access.look p with
        | some message => exact .inr (.hidden hset hlook)
        | none =>
          cases hfolder : fs.isFolder? p with
          | error e => exact absurd (FileSystem.test_eq_error_iff.mp hfolder).1 (hwork p hset)
          | ok there =>
            have hguard : host.access.guard p (fs.isFolder? p) = .ok there :=
              Access.guard_eq_ok_iff.mpr ⟨hlook, hfolder⟩
            cases there with
            | false => exact .inl ⟨2, .unready hset hguard hdraw hlevel⟩
            | true => exact .inl ⟨0, .checked (by simpa [hset] using hguard)
                (by simpa [hset] using hdraw) hlevel⟩
      · exact .inr (.folder hset hdraw)
  · exact .inr (.level hlevel)

/-- A request is answered unless an obstacle keeps it from being. -/
theorem answered_or_obstacle (hwork : ∀ p ∈ settings.workFolder, fs.lookup p ≠ .error .nameTooLong)
    (r : Request) :
    (∃ n, Answered host settings env fs r n) ∨ RequestObstacle host settings env fs r := by
  cases r with
  | lint path rules asJson =>
    cases hp : env.path? path with
    | none => exact .inr (.path rfl (.home hp))
    | some p => exact lint_answered_or_obstacle hp
  | validate path strict asJson =>
    cases hp : env.path? path with
    | none => exact .inr (.path rfl (.home hp))
    | some p => exact validate_answered_or_obstacle hp
  | rules => exact .inl ⟨0, .rules⟩
  | check => exact check_answered_or_obstacle hwork

end Requests

/-! ### Runs -/

/-- What keeps a run from ending with a code. -/
inductive Obstacle (host : Host) (env : Environment) (fs : FileSystem) (i : Invocation) : Prop
  | settings {f : PathFault} (h : SettingsObstacle host.access env fs f) : Obstacle host env fs i
  | logLevel {settings : Settings} {after : FileSystem}
      (hload : Settings.load host.access env fs = .ok (settings, after))
      (hverbose : i.isVerbose = true) (hlevel : settings.logLevel ∉ logLevels) :
      Obstacle host env fs i
  | request {settings : Settings} {after : FileSystem}
      (hload : Settings.load host.access env fs = .ok (settings, after))
      (h : RequestObstacle host settings env after i.request) : Obstacle host env fs i
  /-- A piece of what is printed has a character that the encoding of the output lacks. -/
  | encoding {piece : String} (hpiece : piece ∈ (runInvocation host i env fs).1.pieces)
      (h : host.encoding.takes piece = false) : Obstacle host env fs i

section Runs

variable {host : Host} {args : List String} {env : Environment} {fs after : FileSystem}
  {settings : Settings} {i : Invocation} {path content : String} {selection : Lint.Selection}

lemma runInvocation_of_load (hload : Settings.load host.access env fs = .ok (settings, after)) :
    runInvocation host i env fs =
      if i.isVerbose && !logLevels.contains settings.logLevel then
        (.broken (.logLevel settings.logLevel), after)
      else runRequest host settings env after i.request := by
  rw [runInvocation, hload]

lemma run_of_invocation (hi : readInvocation args = .ok i) :
    (run host args env fs).1 = (runInvocation host i env fs).1.written host.encoding := by
  rw [run, hi]

/-- A command line that is refused ends the program, if what it is told can be written. -/
lemma run_refused {r : Refusal} (h : readInvocation args = .error r) :
    ((∃ piece ∈ (refusalResult env r).pieces, host.encoding.takes piece = false) ↔
      ∃ b, (run host args env fs).1.ending = .breakdown b) ∧
    ((∀ piece ∈ (refusalResult env r).pieces, host.encoding.takes piece = true) →
      (run host args env fs).1.ending = .exit 0 ∨ (run host args env fs).1.ending = .exit 2) := by
  have hexit : (refusalResult env r).ending = .exit 0 ∨ (refusalResult env r).ending = .exit 2 := by
    unfold refusalResult
    dsimp only
    split
    · exact .inl rfl
    · exact .inl rfl
    · exact .inr rfl
  have hrun : (run host args env fs).1 = (refusalResult env r).written host.encoding := by
    rw [run, h]
  have htaken (htakes : ∀ piece ∈ (refusalResult env r).pieces, host.encoding.takes piece = true) :
      (run host args env fs).1.ending = .exit 0 ∨ (run host args env fs).1.ending = .exit 2 := by
    rwa [hrun, ending_written htakes]
  refine ⟨⟨fun ⟨piece, hpiece, hno⟩ => hrun ▸ breakdown_written hpiece hno, fun ⟨b, hb⟩ => ?_⟩,
    htaken⟩
  by_contra hnone
  rcases htaken fun piece hpiece => by simpa using fun hno => hnone ⟨piece, hpiece, hno⟩
    with hzero | htwo
  · cases hb.symm.trans hzero
  · cases hb.symm.trans htwo

lemma breakdown_of_run_obstacle (hreliable : host.renderer.Reliable)
    (hi : readInvocation args = .ok i) (h : Obstacle host env fs i) :
    ∃ b, (run host args env fs).1.ending = .breakdown b := by
  rw [run_of_invocation hi]
  cases h with
  | @settings f h =>
    have hbroken : (runInvocation host i env fs).1.ending = .breakdown (.path f) := by
      rw [runInvocation, Settings.load_eq_error_iff.mpr h]
      rfl
    exact breakdown_of_breakdown hbroken _
  | @logLevel settings after hload hverbose hlevel =>
    have hbroken : (runInvocation host i env fs).1.ending =
        .breakdown (.logLevel settings.logLevel) := by
      rw [runInvocation_of_load hload, if_pos (by simp [hverbose, hlevel])]
      rfl
    exact breakdown_of_breakdown hbroken _
  | request hload h =>
    obtain ⟨b, hb⟩ : ∃ b, (runInvocation host i env fs).1.ending = .breakdown b := by
      rw [runInvocation_of_load hload]
      split
      · exact ⟨_, rfl⟩
      · exact breakdown_of_obstacle hreliable h
    exact breakdown_of_breakdown hb _
  | encoding hpiece h => exact breakdown_written hpiece h

/-- Without an obstacle the code is the one that the request is answered with, and no other. -/
lemma answered_of_no_obstacle (hreliable : host.renderer.Reliable)
    (hi : readInvocation args = .ok i) (h : ¬Obstacle host env fs i) :
    ∃ settings after n, Settings.load host.access env fs = .ok (settings, after) ∧
      (run host args env fs).1.ending = .code n ∧
      ∀ m, Answered host settings env after i.request m ↔ m = n := by
  cases hload : Settings.load host.access env fs with
  | error f => exact absurd (.settings (Settings.load_eq_error_iff.mp hload)) h
  | ok loaded =>
    obtain ⟨settings, after⟩ := loaded
    have hlevel : ¬(i.isVerbose && !logLevels.contains settings.logLevel) = true := by
      intro hbad
      obtain ⟨hverbose, hno⟩ := Bool.and_eq_true_iff.mp hbad
      exact h (.logLevel hload hverbose (by simpa using hno))
    have htakes : ∀ piece ∈ (runInvocation host i env fs).1.pieces,
        host.encoding.takes piece = true := by
      intro piece hpiece
      by_contra hno
      exact h (.encoding hpiece (Bool.eq_false_iff.mpr hno))
    have hrun : ∀ m, Answered host settings env after i.request m →
        (run host args env fs).1.ending = .code m := by
      intro m hm
      rw [run_of_invocation hi, ending_written htakes, runInvocation_of_load hload, if_neg hlevel]
      exact ending_of_answered hreliable hm
    have hcases : (∃ n, Answered host settings env after i.request n) ∨
        RequestObstacle host settings env after i.request :=
      answered_or_obstacle (Settings.lookup_of_load hload) i.request
    obtain ⟨n, hn⟩ | hobstacle := hcases
    · refine ⟨settings, after, n, rfl, hrun n hn, fun m => ⟨fun hm => ?_, fun hm => hm ▸ hn⟩⟩
      exact Ending.code.inj ((hrun m hm).symm.trans (hrun n hn))
    · exact absurd (.request hload hobstacle) h

/-- A call to lint a file is answered if its path can be looked at. -/
lemma lintQuiz_error_iff : (∃ f, Tool.lintQuiz host settings env fs path selection = .error f) ↔
    Unusable host.access env fs path := by
  cases hp : env.path? path with
  | none =>
    obtain ⟨f, hf⟩ := Environment.path?_eq_none_iff.mp hp
    have herror : Tool.lintQuiz host settings env fs path selection = .error f := by
      rw [Tool.lintQuiz, hf]
      rfl
    exact iff_of_true ⟨_, herror⟩ (.home hp)
  | some p =>
    unfold Tool.lintQuiz
    rw [Environment.expandHome_eq_ok hp]
    cases hthere : host.access.guard p (fs.exists? p) with
    | error f =>
      refine iff_of_true ⟨f, ?_⟩ (.of_guard hp hthere)
      simp [bind, Except.bind, hthere]
    | ok there =>
      have husable : ¬Unusable host.access env fs path := by
        intro hpath
        obtain ⟨f, hf⟩ := hpath.guard_eq_error hp fun _ => true
        cases hthere.symm.trans hf
      refine iff_of_false ?_ husable
      rintro ⟨f, hf⟩
      simp only [bind, Except.bind, hthere, pure, Except.pure] at hf
      split at hf
      · cases hf
      · split at hf <;> cases hf

/-- A call to lint a text is always answered. -/
lemma lintQuizContent_cases (host : Host) (settings : Settings) (content : String)
    (selection : Lint.Selection) :
    (∃ ds, Lint.lint host.loader content selection (some settings.contextWidth) = .ok ds ∧
      Tool.lintQuizContent host settings content selection =
        .ok ((LintReport.start "<content>").addAll ds)) ∨
    ∃ f, (∃ inner ∈ (Quiz.cut content.toList).inner, Quiz.Obstacle host.loader inner f) ∧
      Tool.lintQuizContent host settings content selection =
        .error (.source (.frontmatter f)) := by
  unfold Tool.lintQuizContent Lint.reportOn
  cases hlint : Lint.lint host.loader content selection (some settings.contextWidth) with
  | ok ds => exact .inl ⟨ds, rfl, rfl⟩
  | error f => exact .inr ⟨f, lint_eq_error_iff.mp hlint, rfl⟩

lemma validatePackage_isValid_iff (host : Host) (settings : Settings) (fs : FileSystem)
    (path : String) (strict : Option Bool) :
    (Tool.validatePackage host settings fs path strict).1.isValid = true ↔
      (Tool.validatePackage host settings fs path strict).1.errors = [] := by
  have hreport : (Tool.validatePackage host settings fs path strict).1 =
      packageReport host settings fs (Path.ofString path) strict := rfl
  rw [hreport, packageReport_isValid_iff]

/-- No files but a folder for temporary use. -/
def bareFiles : FileSystem := ⟨.folder [("tmp", .folder [])], [], ⟨1, ["tmp"]⟩⟩

end Runs

end QuizPreflight.Command
