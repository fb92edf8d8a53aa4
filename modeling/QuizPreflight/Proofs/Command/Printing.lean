import QuizPreflight.Command.Run
import QuizPreflight.Proofs.Console.Reliability
import QuizPreflight.Proofs.Lint.Selection

/-!
# Reports that can be printed

Every text from outside is escaped before it goes into a report, so that a renderer that can be
relied on prints a report to its end whatever it says. Only messages about a path and the check of
the settings print texts as they are, which may be refused.
-/
namespace QuizPreflight.Command

open QuizPreflight.Console

variable {escape : String → String} {renderer : Renderer}

/-! ### Texts of the program -/

section Texts

lemma isDigit_of_mem_toString {n : Nat} {c : Char} (h : c ∈ (toString n).toList) :
    c.isDigit = true := by
  rw [Nat.toString_eq_ofList_toDigits, String.toList_ofList] at h
  exact Nat.isDigit_of_mem_toDigits (by decide) (by decide) h

lemma isPlain_nat (n : Nat) : IsPlain (toString n) := by
  intro c hc
  have hdigit := isDigit_of_mem_toString hc
  refine ⟨?_, ?_, ?_⟩ <;> rintro rfl <;> exact absurd hdigit (by decide)

lemma isPlain_int (n : Int) : IsPlain (toString n) := by
  cases n with
  | ofNat n => exact isPlain_nat n
  | negSucc n =>
    have htext : toString (Int.negSucc n) = "-" ++ toString (n + 1) := rfl
    rw [htext]
    exact IsPlain.append (by decide) (isPlain_nat (n + 1))

lemma isPlain_truth (b : Bool) : IsPlain (truth b) := by cases b <;> decide

lemma isPlain_ruleName {name : String} (h : name ∈ Lint.availableRules.map Prod.fst) :
    IsPlain name := by
  have hall : ((Lint.availableRules.map Prod.fst).all fun name =>
      name.toList.all isPlainChar) = true := by decide
  exact isPlain_iff.mpr (List.all_eq_true.mp hall name h)

lemma isMarked_severityCell (s : Severity) : IsMarked escape (severityCell s) := by
  cases s with
  | warning => exact (IsSegment.plain (by decide)).isMarked_styled
  | error => exact (IsSegment.plain (by decide)).isMarked_styled

lemma isMarked_summary (errors warnings : Nat) : (summary errors warnings).IsMarked escape := by
  have htext : summary errors warnings =
      .tagged (toString errors ++ " errors, " ++ toString warnings ++ " warnings") := rfl
  rw [htext]
  exact ((((isPlain_nat errors).append (by decide)).append (isPlain_nat warnings)).append
    (by decide)).isMarked

end Texts

/-! ### Reports -/

section Reports

/-- What a message is about is escaped inside its style. -/
lemma isMarked_messageCell (d : Diagnostic) : IsMarked escape (messageCell escape d) := by
  unfold messageCell
  split
  · exact .segment (isSegment_escape _)
  · exact .segment (isSegment_escape _)
  · next context _ _ =>
    have hmessage : IsSegment escape ("" ++ escape d.message ++ "\n") :=
      .escaped d.message isPlain_empty (by decide)
    rw [String.empty_append] at hmessage
    exact hmessage.styled_end (by simp) (isSegment_escape context)

lemma isMarked_of_mem_diagnosticRow {d : Diagnostic} (hrule : IsPlain d.rule) :
    ∀ cell ∈ diagnosticRow escape d, IsMarked escape cell := by
  have hline : IsPlain ((d.line.map toString).getD "-") := by
    cases d.line with
    | none => decide
    | some n => exact isPlain_int n
  simp only [diagnosticRow, List.forall_mem_cons]
  exact ⟨hline.isMarked, isMarked_severityCell d.severity, hrule.isMarked, isMarked_messageCell d,
    by simp⟩

/-- A lint report is marked as it should be whatever its messages and its source are. -/
theorem isMarked_of_mem_lintReportBlocks {r : LintReport}
    (hrules : ∀ d ∈ r.diagnostics, IsPlain d.rule) :
    ∀ b ∈ lintReportBlocks escape r, b.IsMarked escape := by
  unfold lintReportBlocks
  split
  · have hsource : IsSegment escape (" " ++ escape r.sourcePath ++ ": no issues") :=
      .escaped r.sourcePath (by decide) (by decide)
    have hcheck : IsSegment escape "✓" := .plain (by decide)
    exact List.forall_mem_singleton.mpr (hcheck.styled_start (.segment hsource))
  · simp only [List.forall_mem_cons]
    refine ⟨isMarked_table ?_ ?_ ?_, isMarked_summary _ _, by simp⟩
    · exact fun title htitle => Option.mem_some.mp htitle ▸ .segment (isSegment_escape _)
    · simp only [List.forall_mem_cons]
      exact ⟨by decide, by decide, by decide, by decide, by simp⟩
    · exact List.forall_mem_map.mpr fun d hd => isMarked_of_mem_diagnosticRow (hrules d hd)

lemma isMarked_verdict (path : String) (r : Package.Report) :
    IsMarked escape s!"{escape path}: {verdict r}" := by
  have hpath : IsSegment escape ("" ++ escape path ++ ": ") :=
    .escaped path isPlain_empty (by decide)
  rw [String.empty_append] at hpath
  have hlast : (escape path ++ ": ").toList.getLast? ≠ some '\\' := by
    have hblank : ": ".toList.getLast? = some ' ' := by decide
    rw [String.toList_append, List.getLast?_append, hblank, Option.some_or]
    decide
  unfold verdict
  split
  · exact hpath.styled_end hlast (.plain (by decide))
  · exact hpath.styled_end hlast (.plain (by decide))

lemma isPlain_detailsLine (d : Package.Details) : IsPlain (detailsLine d) := by
  have htext : detailsLine d = "  manifest: " ++ truth d.manifestFound ++ "  resources: " ++
      toString d.resourceCount ++ "  " ++ ("items: " ++ toString d.itemCount ++ "  test: " ++
        truth d.testFound) := rfl
  have hblank : IsPlain "  " := by decide
  have hwords : IsPlain "  manifest: " ∧ IsPlain "  resources: " ∧ IsPlain "items: " ∧
      IsPlain "  test: " := by decide
  simp only [htext, isPlain_append]
  simp only [hwords, hblank, isPlain_truth, isPlain_nat, and_self]

lemma isMarked_of_mem_messageRows (s : Severity) (messages : List String) :
    ∀ row ∈ messageRows escape s messages, ∀ cell ∈ row, IsMarked escape cell := by
  refine List.forall_mem_map.mpr fun m _ => ?_
  simp only [List.forall_mem_cons]
  exact ⟨isMarked_severityCell s, .segment (isSegment_escape m), by simp⟩

/-- A report on a package is marked as it should be whatever its entries and the path are. -/
theorem isMarked_of_mem_packageReportBlocks (path : String) (r : Package.Report) :
    ∀ b ∈ packageReportBlocks escape path r, b.IsMarked escape := by
  simp only [packageReportBlocks, List.forall_mem_append, List.forall_mem_cons]
  refine ⟨⟨⟨isMarked_verdict path r, (isPlain_detailsLine _).isMarked, by simp⟩, ?_⟩,
    isMarked_summary _ _, by simp⟩
  split
  · simp
  · refine List.forall_mem_singleton.mpr (isMarked_table (by simp) ?_ ?_)
    · simp only [List.forall_mem_cons]
      exact ⟨by decide, by decide, by simp⟩
    · exact List.forall_mem_append.mpr ⟨isMarked_of_mem_messageRows _ _,
        isMarked_of_mem_messageRows _ _⟩

lemma isMarked_of_mem_rulesBlocks {rules : List (String × String)}
    (h : ∀ rule ∈ rules, IsPlain rule.1) : ∀ b ∈ rulesBlocks escape rules, b.IsMarked escape := by
  refine List.forall_mem_singleton.mpr (isMarked_table ?_ ?_ ?_)
  · exact fun title htitle => Option.mem_some.mp htitle ▸ IsPlain.isMarked (by decide)
  · simp only [List.forall_mem_cons]
    exact ⟨by decide, by decide, by simp⟩
  · refine List.forall_mem_map.mpr fun rule hrule => ?_
    simp only [List.forall_mem_cons]
    exact ⟨(h rule hrule).isMarked, .segment (isSegment_escape _), by simp⟩

end Reports

/-! ### Texts that are not escaped -/

section Unescaped

/-- The line that tells of the work folder. -/
def workBlock (p : Path) : Block := .tagged ("  Work directory: " ++ p.toString)

/-- The line that tells of the level of log messages. -/
def levelBlock (settings : Settings) : Block := .tagged s!"  Log level: {settings.logLevel}"

/-- What stands of the work folder is printed as it is, unless there is none. -/
lemma draws_work_iff (h : renderer.Reliable) (work : Option Path) :
    renderer.Draws (.tagged ("  Work directory: " ++
      (work.map Path.toString).getD "system temp")) ↔
        ∀ p ∈ work, renderer.Draws (workBlock p) := by
  cases work with
  | none => exact iff_of_true (h.draws_plain (by decide)) (by simp)
  | some p => simp [workBlock]

lemma draws_status (h : renderer.Reliable) (hasFolder : Bool) :
    renderer.Draws (.tagged
      (if hasFolder then "  Status: exists" else "  Status: " ++ styled .red "MISSING")) := by
  cases hasFolder with
  | true => exact h.draws_plain (by decide)
  | false =>
    have hstatus : IsSegment renderer.escape "  Status: " := .plain (by decide)
    exact h.draws _ (hstatus.styled_end (by decide) (.plain (by decide)))

lemma draws_toolLines (h : renderer.Reliable) :
    ∀ line ∈ toolNames.map ("  - " ++ ·), renderer.Draws (.tagged line) := by
  have hall : ((toolNames.map ("  - " ++ ·)).all fun line => line.toList.all isPlainChar) =
      true := by decide
  exact fun line hline => h.draws_plain (isPlain_iff.mpr (List.all_eq_true.mp hall line hline))

/-- The check prints the work folder and the level as they are. -/
theorem draws_checkBlocks_iff (h : renderer.Reliable) (settings : Settings) (hasFolder : Bool) :
    (∀ b ∈ checkBlocks settings hasFolder, renderer.Draws b) ↔
      (∀ p ∈ settings.workFolder, renderer.Draws (workBlock p)) ∧
        renderer.Draws (levelBlock settings) := by
  have hplain {s : String} (hs : IsPlain s) : renderer.Draws (.tagged s) := h.draws_plain hs
  have hfolder : ∀ line ∈ if settings.workFolder.isNone then [] else ["\nWork directory:",
      if hasFolder then "  Status: exists" else "  Status: " ++ styled .red "MISSING"],
      renderer.Draws (.tagged line) := by
    split
    · simp
    · exact List.forall_mem_cons.mpr ⟨hplain (by decide),
        List.forall_mem_singleton.mpr (draws_status h hasFolder)⟩
  have hstrict : renderer.Draws (.tagged ("  Strict by default: " ++ truth settings.strict)) :=
    hplain (IsPlain.append (by decide) (isPlain_truth _))
  have hwidth : renderer.Draws
      (.tagged ("  Context width: " ++ toString settings.contextWidth)) :=
    hplain (IsPlain.append (by decide) (isPlain_int _))
  have hrules : renderer.Draws
      (.tagged ("\nLint rules: " ++ toString Lint.availableRules.length)) :=
    hplain (IsPlain.append (by decide) (isPlain_nat _))
  have hverdict : renderer.Draws (.tagged (if hasFolder then "Ready!" else "Problems found")) := by
    cases hasFolder <;> exact hplain (by decide)
  rw [← draws_work_iff h, checkBlocks, List.forall_mem_map]
  simp only [List.forall_mem_append, List.forall_mem_cons]
  constructor
  · rintro ⟨⟨⟨⟨⟨-, -, -, -, hwork, -, hlevel, -⟩, -⟩, -⟩, -⟩, -⟩
    exact ⟨hwork, hlevel⟩
  · rintro ⟨hwork, hlevel⟩
    exact ⟨⟨⟨⟨⟨hplain (by decide), hplain (by decide), hplain (by decide), hstrict, hwork,
      hwidth, hlevel, by simp⟩, hfolder⟩, hrules, hplain (by decide), by simp⟩,
      draws_toolLines h⟩, hplain (by decide), hverdict, by simp⟩

/-- A complaint about what no brackets and backslashes stand in is drawn. -/
lemma draws_complaintBlock (h : renderer.Reliable) {message : String} (hmessage : IsPlain message) :
    renderer.Draws (complaintBlock message) := by
  have hword : IsSegment renderer.escape "Error:" := .plain (by decide)
  have hrest : IsPlain (" " ++ message) := IsPlain.append (by decide) hmessage
  have hmarked : IsMarked renderer.escape (styled .red "Error:" ++ (" " ++ message)) :=
    hword.styled_start hrest.isMarked
  rw [← String.append_assoc] at hmarked
  exact h.draws (complaintBlock message) hmarked

end Unescaped

/-! ### Endings -/

section Endings

variable {blocks : List Block} {message : String} {encoding : Encoding} {r : Result}

lemma ending_printing (h : ∀ b ∈ blocks, renderer.Draws b) (code : Nat) :
    (Result.printing renderer blocks code).ending = .code code := by
  unfold Result.printing
  dsimp only
  rw [Renderer.print_refusal_iff.mpr h]
  rfl

lemma breakdown_printing (h : ¬∀ b ∈ blocks, renderer.Draws b) (code : Nat) :
    ∃ b, (Result.printing renderer blocks code).ending = .breakdown b := by
  rw [← Renderer.print_refusal_iff] at h
  obtain ⟨m, hm⟩ := Option.ne_none_iff_exists'.mp h
  unfold Result.printing
  dsimp only
  rw [hm]
  exact ⟨_, rfl⟩

lemma ending_complaint (h : renderer.Draws (complaintBlock message)) :
    (Result.complaint renderer message).ending = .code exitUsage := by
  obtain ⟨text, htext⟩ := h
  rw [Result.complaint, htext]

lemma breakdown_complaint (h : ¬renderer.Draws (complaintBlock message)) :
    ∃ b, (Result.complaint renderer message).ending = .breakdown b := by
  cases hdraw : renderer.draw (complaintBlock message) with
  | ok text => exact absurd ⟨text, hdraw⟩ h
  | error m =>
    rw [Result.complaint, hdraw]
    exact ⟨_, rfl⟩

lemma ending_written (h : ∀ piece ∈ r.pieces, encoding.takes piece = true) :
    (r.written encoding).ending = r.ending := by
  have hfind : r.pieces.find? (!encoding.takes ·) = none :=
    List.find?_eq_none.mpr fun piece hpiece => by simp [h piece hpiece]
  unfold Result.written
  dsimp only
  rw [hfind]

/-- A piece with a character that the encoding lacks is not written. -/
lemma breakdown_written {piece : String} (hpiece : piece ∈ r.pieces)
    (h : encoding.takes piece = false) : ∃ b, (r.written encoding).ending = .breakdown b := by
  have hfind : (r.pieces.find? (!encoding.takes ·)).isSome = true :=
    List.find?_isSome.mpr ⟨piece, hpiece, by simp [h]⟩
  obtain ⟨first, hfirst⟩ := Option.isSome_iff_exists.mp hfind
  unfold Result.written
  dsimp only
  rw [hfirst]
  exact ⟨_, rfl⟩

/-- Nothing is written that would undo a breakdown. -/
lemma breakdown_of_breakdown {b : Breakdown} (h : r.ending = .breakdown b) (encoding : Encoding) :
    ∃ b, (r.written encoding).ending = .breakdown b := by
  unfold Result.written
  dsimp only
  split
  · exact ⟨b, h⟩
  · exact ⟨_, rfl⟩

end Endings

end QuizPreflight.Command
