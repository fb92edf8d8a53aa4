import Mathlib.Data.List.Basic
import QuizPreflight.Proofs.Package.Inspection

/-!
# The verdict of a report

A report is valid exactly if it has no errors, however the validation ended. A fatal error says
so at once and any other when the report is finished; no step takes a verdict or a finding back.
-/
namespace QuizPreflight.Package

/-- What may be done to a report. -/
inductive Report.Step where
  | error (message : String)
  | warning (message : String)
  | fail (message : String)
  | finish
  deriving DecidableEq, Repr

namespace Report

def perform (r : Report) : Step → Report
  | .error message => r.error message
  | .warning message => r.warning message
  | .fail message => r.fail message
  | .finish => r.finish

def performAll (r : Report) (steps : List Step) : Report := steps.foldl perform r

/-- A report without errors has not been found invalid. -/
def Sound (r : Report) : Prop := r.errors = [] → r.isValid = true

lemma performAll_append (r : Report) (steps steps' : List Step) :
    r.performAll (steps ++ steps') = (r.performAll steps).performAll steps' := by
  simp [performAll]

lemma perform_isValid_of_not {r : Report} (h : r.isValid = false) (s : Step) :
    (r.perform s).isValid = false := by
  cases s <;> simp [perform, Report.error, Report.warning, fail, finish, h]

lemma errors_prefix_perform (r : Report) (s : Step) : r.errors <+: (r.perform s).errors := by
  cases s <;> simp [perform, Report.error, Report.warning, fail, finish]

lemma warnings_prefix_perform (r : Report) (s : Step) : r.warnings <+: (r.perform s).warnings := by
  cases s <;> simp [perform, Report.error, Report.warning, fail, finish]

lemma Sound.perform {r : Report} (h : r.Sound) (s : Step) : (r.perform s).Sound := by
  intro he
  have hr : r.errors = [] := List.prefix_nil.mp (he ▸ errors_prefix_perform r s)
  cases s with
  | error message => exact h hr
  | warning message => exact h hr
  | fail message => simp [Report.perform, fail, Report.error] at he
  | finish => simp [Report.perform, finish, h hr, hr]

theorem performAll_isValid_of_not {r : Report} (h : r.isValid = false) (steps : List Step) :
    (r.performAll steps).isValid = false := by
  induction steps generalizing r with
  | nil => exact h
  | cons s steps ih => exact ih (perform_isValid_of_not h s)

theorem errors_prefix_performAll (r : Report) (steps : List Step) :
    r.errors <+: (r.performAll steps).errors := by
  induction steps generalizing r with
  | nil => exact List.prefix_rfl
  | cons s steps ih => exact (errors_prefix_perform r s).trans (ih (r.perform s))

theorem warnings_prefix_performAll (r : Report) (steps : List Step) :
    r.warnings <+: (r.performAll steps).warnings := by
  induction steps generalizing r with
  | nil => exact List.prefix_rfl
  | cons s steps ih => exact (warnings_prefix_perform r s).trans (ih (r.perform s))

theorem Sound.performAll {r : Report} (h : r.Sound) (steps : List Step) :
    (r.performAll steps).Sound := by
  induction steps generalizing r with
  | nil => exact h
  | cons s steps ih => exact ih (h.perform s)

lemma sound_empty : empty.Sound := fun _ => rfl

theorem Sound.finish_isValid {r : Report} (h : r.Sound) :
    r.finish.isValid = true ↔ r.finish.errors = [] := by
  rw [finish_errors]
  simp only [finish, Bool.and_eq_true, List.isEmpty_iff]
  exact ⟨fun hv => hv.2, fun he => ⟨h he, he⟩⟩

end Report

namespace Registry

lemma take_isValid (g : Registry) (f : Finding) : (g.take f).report.isValid = g.report.isValid := by
  cases f with
  | identifier value source =>
    simp only [take, register]
    split
    · rfl
    · split
      · rfl
      · split <;> rfl
  | _ => rfl

/-- Findings leave the verdict to the end. -/
theorem takeAll_isValid (g : Registry) (fs : List Finding) :
    (g.takeAll fs).report.isValid = g.report.isValid := by
  induction fs generalizing g with
  | nil => rfl
  | cons f fs ih => exact (ih (g.take f)).trans (take_isValid g f)

end Registry

/-- Whatever was found and whatever put an end to it, the verdict agrees with the errors. -/
theorem Outcome.report_isValid_iff (o : Outcome) :
    o.report.isValid = true ↔ o.report.errors = [] := by
  cases o with
  | rejected r => simp [Outcome.report, Report.fail, Report.error]
  | checked findings interruption =>
    have hv : (Registry.empty.takeAll findings).report.isValid = true :=
      Registry.takeAll_isValid Registry.empty findings
    cases interruption with
    | none => exact Report.Sound.finish_isValid fun _ => hv
    | some i => exact Report.Sound.finish_isValid fun _ => hv

/-- Why the package at a path is not looked into: nothing is there, it is an archive that cannot
be extracted into the working area, or it is neither a folder nor a file with an archive's name. -/
inductive PathFailure (settings : Settings) (fs : FileSystem) (p : Path) : Rejection → Prop
  | missing (absent : fs.exists? p = .ok false) : PathFailure settings fs p (.missing p)
  | notExtracted {working : FileSystem} {f : Archive.ExtractFault}
      (present : fs.exists? p = .ok true)
      (made : fs.makeFolder (areaOf settings fs) = .ok working)
      (file : working.isFile? p = .ok true) (named : isArchiveName p = true)
      (fault : (Archive.extract working p (areaOf settings fs)).fault = some f)
      (expected : f.isExpected = true) : PathFailure settings fs p .notExtracted
  | notPackage {working : FileSystem} {isFile : Bool}
      (present : fs.exists? p = .ok true)
      (made : fs.makeFolder (areaOf settings fs) = .ok working)
      (file : working.isFile? p = .ok isFile) (named : (isFile && isArchiveName p) = false)
      (folder : working.isFolder? p = .ok false) : PathFailure settings fs p .notPackage

lemma run_of_pathFailure {settings : Settings} {fs : FileSystem} {p : Path} {r : Rejection}
    (h : PathFailure settings fs p r) (strict : Bool) :
    (run settings strict fs p).1 = .rejected r := by
  cases h with
  | missing absent => simp [run, absent]
  | @notExtracted working f present made file named fault expected =>
    have hfolder := isFolder?_of_isFile? file
    obtain ⟨files, hx⟩ : ∃ files, Archive.extract working p (areaOf settings fs) =
        ⟨files, some f⟩ := ⟨_, by rw [← fault]⟩
    simp [run, present, made, inspect, file, hfolder, named, hx, expected]
  | notPackage present made file named folder =>
    simp [run, present, made, inspect, file, named, folder]

/-- Every validation yields a report that is valid exactly if it has no errors. A package that is
not looked into yields one error and nothing else. No step on a report makes it valid again or
takes a finding back, and a report that starts empty tells the truth each time it is finished. -/
theorem validate_verdict (v : Validator) (fs : FileSystem) (p : Path) (options : Option Options) :
    ((v.validate fs p options).1.isValid = true ↔ (v.validate fs p options).1.errors = []) ∧
    (∀ o : Outcome, o.report.isValid = true ↔ o.report.errors = []) ∧
    (∀ r, PathFailure v.settings fs p r →
      (v.validate fs p options).1 = ⟨false, [r.message], [], Details.none⟩) ∧
    (∀ (r : Report) (steps : List Report.Step),
      (r.isValid = false → (r.performAll steps).isValid = false) ∧
      r.errors <+: (r.performAll steps).errors ∧ r.warnings <+: (r.performAll steps).warnings) ∧
    ∀ steps : List Report.Step,
      (Report.empty.performAll (steps ++ [.finish])).isValid = true ↔
        (Report.empty.performAll (steps ++ [.finish])).errors = [] := by
  refine ⟨Outcome.report_isValid_iff _, Outcome.report_isValid_iff, ?_, ?_, ?_⟩
  · intro r hr
    simp only [Validator.validate, run_of_pathFailure hr]
    rfl
  · intro r steps
    exact ⟨fun h => Report.performAll_isValid_of_not h steps, r.errors_prefix_performAll steps,
      r.warnings_prefix_performAll steps⟩
  · intro steps
    rw [Report.performAll_append]
    exact (Report.sound_empty.performAll steps).finish_isValid

/-- A file with an archive's name and nothing in it, beside the temporary folder. -/
def brokenFiles : FileSystem :=
  ⟨.folder [("a.zip", .file []), ("tmp", .folder [])], [], ⟨1, ["tmp"]⟩⟩

theorem validate_broken :
    PathFailure Settings.default brokenFiles ⟨0, ["a.zip"]⟩ .notExtracted ∧
      (Validator.validate ⟨Options.inherit, Settings.default⟩ brokenFiles ⟨0, ["a.zip"]⟩ none).1 =
        ⟨false, ["Failed to unzip file. Is it a valid zip archive?"], [], Details.none⟩ := by
  have hfault : (Archive.extract (brokenFiles.put ["tmp", "qti-validate-0"] (.folder []))
      ⟨0, ["a.zip"]⟩ (areaOf Settings.default brokenFiles)).fault =
      some (.archive .notArchive) := rfl
  have h : PathFailure Settings.default brokenFiles ⟨0, ["a.zip"]⟩ .notExtracted :=
    .notExtracted rfl rfl rfl rfl hfault rfl
  exact ⟨h, (validate_verdict ⟨Options.inherit, Settings.default⟩ brokenFiles ⟨0, ["a.zip"]⟩
    none).2.2.1 .notExtracted h⟩

end QuizPreflight.Package
