import QuizPreflight.Proofs.Package.Agreement
import QuizPreflight.Proofs.Package.Restoration

/-!
# What a validation looks into

A validation looks into one package, the folder itself or what an archive leaves in the working
area, or it ends without looking into any. Only the checks on a package depend on strictness.
-/
namespace QuizPreflight.Package

/-- The package that the validation of a path looks into. -/
inductive Inspects (settings : Settings) (fs : FileSystem) (p : Path) : Site → Prop
  | folder {working : FileSystem} (present : fs.exists? p = .ok true)
      (made : fs.makeFolder (areaOf settings fs) = .ok working)
      (folder : working.isFolder? p = .ok true) : Inspects settings fs p ⟨working, p⟩
  | archive {working files : FileSystem} (present : fs.exists? p = .ok true)
      (made : fs.makeFolder (areaOf settings fs) = .ok working)
      (file : working.isFile? p = .ok true) (named : isArchiveName p = true)
      (extracted : Archive.extract working p (areaOf settings fs) = ⟨files, none⟩) :
      Inspects settings fs p ⟨files, areaOf settings fs⟩

variable {settings : Settings} {fs : FileSystem} {p : Path} {site : Site}

lemma lookup_of_test {holds : Entry → Bool} (h : fs.test holds p = .ok true) :
    ∃ e, fs.lookup p = .ok e ∧ holds e = true := by
  unfold FileSystem.test at h
  split at h
  · next e he => exact ⟨e, he, Except.ok.inj h⟩
  · cases h
  · simp at h

lemma isFile?_of_isFolder? (h : fs.isFolder? p = .ok true) : fs.isFile? p = .ok false := by
  obtain ⟨e, he, hfolder⟩ := lookup_of_test h
  rw [FileSystem.isFile?, FileSystem.test_of_lookup he, hfolder, Bool.not_true]

lemma isFolder?_of_isFile? (h : fs.isFile? p = .ok true) : fs.isFolder? p = .ok false := by
  obtain ⟨e, he, hfile⟩ := lookup_of_test h
  rw [Bool.not_eq_true'] at hfile
  rw [FileSystem.isFolder?, FileSystem.test_of_lookup he, hfile]

theorem run_of_inspects (h : Inspects settings fs p site) (strict : Bool) :
    (run settings strict fs p).1 = .ofCheck (checkSite site strict settings.manifestName) := by
  cases h with
  | folder present made folder =>
    rw [run_of_makeFolder present made]
    simp [inspect, isFile?_of_isFolder? folder, folder]
  | archive present made file named extracted =>
    rw [run_of_makeFolder present made]
    simp [inspect, file, isFolder?_of_isFile? file, named, extracted]

/-- A validation that looks into no package ends in the same way whatever the strictness. -/
theorem run_of_not_inspects (h : ∀ site, ¬ Inspects settings fs p site) :
    (∃ r, ∀ strict, (run settings strict fs p).1 = .rejected r) ∨
      ∃ i, ∀ strict, (run settings strict fs p).1 = .interrupted i := by
  rcases hex : fs.exists? p with e | _ | _
  · exact .inr ⟨.file e, fun strict => by rw [run, hex]⟩
  · exact .inl ⟨.missing p, fun strict => by rw [run, hex]⟩
  rcases hm : fs.makeFolder (areaOf settings fs) with e | working
  · exact .inr ⟨.file e, fun strict => by simp [run, hex, hm]⟩
  simp only [run_of_makeFolder hex hm, inspect]
  rcases hfile : working.isFile? p with e | isFile
  · exact .inr ⟨.file e, fun strict => rfl⟩
  rcases hfolder : working.isFolder? p with e | isFolder
  · exact .inr ⟨.file e, fun strict => rfl⟩
  dsimp only
  by_cases hnamed : (isFile && isArchiveName p) = true
  · obtain ⟨rfl, hname⟩ := Bool.and_eq_true_iff.mp hnamed
    simp only [hname, Bool.and_self, if_true]
    rcases hx : Archive.extract working p (areaOf settings fs) with ⟨files, _ | f⟩
    · exact absurd (.archive hex hm hfile hname hx) (h _)
    · by_cases hexpected : f.isExpected = true
      · exact .inl ⟨.notExtracted, fun strict => by simp [hexpected]⟩
      · exact .inr ⟨.archive f, fun strict => by simp [hexpected]⟩
  · simp only [hnamed, if_false, Bool.false_eq_true]
    cases isFolder with
    | true => exact absurd (.folder hex hm hfolder) (h _)
    | false => exact .inl ⟨.notPackage, fun strict => rfl⟩

/-! ### The document or the manifest that decides -/

/-- The manifest of a package under its configured name. -/
def Site.manifestPath (site : Site) (manifestName : String) : Path :=
  (Path.ofString manifestName).within site.root

def missingManifest (manifestName : String) : String :=
  s!"{manifestName} not found in root (QTI 2.1) " ++ "and no valid QTI 1.2 XML file found"

section Dispatch

variable {root : Markup.Element} {e : FileError} {name : String}

lemma checkSite_of_legacy (h : site.legacyDocument? = .ok (some root)) (strict : Bool)
    (name : String) : checkSite site strict name = Check.report (Legacy.findings strict root) := by
  rw [checkSite, h, Check.look_ok_bind]

lemma checkSite_of_unlisted (h : site.legacyDocument? = .error e) (strict : Bool) (name : String) :
    checkSite site strict name = ⟨[], .error e⟩ := by
  rw [checkSite, h, Check.look_error_bind]

lemma checkSite_of_manifest (h : site.legacyDocument? = .ok none)
    (hm : site.files.exists? (site.manifestPath name) = .ok true) (strict : Bool) :
    checkSite site strict name = Manifest.check site (site.manifestPath name) := by
  rw [Site.manifestPath] at hm ⊢
  rw [checkSite, h, Check.look_ok_bind]
  dsimp only
  rw [hm, Check.look_ok_bind, if_pos rfl]

lemma checkSite_of_no_manifest (h : site.legacyDocument? = .ok none)
    (hm : site.files.exists? (site.manifestPath name) = .ok false) (strict : Bool) :
    checkSite site strict name = Check.report [.error (missingManifest name)] := by
  rw [Site.manifestPath] at hm
  rw [checkSite, h, Check.look_ok_bind]
  dsimp only
  rw [hm, Check.look_ok_bind, if_neg Bool.false_ne_true, missingManifest]

lemma checkSite_of_unreadable (h : site.legacyDocument? = .ok none)
    (hm : site.files.exists? (site.manifestPath name) = .error e) (strict : Bool) :
    checkSite site strict name = ⟨[], .error e⟩ := by
  rw [Site.manifestPath] at hm
  rw [checkSite, h, Check.look_ok_bind]
  dsimp only
  rw [hm, Check.look_error_bind]

end Dispatch

lemma Validator.validate_report (v : Validator) (fs : FileSystem) (p : Path)
    (options : Option Options) :
    (v.validate fs p options).1 = (run v.settings (v.isStrict options) fs p).1.report := by
  rw [Validator.validate]

end QuizPreflight.Package
