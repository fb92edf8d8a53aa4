import QuizPreflight.Proofs.Package.Inspection
import QuizPreflight.Proofs.Package.Registration
import QuizPreflight.Proofs.Package.Verdict

/-!
# Strict checking adds findings

Strict checking finds what lenient checking finds, in the same order, and adds entries that begin
with a word of their own. It also makes an error of the warning that an item has no scoring. A
package with a manifest is checked alike in both ways.
-/
namespace QuizPreflight.Package

open Markup Text

/-- A finding that both ways of checking may make. -/
def Finding.Common : Finding → Prop
  | .error message => isStrictEntry message = false
  | .warning message => isStrictEntry message = false ∧ isUnscoredWarning message = false
  | _ => True

/-- A finding that only strict checking makes. -/
def Finding.Added : Finding → Prop
  | .error message => isStrictEntry message = true ∧ isUnscoredError message = false
  | .warning message => isStrictEntry message = true
  | _ => False

/-- The findings of lenient checking beside those of strict checking. -/
inductive Tightens : List Finding → List Finding → Prop
  | nil : Tightens [] []
  | common {f : Finding} {l s : List Finding} (hf : f.Common) (h : Tightens l s) :
      Tightens (f :: l) (f :: s)
  | added {f : Finding} {l s : List Finding} (hf : f.Added) (h : Tightens l s) :
      Tightens l (f :: s)
  | raised (id : String) {l s : List Finding} (h : Tightens l s) :
      Tightens (.warning (unscoredWarning id) :: l) (.error (unscoredError id) :: s)

/-- The report of lenient checking beside that of strict checking. -/
structure Tighter (lenient strict : Report) : Prop where
  details : strict.details = lenient.details
  errors : strict.errors.filter (!isStrictEntry ·) = lenient.errors
  warnings : strict.warnings.filter (!isStrictEntry ·) =
    lenient.warnings.filter (!isUnscoredWarning ·)
  raised : ∃ ids : List String,
    lenient.warnings.filter isUnscoredWarning = ids.map unscoredWarning ∧
      strict.errors.filter isUnscoredError = ids.map unscoredError

variable {l l' s s' fs : List Finding} {f : Finding} {r t : Report} {g g' : Registry}
  {message id : String}

lemma Finding.Plain.common (h : f.Plain) : f.Common := by
  cases f with
  | error message => exact h.1
  | warning message => exact h
  | _ => trivial

namespace Tightens

theorem append (h : Tightens l s) (h' : Tightens l' s') : Tightens (l ++ l') (s ++ s') := by
  induction h with
  | nil => exact h'
  | common hf _ ih => exact .common hf ih
  | added hf _ ih => exact .added hf ih
  | raised id _ ih => exact .raised id ih

lemma of_allPlain (h : AllPlain fs) : Tightens fs fs := by
  induction fs with
  | nil => exact .nil
  | cons f fs ih =>
    obtain ⟨hf, hfs⟩ := allPlain_cons.mp h
    exact .common hf.common (ih hfs)

lemma error (h : isStrictEntry message = false) : Tightens [.error message] [.error message] :=
  .common h .nil

lemma of_added (h : ∀ f ∈ fs, f.Added) : Tightens [] fs := by
  induction fs with
  | nil => exact .nil
  | cons f fs ih =>
    exact .added (h f List.mem_cons_self) (ih fun f hf => h f (List.mem_cons_of_mem _ hf))

end Tightens

/-! ### Taking the findings in -/

namespace Tighter

lemma error_common (h : Tighter r t) (hm : isStrictEntry message = false) :
    Tighter (r.error message) (t.error message) := by
  have hunscored : isUnscoredError message = false := by
    by_contra hne
    rw [Bool.not_eq_false] at hne
    simp [isStrictEntry_of_isUnscoredError hne] at hm
  obtain ⟨ids, hl, hs⟩ := h.raised
  exact ⟨h.details, by simp [Report.error, h.errors, hm], h.warnings, ids, hl,
    by simp [Report.error, hs, hunscored]⟩

lemma error_added (h : Tighter r t) (hm : isStrictEntry message = true)
    (hu : isUnscoredError message = false) : Tighter r (t.error message) := by
  obtain ⟨ids, hl, hs⟩ := h.raised
  exact ⟨h.details, by simp [Report.error, h.errors, hm], h.warnings, ids, hl,
    by simp [Report.error, hs, hu]⟩

lemma warning_common (h : Tighter r t) (hm : isStrictEntry message = false)
    (hu : isUnscoredWarning message = false) : Tighter (r.warning message) (t.warning message) := by
  obtain ⟨ids, hl, hs⟩ := h.raised
  exact ⟨h.details, h.errors, by simp [Report.warning, h.warnings, hm, hu], ids,
    by simp [Report.warning, hl, hu], hs⟩

lemma warning_added (h : Tighter r t) (hm : isStrictEntry message = true) :
    Tighter r (t.warning message) := by
  obtain ⟨ids, hl, hs⟩ := h.raised
  exact ⟨h.details, h.errors, by simp [Report.warning, h.warnings, hm], ids, hl, hs⟩

lemma raise (h : Tighter r t) (id : String) :
    Tighter (r.warning (unscoredWarning id)) (t.error (unscoredError id)) := by
  obtain ⟨ids, hl, hs⟩ := h.raised
  have hwarning := isUnscoredWarning_unscoredWarning id
  have herror := isUnscoredError_unscoredError id
  have hstrict := isStrictEntry_of_isUnscoredError herror
  exact ⟨h.details, by simp [Report.error, Report.warning, h.errors, hstrict],
    by simp [Report.error, Report.warning, h.warnings, hwarning], ids ++ [id],
    by simp [Report.warning, hl, hwarning], by simp [Report.error, hs, herror]⟩

lemma empty : Tighter Report.empty Report.empty := ⟨rfl, rfl, rfl, [], rfl, rfl⟩

lemma finish (h : Tighter r t) : Tighter r.finish t.finish :=
  ⟨h.details, h.errors, h.warnings, h.raised⟩

end Tighter

/-- One finding that both ways of checking make. -/
lemma Tighter.take (h : Tighter g.report g'.report) (hseen : g'.seen = g.seen) (hf : f.Common) :
    Tighter (g.take f).report (g'.take f).report := by
  cases f with
  | error message => exact h.error_common hf
  | warning message => exact h.warning_common hf.1 hf.2
  | identifier value source =>
    cases hb : (Finding.identifier value source).brings with
    | none => rwa [Registry.take_of_brings_none hb, Registry.take_of_brings_none hb]
    | some id =>
      rw [Registry.take_of_brings_some hb, Registry.take_of_brings_some hb, hseen]
      split
      · exact h.error_common (isStrictEntry_of_opens
          (.append (.append (.append (.ofList _ _ _) _) _) _) (by decide))
      · exact h
  | _ => exact ⟨by simp [Registry.take, Registry.changeDetails, h.details], h.errors, h.warnings,
      h.raised⟩

/-- What is related finding by finding makes for reports that are. -/
theorem Tightens.takeAll (h : Tightens l s) (hseen : g'.seen = g.seen)
    (hr : Tighter g.report g'.report) : Tighter (g.takeAll l).report (g'.takeAll s).report := by
  -- both registries have seen the same identifiers, so they find the same repetitions
  induction h generalizing g g' with
  | nil => exact hr
  | @common f l s hf _ ih =>
    have hsame : (g'.take f).seen = (g.take f).seen := by
      rw [Registry.seen_take, Registry.seen_take, hseen]
    exact ih hsame (hr.take hseen hf)
  | @added f l s hf _ ih =>
    cases f with
    | error message =>
      have hsame : (g'.take (.error message)).seen = g.seen := hseen
      exact ih hsame (hr.error_added hf.1 hf.2)
    | warning message =>
      have hsame : (g'.take (.warning message)).seen = g.seen := hseen
      exact ih hsame (hr.warning_added hf)
    | _ => exact hf.elim
  | raised id _ ih =>
    have hsame : (g'.take (.error (unscoredError id))).seen =
        (g.take (.warning (unscoredWarning id))).seen := hseen
    exact ih hsame (hr.raise id)

/-! ### Legacy documents -/

namespace Legacy

lemma when_added {c : Bool} (h : f.Added) : ∀ g ∈ Finding.when c f, g.Added := by
  unfold Finding.when
  split <;> simp [h]

lemma added_pointsFindings (id : String) (points : Option Float) :
    ∀ f ∈ pointsFindings id points, f.Added := by
  unfold pointsFindings
  split
  · exact List.forall_mem_singleton.mpr ⟨isStrictEntry_item _ _,
      isUnscoredError_of_closes (.append (.ofList rfl) _) (by decide)⟩
  · exact when_added (isStrictEntry_append (isStrictEntry_append (isStrictEntry_item _ _) _) _)

lemma added_typeFindings (id : String) (type : Option String) :
    ∀ f ∈ typeFindings id type, f.Added := by
  have hmissing : (Finding.error
      s!"Strict: Item {id} missing \"question_type\" metadata").Added :=
    ⟨isStrictEntry_item _ _,
      isUnscoredError_of_closes (.append (.ofList rfl) _) (by decide)⟩
  unfold typeFindings
  split
  · exact List.forall_mem_singleton.mpr hmissing
  · split
    · exact List.forall_mem_singleton.mpr hmissing
    · exact when_added (isStrictEntry_append (isStrictEntry_append (isStrictEntry_item _ _) _) _)

lemma added_identFindings (ident : Option String) : ∀ f ∈ identFindings ident, f.Added := by
  unfold identFindings
  split
  · exact List.forall_mem_singleton.mpr
      ⟨isStrictEntry_ofList _, isUnscoredError_of_closes (.ofList rfl) (by decide)⟩
  · exact when_added ⟨isStrictEntry_append (isStrictEntry_append (isStrictEntry_ofList _) _) _,
      isUnscoredError_of_closes (.append (.ofList rfl) _) (by decide)⟩

lemma added_strictFindings (item : Element) (id : String) (metadata : List (String × String)) :
    ∀ f ∈ strictFindings item id metadata, f.Added := by
  unfold strictFindings
  simp only [List.forall_mem_append]
  refine ⟨⟨⟨⟨when_added ⟨?_, ?_⟩, added_pointsFindings _ _⟩, added_typeFindings _ _⟩,
    added_identFindings _⟩, when_added ?_⟩
  · exact isStrictEntry_item _ _
  · exact isUnscoredError_of_closes (.append (.ofList rfl) _) (by decide)
  · exact isStrictEntry_item _ _

lemma added_scoringFindings (processing : Element) (id : String) :
    ∀ f ∈ scoringFindings processing id, f.Added := by
  unfold scoringFindings
  refine List.forall_mem_append.mpr ⟨?_, when_added ?_⟩
  · split
    · exact List.forall_mem_singleton.mpr (isStrictEntry_item _ _)
    · exact when_added (isStrictEntry_item _ _)
  · exact isStrictEntry_item _ _

lemma added_assessmentFindings (assessment : Element) :
    ∀ f ∈ assessmentFindings true assessment, f.Added := by
  unfold assessmentFindings
  rw [if_pos rfl]
  refine List.forall_mem_append.mpr ⟨when_added ⟨?_, ?_⟩, when_added ?_⟩
  · exact isStrictEntry_ofList _
  · exact isUnscoredError_of_closes (.ofList rfl) (by decide)
  · exact isStrictEntry_ofList _

lemma allPlain_choiceFindings (id : String) (labels : Option (List Element)) :
    AllPlain (choiceFindings id labels) := by
  unfold choiceFindings
  split
  · exact allPlain_nil
  · refine allPlain_append.mpr ⟨allPlain_when ?_, allPlain_flatMap fun label _ => ?_⟩
    · exact Finding.plain_error (.append (.ofList _ _ _) _) (by decide) (by decide)
    · exact allPlain_optionRules _ _ _

theorem tightens_processingFindings (item : Element) (id : String) (isFreeText : Bool) :
    Tightens (processingFindings false item id isFreeText)
      (processingFindings true item id isFreeText) := by
  unfold processingFindings
  split
  · cases isFreeText with
    | true => exact .nil
    | false => exact .raised id .nil
  · refine (Tightens.of_allPlain (allPlain_when ?_)).append
      (.of_added (added_scoringFindings _ _))
    exact Finding.plain_error (.append (.ofList _ _ _) _) (by decide) (by decide)

theorem tightens_responseFindings (item presentation : Element) (id : String)
    (isFreeText : Bool) :
    Tightens (responseFindings false item presentation id isFreeText)
      (responseFindings true item presentation id isFreeText) := by
  unfold responseFindings
  split
  · exact (Tightens.of_allPlain (allPlain_choiceFindings _ _)).append
      (tightens_processingFindings _ _ _)
  · refine .of_allPlain (allPlain_when ?_)
    exact Finding.plain_error (.append (.append (.ofList _ _ _) _) _) (by decide) (by decide)

theorem tightens_presentedFindings (item presentation : Element) (id : String) :
    Tightens (presentedFindings false item presentation id)
      (presentedFindings true item presentation id) := by
  unfold presentedFindings
  dsimp only
  refine .append (.append (.append (.append (.append (.of_allPlain (allPlain_when ?short))
    (.of_allPlain (allPlain_securityRules _ _ _))) (.of_allPlain (allPlain_stemRules _ _ _)))
    (.of_added (added_strictFindings _ _ _))) (tightens_responseFindings _ _ _ _))
    (.of_allPlain (allPlain_when ?image))
  case short => exact Finding.plain_error (.append (.ofList _ _ _) _) (by decide) (by decide)
  case image =>
    exact ⟨isStrictEntry_of_opens (.append (.append (.ofList _ _ _) _) _) (by decide),
      isUnscoredWarning_of_closes (.append (.ofList rfl) _) (by decide)⟩

theorem tightens_itemFindings (number : Nat) (item : Element) :
    Tightens (itemFindings false number item) (itemFindings true number item) := by
  unfold itemFindings
  refine .common trivial ?_
  split
  · refine .of_allPlain (allPlain_singleton ?_)
    exact Finding.plain_error (.append (.append (.ofList _ _ _) _) _) (by decide) (by decide)
  · exact tightens_presentedFindings _ _ _

theorem tightens_eachItem (number : Nat) (items : List Element) :
    Tightens (eachItem false number items) (eachItem true number items) := by
  induction items generalizing number with
  | nil => exact .nil
  | cons item items ih => exact (tightens_itemFindings number item).append (ih (number + 1))

theorem tightens_sectionFindings (sections : List Element) :
    Tightens (sectionFindings false sections) (sectionFindings true sections) := by
  unfold sectionFindings
  split
  · exact .error (isStrictEntry_of_opens (.ofList _ _ _) (by decide))
  · dsimp only
    split
    · exact .error (isStrictEntry_of_opens (.ofList _ _ _) (by decide))
    · exact .common trivial (tightens_eachItem 1 _)

/-- On every document strict checking finds what lenient checking finds, and more. -/
theorem tightens_findings (root : Element) :
    Tightens (findings false root) (findings true root) := by
  unfold findings
  split
  · exact .error (isStrictEntry_of_opens (.ofList _ _ _) (by decide))
  · next assessment _ =>
    refine .common trivial (.common trivial (.common trivial ?_))
    exact (Tightens.of_added (added_assessmentFindings assessment)).append
      (tightens_sectionFindings _)

end Legacy

/-! ### Packages -/

/-- A beginning without a character ends before the character comes. -/
lemma prefix_of_prefix_append_cons {c : Char} {p q rest : List Char} (hc : c ∉ p)
    (h : p <+: q ++ c :: rest) : p <+: q := by
  induction p generalizing q with
  | nil => exact List.nil_prefix
  | cons d p ih =>
    obtain ⟨hd, hp⟩ : c ≠ d ∧ c ∉ p := by simpa using hc
    cases q with
    | nil => exact absurd (List.cons_prefix_cons.mp h).1.symm hd
    | cons e q =>
      rw [List.cons_append] at h
      obtain ⟨rfl, hrest⟩ := List.cons_prefix_cons.mp h
      exact List.cons_prefix_cons.mpr ⟨rfl, ih hp hrest⟩

lemma isStrictEntry_missingManifest {name : String} (h : isStrictEntry name = false) :
    isStrictEntry (missingManifest name) = false := by
  obtain ⟨rest, hrest⟩ : ∃ rest, (missingManifest name).toList = name.toList ++ ' ' :: rest :=
    ⟨_, by simp [missingManifest, toString]; rfl⟩
  rw [← Bool.not_eq_true, isStrictEntry, beginsWith, List.isPrefixOf_iff_prefix] at h ⊢
  rw [hrest]
  exact fun hbegins => h (prefix_of_prefix_append_cons (by decide) hbegins)

lemma isUnscoredError_missingManifest (name : String) :
    isUnscoredError (missingManifest name) = false :=
  isUnscoredError_of_closes (.append (.ofList rfl) _) (by decide)

/-- How a package is checked whose checks do not depend on strictness. -/
lemma checkSite_of_not_legacy {site : Site} (h : ∀ root, site.legacyDocument? ≠ .ok (some root))
    (name : String) : ∃ c, (∀ strict, checkSite site strict name = c) ∧
      (c.Plain ∨ c = Check.report [.error (missingManifest name)]) := by
  rcases hl : site.legacyDocument? with e | _ | root
  · exact ⟨_, fun strict => checkSite_of_unlisted hl strict name, .inl allPlain_nil⟩
  · rcases hm : site.files.exists? (site.manifestPath name) with e | _ | _
    · exact ⟨_, checkSite_of_unreadable hl hm, .inl allPlain_nil⟩
    · exact ⟨_, checkSite_of_no_manifest hl hm, .inr rfl⟩
    · exact ⟨_, checkSite_of_manifest hl hm, .inl (Manifest.plain_check _ _)⟩
  · exact absurd hl (h root)

lemma tighter_report {l s : List Finding} (h : Tightens l s) (i : Option Interruption) :
    Tighter (Outcome.checked l i).report (Outcome.checked s i).report := by
  have hr : Tighter (Registry.empty.takeAll l).report (Registry.empty.takeAll s).report :=
    h.takeAll rfl Tighter.empty
  cases i with
  | none => exact hr.finish
  | some i =>
    exact (hr.error_common (isStrictEntry_of_opens (.append (.ofList _ _ _) _) (by decide))).finish

lemma tighter_rejected (r : Rejection) :
    Tighter (Outcome.rejected r).report (Outcome.rejected r).report := by
  have herror : Tighter (Report.empty.error r.message) (Report.empty.error r.message) := by
    refine Tighter.empty.error_common ?_
    cases r with
    | missing p => exact isStrictEntry_of_opens (.append (.ofList _ _ _) _) (by decide)
    | notExtracted => exact isStrictEntry_of_opens (.ofList _ _ _) (by decide)
    | notPackage => exact isStrictEntry_of_opens (.ofList _ _ _) (by decide)
  exact ⟨herror.details, herror.errors, herror.warnings, herror.raised⟩

lemma tighter_ofCheck {c : Check Unit} (h : c.Plain) :
    Tighter (Outcome.ofCheck c).report (Outcome.ofCheck c).report := by
  unfold Outcome.ofCheck
  split <;> exact tighter_report (.of_allPlain h) _

variable {settings : Settings} {fs : FileSystem} {p : Path}

/-- The report on a package that holds neither a legacy document nor a manifest. -/
def unmanifested (manifestName : String) : Report :=
  ⟨false, [missingManifest manifestName], [], Details.none⟩

/-- The reports of both ways of checking are related; where there is nothing to check, they are
the same. -/
theorem run_tighter (settings : Settings) (fs : FileSystem) (p : Path) :
    Tighter (run settings false fs p).1.report (run settings true fs p).1.report ∨
      ∀ strict, (run settings strict fs p).1.report = unmanifested settings.manifestName := by
  by_cases hex : ∃ site, Inspects settings fs p site
  · obtain ⟨site, hsite⟩ := hex
    simp only [run_of_inspects hsite]
    by_cases hl : ∃ root, site.legacyDocument? = .ok (some root)
    · obtain ⟨root, hroot⟩ := hl
      simp only [checkSite_of_legacy hroot]
      exact .inl (tighter_report (Legacy.tightens_findings root) none)
    · obtain ⟨c, hc, hplain | rfl⟩ :=
        checkSite_of_not_legacy (not_exists.mp hl) settings.manifestName
      · simp only [hc]
        exact .inl (tighter_ofCheck hplain)
      · exact .inr fun strict => by rw [hc]; rfl
  · obtain ⟨r, hr⟩ | ⟨i, hi⟩ := run_of_not_inspects (not_exists.mp hex)
    · simp only [hr]
      exact .inl (tighter_rejected r)
    · simp only [hi]
      exact .inl (tighter_report .nil (some i))

/-- Without a legacy document strictness makes no difference. -/
theorem run_eq_of_not_legacy
    (h : ∀ site root, Inspects settings fs p site → site.legacyDocument? ≠ .ok (some root)) :
    (run settings true fs p).1 = (run settings false fs p).1 := by
  by_cases hex : ∃ site, Inspects settings fs p site
  · obtain ⟨site, hsite⟩ := hex
    obtain ⟨c, hc, -⟩ :=
      checkSite_of_not_legacy (fun root => h site root hsite) settings.manifestName
    rw [run_of_inspects hsite, run_of_inspects hsite, hc, hc]
  · obtain ⟨r, hr⟩ | ⟨i, hi⟩ := run_of_not_inspects (not_exists.mp hex)
    · rw [hr, hr]
    · rw [hi, hi]

lemma Validator.validate_under (v : Validator) (fs : FileSystem) (p : Path) (strict : Bool) :
    (v.validate fs p (some ⟨some strict⟩)).1 = (run v.settings strict fs p).1.report := by
  rw [v.validate_report]
  rfl

/-- Strict checking changes no fact about the package, keeps every error of lenient checking and
every warning but those on missing scoring, each of which it makes an error of its own, and adds
only entries that it marks. So what it accepts is accepted anyway. It makes no difference to a
package without a legacy document. The name of the manifest is given in one error, and therefore
must not look like such a mark. -/
theorem validate_strict_adds (v : Validator) (fs : FileSystem) (p : Path) :
    let lenient := (v.validate fs p (some ⟨some false⟩)).1
    let strict := (v.validate fs p (some ⟨some true⟩)).1
    strict.details = lenient.details ∧
    (isStrictEntry v.settings.manifestName = false →
      strict.errors.filter (!isStrictEntry ·) = lenient.errors) ∧
    strict.warnings.filter (!isStrictEntry ·) = lenient.warnings.filter (!isUnscoredWarning ·) ∧
    (∃ ids : List String,
      lenient.warnings.filter isUnscoredWarning = ids.map unscoredWarning ∧
        strict.errors.filter isUnscoredError = ids.map unscoredError) ∧
    (strict.isValid = true → lenient.isValid = true) ∧
    ((∀ site root, Inspects v.settings fs p site → site.legacyDocument? ≠ .ok (some root)) →
      strict = lenient) := by
  intro lenient strict
  have hlenient : lenient = (run v.settings false fs p).1.report := v.validate_under fs p false
  have hstrict : strict = (run v.settings true fs p).1.report := v.validate_under fs p true
  have hsame : (∀ site root, Inspects v.settings fs p site →
      site.legacyDocument? ≠ .ok (some root)) → strict = lenient := by
    intro h
    rw [hstrict, hlenient, run_eq_of_not_legacy h]
  rcases run_tighter v.settings fs p with h | h
  · rw [← hlenient, ← hstrict] at h
    refine ⟨h.details, fun _ => h.errors, h.warnings, h.raised, fun hvalid => ?_, hsame⟩
    rw [hstrict, Outcome.report_isValid_iff, ← hstrict] at hvalid
    rw [hlenient, Outcome.report_isValid_iff, ← hlenient, ← h.errors, hvalid]
    rfl
  · have hboth : lenient = unmanifested v.settings.manifestName ∧
        strict = unmanifested v.settings.manifestName :=
      ⟨hlenient.trans (h false), hstrict.trans (h true)⟩
    rw [hboth.1, hboth.2] at hsame ⊢
    refine ⟨rfl, fun hname => ?_, rfl, ⟨[], rfl, ?_⟩, id, hsame⟩
    · simp [unmanifested, isStrictEntry_missingManifest hname]
    · simp [unmanifested, isUnscoredError_missingManifest]

/-- A legacy document whose assessment holds nothing. -/
def emptyAssessment : List UInt8 :=
  [60, 113, 117, 101, 115, 116, 101, 115, 116, 105, 110, 116, 101, 114, 111, 112, 62, 60, 97, 115,
   115, 101, 115, 115, 109, 101, 110, 116, 47, 62, 60, 47, 113, 117, 101, 115, 116, 101, 115, 116,
   105, 110, 116, 101, 114, 111, 112, 62]

/-- A folder with that document alone. -/
def emptyAssessmentFiles : FileSystem :=
  ⟨.folder [("tmp", .folder []), ("q", .folder [("q.xml", .file emptyAssessment)])], [],
    ⟨1, ["tmp"]⟩⟩

theorem validate_strict_sectionless :
    (Validator.validate ⟨Options.inherit, Settings.default⟩ emptyAssessmentFiles ⟨0, ["q"]⟩
      (some ⟨some true⟩)).1.errors =
        ["Strict: Assessment missing required \"ident\" attribute",
          "QTI 1.2: Missing <section> element"] ∧
      (Validator.validate ⟨Options.inherit, Settings.default⟩ emptyAssessmentFiles ⟨0, ["q"]⟩
        (some ⟨some true⟩)).1.errors.filter (!isStrictEntry ·) =
        ["QTI 1.2: Missing <section> element"] := by
  have hlenient : (Validator.validate ⟨Options.inherit, Settings.default⟩ emptyAssessmentFiles
      ⟨0, ["q"]⟩ (some ⟨some false⟩)).1.errors = ["QTI 1.2: Missing <section> element"] := by
    decide +kernel
  have hadds := validate_strict_adds ⟨Options.inherit, Settings.default⟩ emptyAssessmentFiles
    ⟨0, ["q"]⟩
  exact ⟨by decide +kernel, (hadds.2.1 (by decide)).trans hlenient⟩

end QuizPreflight.Package
