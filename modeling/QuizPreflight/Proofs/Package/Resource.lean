import QuizPreflight.Proofs.Package.Recording
import QuizPreflight.Proofs.Package.Uniqueness

/-!
# What the check of a resource consists of

The check of a resource registers it, reports the references that lead nowhere and then checks the
documents that the others lead to, each path once. It comes to its end if all that it looks at can
be looked at.
-/
namespace QuizPreflight.Package

open Markup

namespace Check

variable {α : Type} {f : α → Check Unit} {test : α → Check Bool} {as kept : List α}

theorem each_result_eq_ok_iff :
    (each f as).result = .ok () ↔ ∀ a ∈ as, (f a).result = .ok () := by
  induction as with
  | nil => simp [each, done]
  | cons a as ih =>
    rw [each, bind_result_eq_ok_iff, List.forall_mem_cons, ← ih]
    exact ⟨fun ⟨(), h⟩ => h, fun h => ⟨(), h⟩⟩

theorem each_findings (h : (each f as).result = .ok ()) :
    (each f as).findings = as.flatMap fun a => (f a).findings := by
  induction as with
  | nil => rfl
  | cons a as ih =>
    obtain ⟨hfirst, hrest⟩ := List.forall_mem_cons.mp (each_result_eq_ok_iff.mp h)
    rw [each, bind_findings hfirst, ih (each_result_eq_ok_iff.mpr hrest), List.flatMap_cons]

/-- Checks that come to their end make their findings one after the other. -/
lemma each_eq {g : α → List Finding} (h : ∀ a ∈ as, f a = ⟨g a, .ok ()⟩) :
    each f as = ⟨as.flatMap g, .ok ()⟩ := by
  induction as with
  | nil => rfl
  | cons a as ih =>
    obtain ⟨hfirst, hrest⟩ := List.forall_mem_cons.mp h
    rw [each, hfirst, ih hrest]
    rfl

lemma result_of_filter (h : (filter test as).result = .ok kept) :
    ∀ a ∈ as, ∃ b, (test a).result = .ok b := by
  induction as generalizing kept with
  | nil => simp
  | cons a as ih =>
    obtain ⟨b, hb, hrest⟩ := bind_result_eq_ok_iff.mp h
    obtain ⟨rest, hr, -⟩ := bind_result_eq_ok_iff.mp hrest
    exact List.forall_mem_cons.mpr ⟨⟨b, hb⟩, ih hr⟩

lemma pure_bind {β : Type} (a : β) (f : β → Check α) : ((pure a : Check β) >>= f) = f a :=
  look_ok_bind a f

lemma report_bind (fs : List Finding) (c : Check Unit) :
    (report fs >>= fun _ => c) = ⟨fs ++ c.findings, c.result⟩ := rfl

end Check

namespace Manifest

open Check

variable {site : Site} {resource : Element} {href complaint : String} {refs : List String}

/-- The kind of documents that a resource is made of, if they are to be checked. -/
def kindOf (resource : Element) : Option ResourceKind :=
  kindOf? ((resource.attribute? "type").getD "")

def mainReference (resource : Element) : List String := (resource.attribute? "href").toList

def fileReferences (resource : Element) : List String :=
  (resource.childrenNamed "file").filterMap (·.attribute? "href")

/-- What is found of a resource before any of its files is looked at. -/
def registration (resource : Element) : List Finding :=
  .identifier (resource.attribute? "identifier") "Resource" ::
    match kindOf resource with
    | some .item => [.items 1]
    | some .test => [.test]
    | none => []

/-- The entries on those of some references that lead nowhere. -/
def complaints (site : Site) (complaint : String) (refs : List String) : List String :=
  (refs.filter (!isPresent site ·)).map fun href => s!"{complaint}: {href}"

/-- The entries on the missing files of a resource. -/
def absences (site : Site) (resource : Element) : List String :=
  complaints site "Resource main file not found" (mainReference resource) ++
    complaints site "Missing resource file" (fileReferences resource)

/-- The references of which the documents are read, each path once. -/
def checkedReferences (site : Site) (resource : Element) : List String :=
  distinctDocuments site.root [] ((references resource).filter (isPresent site))

def checkDocuments (site : Site) (resource : Element) : Check Unit :=
  match kindOf resource with
  | none => done ()
  | some kind => each (checkFile site kind) (checkedReferences site resource)

/-- What is found of a resource beyond its registration. -/
def remarks (site : Site) (resource : Element) : List Finding :=
  (absences site resource).map .error ++ (checkDocuments site resource).findings

/-- It can be told whether something is at a path. -/
def Answers (files : FileSystem) (p : Path) : Prop := files.lookup p ≠ .error .nameTooLong

lemma answers_iff {files : FileSystem} {p : Path} :
    Answers files p ↔ ∃ b, files.exists? p = .ok b := by
  constructor
  · intro h
    by_cases hfound : ∃ e, files.lookup p = .ok e
    · exact ⟨true, FileSystem.exists?_eq_ok_iff.mpr ⟨h, by simpa using hfound⟩⟩
    · exact ⟨false, FileSystem.exists?_eq_ok_iff.mpr ⟨h, by simpa using hfound⟩⟩
  · rintro ⟨b, hb⟩
    exact (FileSystem.exists?_eq_ok_iff.mp hb).1

lemma isPresent_iff : isPresent site href = true ↔
    ∃ e, site.files.lookup (resolve site.root href) = .ok e := by
  unfold isPresent Site.exists? FileSystem.exists? FileSystem.test
  rcases site.files.lookup (resolve site.root href) with problem | e
  · cases problem <;> simp
  · simp

lemma complaints_cons (site : Site) (complaint href : String) (refs : List String) :
    complaints site complaint (href :: refs) =
      (if isPresent site href then [] else [s!"{complaint}: {href}"]) ++
        complaints site complaint refs := by
  unfold complaints
  rw [List.filter_cons]
  cases isPresent site href <;> rfl

lemma filter_present_eq (h : ∀ href ∈ refs, Answers site.files (resolve site.root href)) :
    Check.filter (present site complaint) refs =
      ⟨(complaints site complaint refs).map .error, .ok (refs.filter (isPresent site))⟩ := by
  induction refs with
  | nil => rfl
  | cons href refs ih =>
    obtain ⟨hanswers, hrest⟩ := List.forall_mem_cons.mp h
    obtain ⟨b, hb⟩ : ∃ b, site.exists? site.root href = .ok b := answers_iff.mp hanswers
    have hpresent : isPresent site href = b := by rw [isPresent, hb]
    have htest : present site complaint href =
        ⟨(if b then [] else [.error s!"{complaint}: {href}"]), .ok b⟩ := by
      rw [present, hb, look_ok_bind]
      cases b <;> rfl
    rw [Check.filter, htest, ih hrest, List.filter_cons, complaints_cons, hpresent]
    cases b <;> simp [bind, andThen, pure, done]

lemma answered_of_filter {kept : List String}
    (h : (Check.filter (present site complaint) refs).result = .ok kept) :
    ∀ href ∈ refs, Answers site.files (resolve site.root href) := by
  intro href hmem
  obtain ⟨b, hb⟩ := result_of_filter h href hmem
  obtain ⟨found, hfound, -⟩ := bind_result_eq_ok_iff.mp hb
  exact answers_iff.mpr ⟨found, hfound⟩

/-- The check of a resource of which every reference is answered. -/
theorem checkResource_eq
    (h : ∀ href ∈ references resource, Answers site.files (resolve site.root href)) :
    checkResource site resource =
      ⟨registration resource ++ remarks site resource, (checkDocuments site resource).result⟩ := by
  obtain ⟨hmain, hfiles⟩ := List.forall_mem_append.mp h
  have hchecked : checkedReferences site resource = distinctDocuments site.root []
      ((mainReference resource).filter (isPresent site) ++
        (fileReferences resource).filter (isPresent site)) := by
    rw [checkedReferences, references, List.filter_append]
    rfl
  unfold checkResource registration remarks absences checkDocuments
  rw [filter_present_eq hmain, filter_present_eq hfiles, hchecked, List.map_append,
    List.append_assoc]
  unfold kindOf
  cases kindOf? ((resource.attribute? "type").getD "") <;> rfl

theorem checkResource_result_eq_ok_iff : (checkResource site resource).result = .ok () ↔
    (∀ href ∈ references resource, Answers site.files (resolve site.root href)) ∧
      (checkDocuments site resource).result = .ok () := by
  constructor
  · intro h
    obtain ⟨-, -, hafter⟩ := bind_result_eq_ok_iff.mp h
    obtain ⟨main, hmain, hrest⟩ := bind_result_eq_ok_iff.mp hafter
    obtain ⟨files, hfiles, -⟩ := bind_result_eq_ok_iff.mp hrest
    have hanswered : ∀ href ∈ references resource, Answers site.files (resolve site.root href) :=
      List.forall_mem_append.mpr ⟨answered_of_filter hmain, answered_of_filter hfiles⟩
    rw [checkResource_eq hanswered] at h
    exact ⟨hanswered, h⟩
  · rintro ⟨hanswered, h⟩
    rw [checkResource_eq hanswered]
    exact h

theorem checkResource_findings (h : (checkResource site resource).result = .ok ()) :
    (checkResource site resource).findings =
      registration resource ++ remarks site resource := by
  rw [checkResource_eq (checkResource_result_eq_ok_iff.mp h).1]

/-- What holds of the paths of all checked documents holds of the paths of all references to
documents that lead somewhere. -/
lemma forall_checkedReferences_iff {holds : Path → Prop} :
    (∀ href ∈ checkedReferences site resource, holds (resolve site.root href)) ↔
      ∀ href ∈ references resource, isPresent site href = true → isDocumentName href = true →
        holds (resolve site.root href) := by
  have hpaths : ∀ p, p ∈ (checkedReferences site resource).map (resolve site.root) ↔
      ∃ href ∈ (references resource).filter (isPresent site),
        isDocumentName href = true ∧ resolve site.root href = p := fun p =>
    mem_paths_distinctDocuments.trans (and_iff_right List.not_mem_nil)
  constructor
  · intro h href hmem hpresent hname
    have hpath := (hpaths (resolve site.root href)).mpr
      ⟨href, List.mem_filter.mpr ⟨hmem, hpresent⟩, hname, rfl⟩
    obtain ⟨checked, hchecked, heq⟩ := List.mem_map.mp hpath
    rw [← heq]
    exact h checked hchecked
  · intro h checked hchecked
    obtain ⟨href, hmem, hname, heq⟩ := (hpaths _).mp (List.mem_map_of_mem hchecked)
    rw [← heq]
    exact h href (List.mem_filter.mp hmem).1 (List.mem_filter.mp hmem).2 hname

/-! ### The check of a package -/

def noTestWarning : String :=
  "No assessmentTest resource found (imsqti_test_xmlv2p1). " ++ "This may just be an item bank."

/-- What is found of a manifest before its resources are checked. -/
def opening (manifest : Element) : List Finding :=
  [.manifest, .identifier (manifest.attribute? "identifier") "Manifest",
    .resources (resourcesOf manifest).length]

/-- What is found when the resources have been checked. -/
def closing (manifest : Element) : List Finding :=
  Finding.when (!(resourcesOf manifest).any isTestResource) (.warning noTestWarning)

variable {manifestPath : Path} {manifest : Element}

/-- The check of a package of which the manifest can be read. -/
lemma check_eq (hread : site.readDocument manifestPath = .ok (.ok manifest))
    (htag : manifest.tag = "manifest") :
    check site manifestPath = (Check.report (opening manifest) >>= fun _ =>
      each (checkResource site) (resourcesOf manifest) >>= fun _ =>
        Check.report (closing manifest)) := by
  have hclosing : (if (!(resourcesOf manifest).any isTestResource) = true then
      Check.report [.warning noTestWarning] else pure ()) = Check.report (closing manifest) := by
    unfold closing Finding.when
    split <;> rfl
  have htag' : (manifest.tag != "manifest") = false := by simp [htag]
  unfold check
  rw [hread, look_ok_bind]
  dsimp only
  rw [htag', if_neg Bool.false_ne_true]
  unfold noTestWarning at hclosing
  rw [hclosing]
  rfl

theorem check_result_eq_ok_iff (hread : site.readDocument manifestPath = .ok (.ok manifest))
    (htag : manifest.tag = "manifest") : (check site manifestPath).result = .ok () ↔
      ∀ resource ∈ resourcesOf manifest, (checkResource site resource).result = .ok () := by
  rw [check_eq hread htag, report_bind, ← each_result_eq_ok_iff]
  refine bind_result_eq_ok_iff.trans ⟨fun ⟨(), h, _⟩ => h, fun h => ⟨(), h, rfl⟩⟩

theorem check_findings (hread : site.readDocument manifestPath = .ok (.ok manifest))
    (htag : manifest.tag = "manifest") (h : (check site manifestPath).result = .ok ()) :
    (check site manifestPath).findings = opening manifest ++
      (((resourcesOf manifest).flatMap fun resource => (checkResource site resource).findings) ++
        closing manifest) := by
  have heach : (each (checkResource site) (resourcesOf manifest)).result = .ok () :=
    each_result_eq_ok_iff.mpr ((check_result_eq_ok_iff hread htag).mp h)
  rw [check_eq hread htag, report_bind, bind_findings heach, each_findings heach]
  rfl

/-! ### Packages with a manifest in a folder -/

/-- The type of a resource and its references. -/
structure Summary where
  type : Option String
  main : Option String
  files : List String
  deriving DecidableEq

def summaryOf (resource : Element) : Summary :=
  ⟨resource.attribute? "type", resource.attribute? "href", fileReferences resource⟩

/-- What a content says as a manifest: its root and its resources. -/
def outline (content : List UInt8) : Option (String × List Summary) :=
  (documentOf content).toOption.map fun root => (root.tag, (resourcesOf root).map summaryOf)

lemma references_eq (resource : Element) :
    references resource = mainReference resource ++ fileReferences resource := rfl

/-- A manifest with one resource, which has a main file alone. -/
lemma single_of_summary (site : Site) {type : Option String}
    (h : (resourcesOf manifest).map summaryOf = [⟨type, some href, []⟩]) :
    ∃ resource, resourcesOf manifest = [resource] ∧ kindOf resource = kindOf? (type.getD "") ∧
      absences site resource = complaints site "Resource main file not found" [href] ∧
      references resource = [href] := by
  obtain ⟨resource, hone, hparts⟩ := List.map_eq_singleton_iff.mp h
  obtain ⟨htype, hmain, hfiles⟩ := Summary.mk.inj hparts
  refine ⟨resource, hone, by rw [kindOf, htype], ?_, ?_⟩
  · rw [absences, mainReference, hmain, hfiles, Option.toList_some]
    exact List.append_nil _
  · rw [references_eq, mainReference, hmain, hfiles]
    rfl

end Manifest

/-- A folder with a package beside the temporary folder and a file. -/
def packageFiles (areas entries : List (String × Entry)) : FileSystem :=
  ⟨.folder [("tmp", .folder areas), ("o", .file []), ("q", .folder entries)], [], ⟨1, ["tmp"]⟩⟩

/-- What the validation of the package looks into. -/
def packageSite (entries : List (String × Entry)) : Site :=
  ⟨packageFiles [("qti-validate-0", .folder [])] entries, ⟨0, ["q"]⟩⟩

section Packages

variable {entries : List (String × Entry)}

lemma lookup_packageFiles (areas entries : List (String × Entry)) :
    (packageFiles areas entries).lookup ⟨0, ["q"]⟩ = .ok (.folder entries) := by
  refine FileSystem.lookup_eq_ok_iff.mpr ⟨["q"], rfl, ?_⟩
  simp [packageFiles, Entry.get?_folder_cons, List.lookup_cons]

lemma inspects_packageFiles (entries : List (String × Entry)) :
    Inspects defaultValidator.settings (packageFiles [] entries) ⟨0, ["q"]⟩
      (packageSite entries) := by
  have hfirst : (Path.ofString (Settings.default.areaName ++ toString 0)).within ⟨1, ["tmp"]⟩ =
      ⟨1, ["tmp", "qti-validate-0"]⟩ := by decide
  have hnames : (packageFiles [] entries).namesIn ⟨1, ["tmp"]⟩ = [] := rfl
  have hparent : Path.parent ⟨1, ["tmp", "qti-validate-0"]⟩ = ⟨1, ["tmp"]⟩ := rfl
  have htemporary : Settings.default.workFolder.getD (packageFiles [] entries).temporary =
      ⟨1, ["tmp"]⟩ := rfl
  have harea : areaOf Settings.default (packageFiles [] entries) =
      ⟨1, ["tmp", "qti-validate-0"]⟩ := by
    unfold areaOf FileSystem.freshPath
    dsimp only
    rw [htemporary, hfirst, hparent, hnames]
    simpa [List.range_succ] using hfirst
  refine .folder rfl ?_ rfl
  rw [show defaultValidator.settings = Settings.default from rfl, harea]
  rfl

lemma listable_packageSite (hdistinct : (entries.map Prod.fst).Nodup)
    (hnames : Path.Admissible (entries.map Prod.fst)) : Listable (packageSite entries) entries := by
  refine ⟨lookup_packageFiles _ entries, hdistinct, hnames, fun n hn _ => ?_⟩
  have hsize := utf8ByteSize_intercalate ["q", n] (by simp)
  have hq : "q".utf8ByteSize = 1 := rfl
  have hle := (hnames n hn).1
  have hpath : ((packageSite entries).root.append [n]).toString =
      String.ofList (List.replicate 0 '/') ++ "/".intercalate ["q", n] := rfl
  have hnone : (String.ofList (List.replicate 0 '/')).utf8ByteSize = 0 := rfl
  simp only [List.map_cons, List.map_nil, List.sum_cons, List.sum_nil, hq] at hsize
  rw [hpath, String.utf8ByteSize_append, hnone]
  unfold FileSystem.maxNameBytes at hle
  unfold FileSystem.maxPathBytes
  omega

/-- A package with a manifest and without a legacy document. -/
theorem manifest_of_outline (entries : List (String × Entry)) {content : List UInt8}
    {resources : List Manifest.Summary}
    (hmem : ("imsmanifest.xml", .file content) ∈ entries)
    (hdistinct : (entries.map Prod.fst).Nodup) (hnames : Path.Admissible (entries.map Prod.fst))
    (hother : ∀ n content', (n, .file content') ∈ entries → content' = content ∨
      ∀ root, documentOf content' = .ok root → root.tag ≠ Legacy.rootTag)
    (houtline : Manifest.outline content = some ("manifest", resources)) :
    ∃ manifest, (packageSite entries).legacyDocument? = .ok none ∧
      (packageSite entries).readDocument
        ((packageSite entries).manifestPath defaultValidator.settings.manifestName) =
          .ok (.ok manifest) ∧
      manifest.tag = "manifest" ∧
      (Manifest.resourcesOf manifest).map Manifest.summaryOf = resources := by
  have hlistable := listable_packageSite hdistinct hnames
  obtain ⟨manifest, hdoc, hparts⟩ := exists_of_toOption_map houtline
  obtain ⟨htag, hresources⟩ := Prod.mk.inj hparts
  have hpath : (packageSite entries).manifestPath defaultValidator.settings.manifestName =
      (packageSite entries).root.append ["imsmanifest.xml"] := by
    have hname : Path.ofString defaultValidator.settings.manifestName =
        ⟨0, ["imsmanifest.xml"]⟩ := by decide
    rw [Site.manifestPath, hname]
    rfl
  have hlookup := hlistable.lookup_of_mem hmem ((endsWith_iff _ _).mpr (by decide))
  refine ⟨manifest, hlistable.legacyDocument?_of_none ?_, ?_, htag, hresources⟩
  · rintro n content' ⟨hfile, -, root, hroot, hlegacy⟩
    rcases hother n content' hfile with rfl | hnot
    · obtain rfl : manifest = root := Except.ok.inj (hdoc.symm.trans hroot)
      rw [htag] at hlegacy
      revert hlegacy
      decide
    · exact hnot root hroot hlegacy
  · rw [hpath]
    exact readDocument_eq_ok_iff.mpr ⟨content, FileSystem.read_eq_ok_iff.mpr hlookup, hdoc⟩

/-- A manifest with one resource, of which the main file is named by one letter. -/
def looseManifest : List UInt8 :=
  Text.Utf8.encode "<manifest><resources><resource href=\"d\"/></resources></manifest>".toList

lemma outline_looseManifest :
    Manifest.outline looseManifest = some ("manifest", [⟨none, some "d", []⟩]) := by decide +kernel

end Packages

/-! ### Validation by a manifest -/

lemma validate_eq_check {v : Validator} {fs : FileSystem} {p : Path} {options : Option Options}
    {site : Site} {manifest : Element} (hsite : Inspects v.settings fs p site)
    (hlegacy : site.legacyDocument? = .ok none)
    (hread : site.readDocument (site.manifestPath v.settings.manifestName) = .ok (.ok manifest)) :
    (v.validate fs p options).1 = (Outcome.ofCheck
      (Manifest.check site (site.manifestPath v.settings.manifestName))).report := by
  obtain ⟨content, hcontent, -⟩ := readDocument_eq_ok_iff.mp hread
  have hexists : site.files.exists? (site.manifestPath v.settings.manifestName) = .ok true :=
    FileSystem.test_of_lookup (FileSystem.read_eq_ok_iff.mp hcontent) _
  rw [v.validate_report, run_of_inspects hsite, checkSite_of_manifest hlegacy hexists]

end QuizPreflight.Package
