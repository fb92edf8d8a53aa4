import QuizPreflight.Proofs.Package.Completion

/-!
# What the references of an accepted package lead to

A report that names no missing file says that something is at the end of every reference. It is a
file of the package if it is no folder and if the names of the reference, with double dots going
back, come to a place below the package. That is so for the documents that are read as far as
they are no folders; that a reference stays inside is checked for none.
-/
namespace QuizPreflight.Package

open FileSystem Markup Text

/-- A report on a validation that came to its end and named no missing file of a resource. -/
structure Report.NoneMissing (r : Report) : Prop where
  complete : r.Complete
  main : ∀ href : String, s!"Resource main file not found: {href}" ∉ r.errors
  files : ∀ href : String, s!"Missing resource file: {href}" ∉ r.errors

namespace Manifest

variable {site : Site} {resource manifest : Element} {manifestPath : Path} {href : String}
  {e : Entry}

/-- A reference leads to a file at a place in the package. -/
def Contained (site : Site) (href : String) : Prop :=
  ∃ place content, site.files.locate (resolve site.root href) = .ok place ∧
    site.files.root.get? place = some (.file content) ∧ site.files.placeOf site.root <+: place

/-- The names of a reference, with double dots going back, come to a place in the package. -/
def StaysInside (site : Site) (href : String) : Prop :=
  site.files.placeOf site.root <+:
    Path.normalise (site.files.placeOf site.root) (referenceNames href)

lemma placeOf_resolve (site : Site) (href : String) : site.files.placeOf (resolve site.root href) =
    Path.normalise (site.files.placeOf site.root) (referenceNames href) := by
  have hstart : site.files.startOf (resolve site.root href) = site.files.startOf site.root := rfl
  rw [placeOf, hstart]
  exact List.foldl_append

theorem contained_iff (h : site.files.lookup (resolve site.root href) = .ok e) :
    Contained site href ↔ e.isFolder = false ∧ StaysInside site href := by
  obtain ⟨place, hlocate, hget⟩ := lookup_eq_ok_iff.mp h
  have hplace := eq_placeOf_of_locate hlocate
  rw [placeOf_resolve] at hplace
  constructor
  · rintro ⟨place', content, hlocate', hfile, hinside⟩
    obtain rfl : place = place' := Except.ok.inj (hlocate.symm.trans hlocate')
    obtain rfl : e = .file content := Option.some.inj (hget.symm.trans hfile)
    rw [hplace] at hinside
    exact ⟨rfl, hinside⟩
  · rintro ⟨hfolder, hinside⟩
    rw [StaysInside, ← hplace] at hinside
    cases e with
    | file content => exact ⟨place, content, hlocate, hget, hinside⟩
    | folder entries => cases hfolder

lemma staysInside_of_inward (site : Site) (h : LeadsInward href) : StaysInside site href := by
  rw [StaysInside, Path.normalise_of_downward _ h]
  exact List.prefix_append _ _

/-- What the check of a resource tells about one of its references. -/
structure Found (site : Site) (resource : Element) (href : String) (e : Entry) : Prop where
  leads : site.files.lookup (resolve site.root href) = .ok e
  contained : Contained site href ↔ e.isFolder = false ∧ StaysInside site href
  inward : LeadsInward href → StaysInside site href
  document : kindOf resource ≠ none → isDocumentName href = true → e.isFolder = false

lemma isPresent_of_noneMissing (hread : site.readDocument manifestPath = .ok (.ok manifest))
    (htag : manifest.tag = "manifest")
    (h : (Outcome.ofCheck (check site manifestPath)).report.NoneMissing)
    (hresource : resource ∈ resourcesOf manifest) (hhref : href ∈ references resource) :
    isPresent site href = true := by
  have hreached := reached_of_result hread htag (result_of_complete h.complete)
  have habsent : ∀ entry ∈ absences site resource,
      entry ∈ (Outcome.ofCheck (check site manifestPath)).report.errors := fun entry hentry =>
    hreached.missing.subset (List.mem_flatMap.mpr ⟨resource, hresource, hentry⟩)
  -- a reference that leads nowhere would stand in one of the entries that the report lacks
  by_contra hnot
  rw [Bool.not_eq_true] at hnot
  have hcomplaint : ∀ {complaint : String} {refs : List String}, href ∈ refs →
      s!"{complaint}: {href}" ∈ complaints site complaint refs := fun hmem =>
    List.mem_map.mpr ⟨href, List.mem_filter.mpr ⟨hmem, by rw [hnot]; rfl⟩, rfl⟩
  rcases List.mem_append.mp hhref with hmain | hfile
  · exact h.main href (habsent _ (List.mem_append_left _ (hcomplaint hmain)))
  · exact h.files href (habsent _ (List.mem_append_right _ (hcomplaint hfile)))

theorem found_of_noneMissing (hread : site.readDocument manifestPath = .ok (.ok manifest))
    (htag : manifest.tag = "manifest")
    (h : (Outcome.ofCheck (check site manifestPath)).report.NoneMissing)
    (hresource : resource ∈ resourcesOf manifest) (hhref : href ∈ references resource) :
    ∃ e, Found site resource href e := by
  have hpresent := isPresent_of_noneMissing hread htag h hresource hhref
  obtain ⟨e, he⟩ := isPresent_iff.mp hpresent
  refine ⟨e, he, contained_iff he, staysInside_of_inward site, fun hkind hname => ?_⟩
  obtain ⟨kind, hkind⟩ := Option.ne_none_iff_exists'.mp hkind
  have hcheckable := checkable_of_complete hread htag h.complete resource hresource
  obtain ⟨content, hfile, -⟩ := hcheckable.documents kind hkind href hhref ⟨e, he⟩ hname
  obtain rfl : e = .file content := Except.ok.inj (he.symm.trans hfile)
  rfl

end Manifest

/-- If the report on a package without a legacy document names no missing file, something is at
the end of every reference of a resource. It is a file of the package exactly if it is no folder
and the reference stays inside, as it does if it never goes back; only of documents that are read
it is known to be a file. -/
theorem validate_found {v : Validator} {fs : FileSystem} {p : Path} {options : Option Options}
    {site : Site} {manifest : Element} (hsite : Inspects v.settings fs p site)
    (hlegacy : site.legacyDocument? = .ok none)
    (hread : site.readDocument (site.manifestPath v.settings.manifestName) = .ok (.ok manifest))
    (htag : manifest.tag = "manifest") (h : (v.validate fs p options).1.NoneMissing) :
    ∀ resource ∈ Manifest.resourcesOf manifest, ∀ href ∈ Manifest.references resource,
      ∃ e, Manifest.Found site resource href e := by
  intro resource hresource href hhref
  rw [validate_eq_check hsite hlegacy hread] at h
  exact Manifest.found_of_noneMissing hread htag h hresource hhref

section Loose

variable {site : Site} {manifest resource : Element} {manifestPath : Path} {href : String}
  {e : Entry}

/-- No file is missing of a resource without documents whose one reference leads somewhere. -/
lemma noneMissing_of_lookup (hread : site.readDocument manifestPath = .ok (.ok manifest))
    (htag : manifest.tag = "manifest") (hone : Manifest.resourcesOf manifest = [resource])
    (hkind : Manifest.kindOf resource = none)
    (habsences : Manifest.absences site resource =
      Manifest.complaints site "Resource main file not found" [href])
    (hreferences : Manifest.references resource = [href])
    (h : site.files.lookup (resolve site.root href) = .ok e) :
    (Outcome.ofCheck (Manifest.check site manifestPath)).report.NoneMissing := by
  have hcheckable : Manifest.Checkable site resource := by
    refine Manifest.checkable_of_kindOf_none hkind ?_
    rw [hreferences, List.forall_mem_singleton, Manifest.Answers, h]
    simp
  have hresult : (Manifest.check site manifestPath).result = .ok () :=
    (Manifest.check_result_iff hread htag).mpr (by rwa [hone, List.forall_mem_singleton])
  have hpresent : Manifest.isPresent site href = true := Manifest.isPresent_iff.mpr ⟨e, h⟩
  have hremarks : Manifest.remarks site resource = [] := by
    rw [Manifest.remarks, habsences, Manifest.checkDocuments, hkind, Manifest.complaints_cons,
      hpresent]
    rfl
  have herrors : ∀ message, isDuplicateEntry message = false →
      message ∉ (Outcome.ofCheck (Manifest.check site manifestPath)).report.errors := by
    intro message hdup hmem
    rw [Manifest.report_of_result hread htag hresult, Report.finish_errors,
      Registry.mem_errors_takeAll hdup, Manifest.error_mem_manifestFindings, hone,
      Manifest.allRemarks, List.flatMap_singleton, hremarks, List.append_nil] at hmem
    rcases hmem with hmem | hmem
    · exact List.not_mem_nil hmem
    · rw [Manifest.registration, hkind] at hmem
      simp at hmem
  refine ⟨fun text => ?complete, fun href => ?main, fun href => ?further⟩
  case complete =>
    exact herrors _ (isDuplicateEntry_of_opens (.append (.ofList 'V' 'a' _) _) (by decide))
  case main =>
    exact herrors _ (isDuplicateEntry_of_opens (.append (.ofList 'R' 'e' _) _) (by decide))
  case further =>
    exact herrors _ (isDuplicateEntry_of_opens (.append (.ofList 'M' 'i' _) _) (by decide))

end Loose

/-- A package with a manifest and a further entry. -/
def looseEntries (manifest : List UInt8) (e : Entry) : List (String × Entry) :=
  [("imsmanifest.xml", .file manifest), ("d", e)]

/-- In the report on a package with a manifest no file of a resource is missing that has a
reference. -/
def Accepted (manifest : List UInt8) (e : Entry) (href : String) : Prop :=
  ∃ root resource, Inspects defaultValidator.settings (packageFiles [] (looseEntries manifest e))
      ⟨0, ["q"]⟩ (packageSite (looseEntries manifest e)) ∧
    (packageSite (looseEntries manifest e)).legacyDocument? = .ok none ∧
    (packageSite (looseEntries manifest e)).readDocument
      ((packageSite (looseEntries manifest e)).manifestPath
        defaultValidator.settings.manifestName) = .ok (.ok root) ∧
    root.tag = "manifest" ∧ resource ∈ Manifest.resourcesOf root ∧
    href ∈ Manifest.references resource ∧
    (defaultValidator.validate (packageFiles [] (looseEntries manifest e))
      ⟨0, ["q"]⟩ none).1.NoneMissing

lemma accepted_of_lookup {manifest : List UInt8} {e found : Entry} {href : String}
    (he : ∀ content, e = .file content → ∀ root, documentOf content = .ok root →
      root.tag ≠ Legacy.rootTag)
    (houtline : Manifest.outline manifest = some ("manifest", [⟨none, some href, []⟩]))
    (h : (packageSite (looseEntries manifest e)).files.lookup
      (resolve (packageSite (looseEntries manifest e)).root href) = .ok found) :
    Accepted manifest e href := by
  have hnames : (looseEntries manifest e).map Prod.fst = ["imsmanifest.xml", "d"] := rfl
  have hadmissible : Path.Admissible ["imsmanifest.xml", "d"] := by
    unfold Path.Admissible
    decide
  have hother : ∀ n content, (n, .file content) ∈ looseEntries manifest e → content = manifest ∨
      ∀ root, documentOf content = .ok root → root.tag ≠ Legacy.rootTag := by
    intro n content hmem
    simp only [looseEntries, List.mem_cons, Prod.mk.injEq, Entry.file.injEq, List.not_mem_nil,
      or_false] at hmem
    rcases hmem with ⟨-, hcontent⟩ | ⟨-, hcontent⟩
    · exact .inl hcontent
    · exact .inr (he content hcontent.symm)
  obtain ⟨root, hlegacy, hread, htag, hresources⟩ :=
    manifest_of_outline (looseEntries manifest e) List.mem_cons_self (by rw [hnames]; decide)
      (by rw [hnames]; exact hadmissible) hother houtline
  obtain ⟨resource, hone, hkind, habsences, hreferences⟩ :=
    Manifest.single_of_summary (packageSite (looseEntries manifest e)) hresources
  have hnone : Manifest.kindOf resource = none := by
    rw [hkind]
    decide
  refine ⟨root, resource, inspects_packageFiles _, hlegacy, hread, htag,
    hone ▸ List.mem_singleton.mpr rfl, hreferences ▸ List.mem_singleton.mpr rfl, ?_⟩
  rw [validate_eq_check (inspects_packageFiles _) hlegacy hread]
  exact noneMissing_of_lookup hread htag hone hnone habsences hreferences h

lemma resolve_loose (entries : List (String × Entry)) :
    resolve (packageSite entries).root "d" = ⟨0, ["q", "d"]⟩ := by
  have hnames : referenceNames "d" = ["d"] := by decide +kernel
  rw [resolve, hnames]
  rfl

theorem validate_present_file :
    Manifest.Contained (packageSite (looseEntries looseManifest (.file []))) "d" := by
  have hbroken : (documentOf []).toOption.isNone = true := by decide +kernel
  have hlookup : (packageSite (looseEntries looseManifest (.file []))).files.lookup
      (resolve (packageSite (looseEntries looseManifest (.file []))).root "d") =
        .ok (.file []) := by
    rw [resolve_loose]
    rfl
  have hnone : ∀ content, Entry.file [] = .file content → ∀ root, documentOf content = .ok root →
      root.tag ≠ Legacy.rootTag := by
    intro content hcontent root hroot
    obtain rfl : [] = content := Entry.file.inj hcontent
    rw [hroot] at hbroken
    cases hbroken
  obtain ⟨root, resource, hsite, hlegacy, hread, htag, hresource, hreference, hmissing⟩ :=
    accepted_of_lookup hnone outline_looseManifest hlookup
  obtain ⟨e, hfound⟩ := validate_found hsite hlegacy hread htag hmissing resource hresource "d"
    hreference
  obtain rfl : .file [] = e := Except.ok.inj (hlookup.symm.trans hfound.leads)
  have hinward : LeadsInward "d" := by
    unfold LeadsInward
    decide +kernel
  exact hfound.contained.mpr ⟨rfl, hfound.inward hinward⟩

/-- A manifest with one resource, of which the main file is named outside the package. -/
def strayManifest : List UInt8 :=
  Text.Utf8.encode "<manifest><resources><resource href=\"../o\"/></resources></manifest>".toList

lemma outline_strayManifest :
    Manifest.outline strayManifest = some ("manifest", [⟨none, some "../o", []⟩]) := by
  decide +kernel

/-- Accepted are a folder in the place of a file and a file beside the package. -/
theorem validate_not_contained :
    (Accepted looseManifest (.folder []) "d" ∧
      ¬Manifest.Contained (packageSite (looseEntries looseManifest (.folder []))) "d") ∧
    Accepted strayManifest (.folder []) "../o" ∧
      ¬Manifest.Contained (packageSite (looseEntries strayManifest (.folder []))) "../o" := by
  have hfolder : ∀ content, Entry.folder [] = .file content → ∀ root,
      documentOf content = .ok root → root.tag ≠ Legacy.rootTag := by simp
  have hd : (packageSite (looseEntries looseManifest (.folder []))).files.lookup
      (resolve (packageSite (looseEntries looseManifest (.folder []))).root "d") =
        .ok (.folder []) := by
    rw [resolve_loose]
    rfl
  have hnames : referenceNames "../o" = ["..", "o"] := by decide +kernel
  have ho : (packageSite (looseEntries strayManifest (.folder []))).files.lookup
      (resolve (packageSite (looseEntries strayManifest (.folder []))).root "../o") =
        .ok (.file []) := by
    rw [resolve, hnames]
    rfl
  refine ⟨⟨accepted_of_lookup hfolder outline_looseManifest hd, fun hcontained => ?_⟩,
    accepted_of_lookup hfolder outline_strayManifest ho, fun hcontained => ?_⟩
  · cases ((Manifest.contained_iff hd).mp hcontained).1
  · have hinside := ((Manifest.contained_iff ho).mp hcontained).2
    rw [Manifest.StaysInside, hnames] at hinside
    revert hinside
    decide

end QuizPreflight.Package
