import QuizPreflight.Proofs.Package.Completion

/-!
# The documents of a resource that are checked

A file of a resource is read as often as there are different paths to it among the references that
are named as documents are. References that never go back to the folder above differ in their
paths only if they lead to different places. A reference with a query has another name than the
file that it leads to, and a way through a folder and back is another path.
-/
namespace QuizPreflight.Package

open FileSystem Markup

namespace Manifest

variable {site : Site} {resource manifest : Element} {place : List String} {p : Path}
  {content : List UInt8} {href : String}

/-- A path leads to a place. -/
def leadsTo (site : Site) (place : List String) (p : Path) : Bool :=
  match site.files.locate p with
  | .ok q => q == place
  | .error _ => false

lemma leadsTo_iff : leadsTo site place p = true ↔ site.files.locate p = .ok place := by
  unfold leadsTo
  cases site.files.locate p <;> simp

/-- How often what is at a place is read and checked for a resource. -/
def timesChecked (site : Site) (resource : Element) (place : List String) : Nat :=
  (checkedReferences site resource).countP fun href => leadsTo site place (resolve site.root href)

/-- The paths to a place among the references that are named as documents are. -/
def pathsTo (site : Site) (resource : Element) (place : List String) : Finset Path :=
  (((references resource).filter isDocumentName).map (resolve site.root)).toFinset.filter
    (leadsTo site place ·)

lemma mem_pathsTo : p ∈ pathsTo site resource place ↔ site.files.locate p = .ok place ∧
    ∃ href ∈ references resource, isDocumentName href = true ∧ resolve site.root href = p := by
  simp only [pathsTo, Finset.mem_filter, List.mem_toFinset, List.mem_map, List.mem_filter,
    leadsTo_iff, and_assoc, and_comm]

/-- A file is checked once for each path. -/
theorem timesChecked_eq_card (h : site.files.root.get? place = some (.file content)) :
    timesChecked site resource place = (pathsTo site resource place).card := by
  have hpaths : timesChecked site resource place =
      (((checkedReferences site resource).map (resolve site.root)).filter
        (leadsTo site place)).length := by
    rw [timesChecked, ← List.countP_eq_length_filter, List.countP_map]
    rfl
  have hnodup : (((checkedReferences site resource).map (resolve site.root)).filter
      (leadsTo site place)).Nodup := (nodup_paths_distinctDocuments _ _ _).filter _
  rw [hpaths, ← List.toFinset_card_of_nodup hnodup]
  congr 1
  ext p
  rw [List.mem_toFinset, List.mem_filter, leadsTo_iff, and_comm, mem_pathsTo]
  -- a path that leads to the file is present, so that no reference to it was dropped before
  refine and_congr_right fun hlocate => ?_
  have hlookup : site.files.lookup p = .ok (.file content) := lookup_eq_ok_iff.mpr ⟨_, hlocate, h⟩
  rw [checkedReferences, mem_paths_distinctDocuments, and_iff_right List.not_mem_nil]
  constructor
  · rintro ⟨href, hmem, hname⟩
    exact ⟨href, (List.mem_filter.mp hmem).1, hname⟩
  · rintro ⟨href, hmem, hname, rfl⟩
    exact ⟨href, List.mem_filter.mpr ⟨hmem, isPresent_iff.mpr ⟨_, hlookup⟩⟩, hname, rfl⟩

lemma isDocumentName_of_suffix {name : String} (h : isDocumentName name = true)
    (hends : name.toList <:+ href.toList) : isDocumentName href = true := by
  obtain ⟨front, hfront⟩ := hends
  rw [isDocumentName, List.isSuffixOf_iff_suffix] at h ⊢
  rw [← hfront, Text.lower, List.flatMap_append]
  exact h.trans (List.suffix_append _ _)

/-- References that lead inward and to one place are one path. -/
lemma resolve_eq_of_inward {href' : String} (h : LeadsInward href) (h' : LeadsInward href')
    (hl : site.files.locate (resolve site.root href) = .ok place)
    (hl' : site.files.locate (resolve site.root href') = .ok place) :
    resolve site.root href = resolve site.root href' := by
  obtain ⟨-, -, hplace⟩ := admissible_of_locate h hl
  obtain ⟨-, -, hplace'⟩ := admissible_of_locate h' hl'
  have hnames : referenceNames href = referenceNames href' :=
    List.append_cancel_left (hplace.symm.trans hplace')
  rw [resolve, resolve, hnames]

/-- The documents of a resource are checked as its references say. -/
structure Covered (site : Site) (resource : Element) : Prop where
  /-- Each document is checked in the order of the references. -/
  findings : ∀ kind, kindOf resource = some kind → (checkDocuments site resource).findings =
    (checkedReferences site resource).flatMap fun href => (checkFile site kind href).findings
  times : ∀ place content, site.files.root.get? place = some (.file content) →
    timesChecked site resource place = (pathsTo site resource place).card
  /-- A file is checked exactly once if one path leads to it. -/
  once : ∀ place content, site.files.root.get? place = some (.file content) →
    (timesChecked site resource place = 1 ↔ ∃! p, site.files.locate p = .ok place ∧
      ∃ href ∈ references resource, isDocumentName href = true ∧ resolve site.root href = p)
  /-- This is so for a document if the references to it lead inward and end in its name. -/
  inward : ∀ place name content, site.files.root.get? (place ++ [name]) = some (.file content) →
    isDocumentName name = true →
    (∃ href ∈ references resource,
      site.files.locate (resolve site.root href) = .ok (place ++ [name])) →
    (∀ href ∈ references resource,
      site.files.locate (resolve site.root href) = .ok (place ++ [name]) →
        LeadsInward href ∧ name.toList <:+ href.toList) →
    timesChecked site resource (place ++ [name]) = 1

theorem covered_of_checkable (h : Checkable site resource) : Covered site resource := by
  have hdocuments : (checkDocuments site resource).result = .ok () :=
    (checkResource_result_eq_ok_iff.mp (checkResource_result_iff.mpr h)).2
  have honce : ∀ place content, site.files.root.get? place = some (.file content) →
      (timesChecked site resource place = 1 ↔ ∃! p, site.files.locate p = .ok place ∧
        ∃ href ∈ references resource,
          isDocumentName href = true ∧ resolve site.root href = p) := by
    intro place content hfile
    rw [timesChecked_eq_card hfile, Finset.card_eq_one, Finset.singleton_iff_unique_mem]
    simp only [mem_pathsTo]
  refine ⟨?findings, fun place content hfile => timesChecked_eq_card hfile, honce, ?inward⟩
  case findings =>
    intro kind hkind
    rw [checkDocuments, hkind] at hdocuments ⊢
    exact Check.each_findings hdocuments
  case inward =>
    intro place name content hfile hdocument hsome hall
    obtain ⟨href, hmem, hlocate⟩ := hsome
    obtain ⟨hinward, hends⟩ := hall href hmem hlocate
    have hname := isDocumentName_of_suffix hdocument hends
    refine (honce _ content hfile).mpr ⟨_, ⟨hlocate, href, hmem, hname, rfl⟩, ?_⟩
    rintro p ⟨hp, other, hother, -, rfl⟩
    exact resolve_eq_of_inward (hall other hother hp).1 hinward hp hlocate

end Manifest

/-- The report of a package without a legacy document is made of what is found of its resources in
their order, and the documents of each resource are checked as its references say. -/
theorem validate_covers {v : Validator} {fs : FileSystem} {p : Path} (options : Option Options)
    {site : Site} {manifest : Element} (hsite : Inspects v.settings fs p site)
    (hlegacy : site.legacyDocument? = .ok none)
    (hread : site.readDocument (site.manifestPath v.settings.manifestName) = .ok (.ok manifest))
    (htag : manifest.tag = "manifest")
    (h : ∀ resource ∈ Manifest.resourcesOf manifest, Manifest.Checkable site resource) :
    (v.validate fs p options).1 =
      (Registry.empty.takeAll (Manifest.manifestFindings site manifest)).report.finish ∧
    ∀ resource ∈ Manifest.resourcesOf manifest, Manifest.Covered site resource := by
  have hresult := (Manifest.check_result_iff hread htag).mpr h
  rw [validate_eq_check hsite hlegacy hread, Manifest.report_of_result hread htag hresult]
  exact ⟨rfl, fun resource hresource => Manifest.covered_of_checkable (h resource hresource)⟩

/-- An item without anything. -/
def bareItem : List UInt8 :=
  Text.Utf8.encode "<assessmentItem/>".toList

lemma documentOf_bareItem : ∃ root, documentOf bareItem = .ok root ∧
    root.tag = "assessmentItem" ∧ imageSources (Manifest.bodyHtml root) = [] := by
  have hread : (documentOf bareItem).toOption.map (fun root =>
      (root.tag, imageSources (Manifest.bodyHtml root))) = some ("assessmentItem", []) := by
    decide +kernel
  obtain ⟨root, hdoc, hparts⟩ := exists_of_toOption_map hread
  obtain ⟨htag, himages⟩ := Prod.mk.inj hparts
  exact ⟨root, hdoc, htag, himages⟩

/-- The item beside a manifest. -/
def itemEntries (manifest : List UInt8) : List (String × Entry) :=
  [("imsmanifest.xml", .file manifest), ("d.xml", .file bareItem)]

lemma manifest_of_itemEntries {content : List UInt8} {resources : List Manifest.Summary}
    (houtline : Manifest.outline content = some ("manifest", resources)) :
    ∃ manifest, (packageSite (itemEntries content)).legacyDocument? = .ok none ∧
      (packageSite (itemEntries content)).readDocument
        ((packageSite (itemEntries content)).manifestPath defaultValidator.settings.manifestName) =
          .ok (.ok manifest) ∧
      manifest.tag = "manifest" ∧
      (Manifest.resourcesOf manifest).map Manifest.summaryOf = resources := by
  have hnames : (itemEntries content).map Prod.fst = ["imsmanifest.xml", "d.xml"] := rfl
  have hadmissible : Path.Admissible ["imsmanifest.xml", "d.xml"] := by
    unfold Path.Admissible
    decide
  refine manifest_of_outline (itemEntries content) List.mem_cons_self (by rw [hnames]; decide)
    (by rw [hnames]; exact hadmissible) ?_ houtline
  intro n content' hmem
  simp only [itemEntries, List.mem_cons, Prod.mk.injEq, Entry.file.injEq, List.not_mem_nil,
    or_false] at hmem
  rcases hmem with ⟨-, rfl⟩ | ⟨-, rfl⟩
  · exact .inl rfl
  · obtain ⟨root, hdoc, htag, -⟩ := documentOf_bareItem
    refine .inr fun root' hroot' => ?_
    obtain rfl : root = root' := Except.ok.inj (hdoc.symm.trans hroot')
    rw [htag]
    decide

lemma locate_item (content : List UInt8) :
    (packageSite (itemEntries content)).files.locate ⟨0, ["q", "d.xml"]⟩ = .ok ["q", "d.xml"] := rfl

lemma get?_item (content : List UInt8) :
    (packageSite (itemEntries content)).files.root.get? ["q", "d.xml"] =
      some (.file bareItem) := rfl

theorem validate_item :
    ∃ manifest resource, resource ∈ Manifest.resourcesOf manifest ∧
      "d.xml" ∈ Manifest.references resource ∧
      Manifest.timesChecked (packageSite (itemEntries itemManifest)) resource
        ["q", "d.xml"] = 1 := by
  obtain ⟨manifest, hlegacy, hread, htag, hresources⟩ :=
    manifest_of_itemEntries outline_itemManifest
  obtain ⟨resource, hone, hkind, -, hreferences⟩ :=
    Manifest.single_of_summary (packageSite (itemEntries itemManifest)) hresources
  have hpath : resolve (packageSite (itemEntries itemManifest)).root "d.xml" =
      ⟨0, ["q", "d.xml"]⟩ := by decide +kernel
  have hlookup : (packageSite (itemEntries itemManifest)).files.lookup ⟨0, ["q", "d.xml"]⟩ =
      .ok (.file bareItem) := lookup_eq_ok_iff.mpr ⟨_, locate_item _, get?_item _⟩
  have hcheckable : Manifest.Checkable (packageSite (itemEntries itemManifest)) resource := by
    refine ⟨?answers, ?documents⟩
    case answers =>
      rw [hreferences, List.forall_mem_singleton, Manifest.Answers, hpath, hlookup]
      simp
    case documents =>
      intro kind hsome
      have hitem : Manifest.kindOf resource = some .item := by
        rw [hkind]
        decide
      obtain rfl : .item = kind := Option.some.inj (hitem.symm.trans hsome)
      rw [hreferences, List.forall_mem_singleton, hpath]
      refine fun _ _ => ⟨bareItem, hlookup, fun root hroot _ => ?_⟩
      obtain ⟨root', hdoc, -, himages⟩ := documentOf_bareItem
      obtain rfl : root' = root := Except.ok.inj (hdoc.symm.trans hroot)
      intro src hsrc
      rw [himages] at hsrc
      cases hsrc
  have hcovered := (validate_covers none (inspects_packageFiles _) hlegacy hread htag
    (by rwa [hone, List.forall_mem_singleton])).2 resource (hone ▸ List.mem_singleton.mpr rfl)
  refine ⟨manifest, resource, hone ▸ List.mem_singleton.mpr rfl,
    hreferences ▸ List.mem_singleton.mpr rfl, ?_⟩
  refine hcovered.inward ["q"] "d.xml" _ (get?_item _) (by decide) ⟨"d.xml", ?_, ?_⟩ ?_
  · rw [hreferences]
    exact List.mem_singleton.mpr rfl
  · rw [hpath]
    exact locate_item _
  · rw [hreferences, List.forall_mem_singleton]
    intro _
    unfold LeadsInward
    exact ⟨by decide +kernel, List.suffix_rfl⟩

/-- A manifest that names the item with a query. -/
def queryManifest : List UInt8 :=
  Text.Utf8.encode ("<manifest><resources>" ++
    "<resource type=\"imsqti_item_xmlv2p1\" href=\"d.xml?v\"/></resources></manifest>").toList

lemma outline_queryManifest : Manifest.outline queryManifest =
    some ("manifest", [⟨some "imsqti_item_xmlv2p1", some "d.xml?v", []⟩]) := by decide +kernel

/-- Under a reference with a query the item is not read. -/
theorem validate_queried_item :
    ∃ manifest resource, Inspects defaultValidator.settings
        (packageFiles [] (itemEntries queryManifest)) ⟨0, ["q"]⟩
        (packageSite (itemEntries queryManifest)) ∧
      (packageSite (itemEntries queryManifest)).legacyDocument? = .ok none ∧
      (packageSite (itemEntries queryManifest)).readDocument
        ((packageSite (itemEntries queryManifest)).manifestPath
          defaultValidator.settings.manifestName) = .ok (.ok manifest) ∧
      manifest.tag = "manifest" ∧ resource ∈ Manifest.resourcesOf manifest ∧
      Manifest.kindOf resource = some .item ∧ "d.xml?v" ∈ Manifest.references resource ∧
      (packageSite (itemEntries queryManifest)).files.locate
        (resolve (packageSite (itemEntries queryManifest)).root "d.xml?v") =
          .ok ["q", "d.xml"] ∧
      (packageSite (itemEntries queryManifest)).files.root.get? ["q", "d.xml"] =
        some (.file bareItem) ∧
      Manifest.timesChecked (packageSite (itemEntries queryManifest)) resource
        ["q", "d.xml"] = 0 := by
  obtain ⟨manifest, hlegacy, hread, htag, hresources⟩ :=
    manifest_of_itemEntries outline_queryManifest
  obtain ⟨resource, hone, hkind, -, hreferences⟩ :=
    Manifest.single_of_summary (packageSite (itemEntries queryManifest)) hresources
  have hitem : Manifest.kindOf resource = some .item := by
    rw [hkind]
    decide
  have hpath : resolve (packageSite (itemEntries queryManifest)).root "d.xml?v" =
      ⟨0, ["q", "d.xml"]⟩ := by decide +kernel
  refine ⟨manifest, resource, inspects_packageFiles _, hlegacy, hread, htag,
    hone ▸ List.mem_singleton.mpr rfl, hitem, hreferences ▸ List.mem_singleton.mpr rfl, ?_,
    get?_item _, ?_⟩
  · rw [hpath]
    exact locate_item _
  · rw [Manifest.timesChecked_eq_card (get?_item _), Finset.card_eq_zero,
      Finset.eq_empty_iff_forall_notMem]
    intro p hp
    obtain ⟨-, href, hmem, hname, -⟩ := Manifest.mem_pathsTo.mp hp
    rw [hreferences] at hmem
    obtain rfl := List.mem_singleton.mp hmem
    revert hname
    decide

end QuizPreflight.Package
