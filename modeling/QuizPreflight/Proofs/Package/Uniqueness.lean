import QuizPreflight.Proofs.Markup.Nesting
import QuizPreflight.Proofs.Package.Dispatch
import QuizPreflight.Proofs.Package.Registration
import QuizPreflight.Proofs.Package.Relocation

/-!
# Identifiers over a whole package

A check by a manifest visits the manifest, its resources, the documents of items and tests and the
sections of tests at any depth. Their identifiers are all held against each other: each one beyond
the first of its kind is reported, in whatever document it stands. Sections nest without a bound:
no limit is set here to how deep calls may be nested.
-/
namespace QuizPreflight.Package

open Markup

namespace Manifest

/-! ### The elements that are visited -/

/-- The document at a path, where there is one. -/
def documentAt? (site : Site) (p : Path) : Option Element :=
  match site.readDocument p with
  | .ok (.ok root) => some root
  | _ => none

/-- There is something under a reference. -/
def isPresent (site : Site) (href : String) : Bool :=
  match site.exists? site.root href with
  | .ok found => found
  | .error _ => false

/-- The references of a resource: to its main file and to its further files. -/
def references (resource : Element) : List String :=
  (resource.attribute? "href").toList ++
    (resource.childrenNamed "file").filterMap (·.attribute? "href")

/-- The documents that are read for a resource, each path once. -/
def checkedDocuments (site : Site) (resource : Element) : List Element :=
  (distinctDocuments site.root [] ((references resource).filter (isPresent site))).filterMap
    fun href => documentAt? site (resolve site.root href)

/-- The elements of a document that carry identifiers: its root, and all sections of a test. -/
def visitedIn (kind : ResourceKind) (root : Element) : List Element :=
  root :: match kind with
  | .item => []
  | .test => (root.childrenNamed "testPart").flatMap fun part =>
      Element.nestedAmong "assessmentSection" part.children

/-- The elements that are visited for a resource. -/
def visitedBy (site : Site) (resource : Element) : List Element :=
  resource :: match kindOf? ((resource.attribute? "type").getD "") with
  | none => []
  | some kind =>
    ((checkedDocuments site resource).filter (·.tag == kind.rootTag)).flatMap (visitedIn kind)

/-- The elements that are visited for a manifest. -/
def visited (site : Site) (manifestPath : Path) : List Element :=
  match documentAt? site manifestPath with
  | none => []
  | some manifest =>
    if manifest.tag = "manifest" then
      manifest :: (resourcesOf manifest).flatMap (visitedBy site)
    else []

def identifiersOf (es : List Element) : List String := es.filterMap (·.attribute? "identifier")

lemma identifiersOf_append (es es' : List Element) :
    identifiersOf (es ++ es') = identifiersOf es ++ identifiersOf es' := List.filterMap_append

lemma identifiersOf_cons (e : Element) (es : List Element) :
    identifiersOf (e :: es) = (e.attribute? "identifier").toList ++ identifiersOf es := by
  cases h : e.attribute? "identifier" <;> simp [identifiersOf, h]

lemma identifiersOf_flatMap {α : Type} (as : List α) (f : α → List Element) :
    identifiersOf (as.flatMap f) = as.flatMap fun a => identifiersOf (f a) := by
  simp only [identifiersOf, List.filterMap_flatMap]

/-- Just the paths of documents are checked that some reference leads to. -/
theorem mem_paths_distinctDocuments {root p : Path} {seen : List Path} {refs : List String} :
    p ∈ (distinctDocuments root seen refs).map (resolve root) ↔
      p ∉ seen ∧ ∃ href ∈ refs, isDocumentName href = true ∧ resolve root href = p := by
  induction refs generalizing seen with
  | nil => simp [distinctDocuments]
  | cons ref refs ih =>
    rw [distinctDocuments]
    by_cases hskip : isDocumentName ref = true ∧ resolve root ref ∉ seen
    · obtain ⟨hdocument, hnew⟩ := hskip
      rw [if_neg (by simp [hdocument, hnew]), List.map_cons, List.mem_cons, ih]
      by_cases hp : p = resolve root ref
      · subst hp
        simp [hdocument, hnew]
      · simp [hp, Ne.symm hp]
    · rw [if_pos (by simpa [or_iff_not_imp_left] using hskip), ih]
      refine and_congr_right fun hp => ?_
      rw [List.exists_mem_cons_iff]
      refine (or_iff_right ?_).symm
      rintro ⟨hdocument, rfl⟩
      exact hskip ⟨hdocument, hp⟩

theorem nodup_paths_distinctDocuments (root : Path) (seen : List Path) (refs : List String) :
    ((distinctDocuments root seen refs).map (resolve root)).Nodup := by
  induction refs generalizing seen with
  | nil => exact List.nodup_nil
  | cons ref refs ih =>
    rw [distinctDocuments]
    split
    · exact ih seen
    · rw [List.map_cons, List.nodup_cons]
      refine ⟨fun hmem => ?_, ih _⟩
      exact (mem_paths_distinctDocuments.mp hmem).1 List.mem_cons_self

end Manifest

/-! ### Identifiers that a check brings -/

namespace Check

variable {α β : Type}

/-- The identifiers among the findings of a check that comes to its end. -/
def Brings (c : Check α) (ids : List String) : Prop :=
  ∀ a, c.result = .ok a → identifiers c.findings = ids

namespace Brings

lemma done (a : α) : (done a).Brings [] := fun _ _ => rfl

lemma look (r : Except FileError α) : (look r).Brings [] := fun _ _ => rfl

lemma report (fs : List Finding) : (report fs).Brings (identifiers fs) := fun _ _ => rfl

lemma report_error (message : String) : (Check.report [.error message]).Brings [] :=
  fun _ _ => rfl

theorem bind {c : Check α} {f : α → Check β} {ids ids' : List String} (hc : c.Brings ids)
    (hf : ∀ a, c.result = .ok a → (f a).Brings ids') : (c >>= f).Brings (ids ++ ids') := by
  intro b hb
  obtain ⟨a, ha, hfa⟩ := bind_result_eq_ok_iff.mp hb
  rw [bind_findings ha, identifiers_append, hc a ha, hf a ha b hfa]

lemma bind_nil {c : Check α} {f : α → Check β} {ids : List String} (hc : c.Brings [])
    (hf : ∀ a, c.result = .ok a → (f a).Brings ids) : (c >>= f).Brings ids :=
  bind hc hf

theorem each {f : α → Check Unit} {as : List α} {ids : α → List String}
    (h : ∀ a ∈ as, (f a).Brings (ids a)) : (each f as).Brings (as.flatMap ids) := by
  induction as with
  | nil => exact done ()
  | cons a as ih =>
    rw [List.flatMap_cons]
    exact bind (h a List.mem_cons_self) fun _ _ => ih fun b hb => h b (List.mem_cons_of_mem _ hb)

lemma each_nil {f : α → Check Unit} {as : List α} (h : ∀ a ∈ as, (f a).Brings []) :
    (Check.each f as).Brings [] := by
  have heach := each h
  rwa [List.flatMap_eq_nil_iff.mpr fun _ _ => rfl] at heach

theorem filter {test : α → Check Bool} {as : List α} (h : ∀ a, (test a).Brings []) :
    (filter test as).Brings [] := by
  induction as with
  | nil => exact done []
  | cons a as ih => exact bind_nil (h a) fun _ _ => bind_nil ih fun _ _ => done _

end Brings

/-- What a filter keeps is told by what its test comes to. -/
lemma filter_result {test : α → Check Bool} {keeps : α → Bool}
    (h : ∀ a b, (test a).result = .ok b → b = keeps a) {as kept : List α}
    (hkept : (Check.filter test as).result = .ok kept) : kept = as.filter keeps := by
  induction as generalizing kept with
  | nil => exact (Except.ok.inj hkept).symm
  | cons a as ih =>
    obtain ⟨b, hb, hrest⟩ := bind_result_eq_ok_iff.mp hkept
    obtain ⟨rest, hr, hdone⟩ := bind_result_eq_ok_iff.mp hrest
    obtain rfl := h a b hb
    obtain rfl := ih hr
    have hkeep : (if keeps a then a :: as.filter keeps else as.filter keeps) = kept :=
      Except.ok.inj hdone
    rw [← hkeep, List.filter_cons]

end Check

namespace Manifest

open Check

variable {site : Site} {href : String}

lemma brings_existsUnder (site : Site) (first second : Path) (href : String) :
    (existsUnder site first second href).Brings [] := by
  unfold existsUnder
  refine .bind_nil (.look _) fun found _ => ?_
  split
  · exact .done _
  · exact .look _

lemma brings_checkImage (site : Site) (href src : String) :
    (checkImage site href src).Brings [] := by
  unfold checkImage
  split
  · refine .bind_nil (brings_existsUnder _ _ _ _) fun found _ => ?_
    split
    · exact .report_error _
    · exact .done _
  · exact .done _

lemma identifiers_cardinalityFindings (declarations : List Element) (href : String) (e : Element) :
    identifiers (cardinalityFindings declarations href e) = [] := by
  unfold cardinalityFindings
  split
  · split
    · rfl
    · dsimp only
      split
      · rfl
      · exact identifiers_when_error
  · rfl

lemma identifiers_gradingFindings (item : Element) (declarations : List Element) (href : String) :
    identifiers (gradingFindings item declarations href) = [] := by
  simp [gradingFindings]

lemma identifiers_itemFindings (item : Element) (href : String) :
    identifiers (itemFindings item href) = [] := by
  have hunsupported : ∀ (body : Option Element) (tag : String),
      identifiers ((inBody body tag).map fun _ =>
        .error s!"Unsupported Canvas interaction '{tag}' in {href}") = [] := by
    intro body tag
    refine identifiers_eq_nil fun f hf => ?_
    obtain ⟨e, -, rfl⟩ := List.mem_map.mp hf
    rfl
  unfold itemFindings
  dsimp only
  simp only [identifiers_append, identifiers_when_warning, identifiers_contentFindings,
    identifiers_flatMap, identifiers_cardinalityFindings, hunsupported, List.nil_append,
    List.append_eq_nil_iff, List.flatMap_eq_nil_iff, implies_true, and_true, true_and]
  split
  · rfl
  · exact identifiers_gradingFindings _ _ _

lemma brings_checkItem (site : Site) (item : Element) (href : String) :
    (checkItem site item href).Brings [] := by
  have hreport : (Check.report (itemFindings item href)).Brings [] :=
    fun _ _ => identifiers_itemFindings item href
  unfold checkItem
  exact .bind_nil hreport fun _ _ => .each_nil fun src _ => brings_checkImage _ _ _

lemma brings_checkItemReference (site : Site) (folder : Path) (ref : Element) :
    (checkItemReference site folder ref).Brings [] := by
  unfold checkItemReference
  split
  · exact .done _
  · refine .bind_nil (brings_existsUnder _ _ _ _) fun found _ => ?_
    split
    · exact .report_error _
    · exact .done _

/-- A registration brings the identifier of its element. -/
lemma brings_registration (e : Element) (source : String) :
    (Check.report [.identifier (e.attribute? "identifier") source]).Brings
      (e.attribute? "identifier").toList := by
  intro _ _
  rw [Check.report, identifiers_cons, Finding.brings_attribute, identifiers_nil, List.append_nil]

mutual

theorem brings_checkSection (site : Site) (href : String) (folder : Path) : ∀ e : Element,
    (checkSection site href folder e).Brings
      (identifiersOf (Element.nested "assessmentSection" e))
  | .mk tag attributes text children tail => by
    have hinner := brings_checkSections site href folder children
    have hrefs : (Check.each (checkItemReference site folder)
        ((Element.mk tag attributes text children tail).childrenNamed "assessmentItemRef")).Brings
          [] := .each_nil fun ref _ => brings_checkItemReference _ _ _
    rw [checkSection, Element.nested, identifiersOf_cons]
    exact .bind (brings_registration _ _) fun _ _ => .bind_nil hrefs fun _ _ => hinner

theorem brings_checkSections (site : Site) (href : String) (folder : Path) : ∀ es : List Element,
    (checkSections site href folder es).Brings
      (identifiersOf (Element.nestedAmong "assessmentSection" es))
  | [] => .done _
  | .mk tag attributes text children tail :: rest => by
    have hrest := brings_checkSections site href folder rest
    have htag : (Element.mk tag attributes text children tail).tag = tag := rfl
    rw [checkSections, Element.nestedAmong, identifiersOf_append, htag]
    by_cases hsection : (tag == "assessmentSection") = true
    · rw [if_pos hsection, if_pos hsection]
      exact .bind (brings_checkSection site href folder _) fun _ _ => hrest
    · rw [if_neg hsection, if_neg hsection]
      exact hrest

end

theorem brings_checkTest (site : Site) (test : Element) (href : String) :
    (checkTest site test href).Brings (identifiersOf ((test.childrenNamed "testPart").flatMap
      fun part => Element.nestedAmong "assessmentSection" part.children)) := by
  rw [identifiersOf_flatMap]
  exact .each fun part _ => brings_checkSections _ _ _ _

lemma brings_readResource (site : Site) (href : String) : (readResource site href).Brings [] := by
  unfold readResource
  refine .bind_nil (.look _) fun d _ => ?_
  cases d with
  | ok e => exact .done _
  | error f => exact .bind_nil (.report_error _) fun _ _ => .done _

lemma readResource_result {found : Option Element}
    (h : (readResource site href).result = .ok found) :
    found = documentAt? site (resolve site.root href) := by
  obtain ⟨d, hd, hrest⟩ := bind_result_eq_ok_iff.mp h
  have hread : site.readDocument (resolve site.root href) = .ok d := hd
  cases d with
  | ok e =>
    have hfound : some e = found := Except.ok.inj hrest
    rw [documentAt?, hread, ← hfound]
  | error f =>
    have hfound : none = found := Except.ok.inj hrest
    rw [documentAt?, hread, ← hfound]

/-- A document brings identifiers if it is of the kind that its resource is of. -/
theorem brings_checkFile (site : Site) (kind : ResourceKind) (href : String) :
    (checkFile site kind href).Brings (identifiersOf
      (((documentAt? site (resolve site.root href)).toList.filter
        (·.tag == kind.rootTag)).flatMap (visitedIn kind))) := by
  unfold checkFile
  refine .bind_nil (brings_readResource site href) fun found hfound => ?_
  rw [← readResource_result hfound]
  cases found with
  | none => exact .done _
  | some root =>
    dsimp only
    by_cases htag : root.tag = kind.rootTag
    · have hone : ((some root).toList.filter (·.tag == kind.rootTag)).flatMap (visitedIn kind) =
          visitedIn kind root := by simp [htag]
      rw [hone, if_neg (by simpa using htag)]
      unfold visitedIn
      rw [identifiersOf_cons]
      refine .bind (brings_registration _ _) fun _ _ => ?_
      cases kind with
      | item => exact brings_checkItem _ _ _
      | test => exact brings_checkTest _ _ _
    · have hnone : ((some root).toList.filter (·.tag == kind.rootTag)).flatMap (visitedIn kind) =
          [] := by simp [htag]
      rw [hnone, if_pos (by simpa using htag)]
      exact .report_error _

lemma brings_present (site : Site) (complaint href : String) :
    (present site complaint href).Brings [] := by
  unfold present
  refine .bind_nil (.look _) fun found _ => ?_
  split
  · exact .done _
  · exact .bind_nil (.report_error _) fun _ _ => .done _

lemma present_result {complaint : String} {found : Bool}
    (h : (present site complaint href).result = .ok found) : found = isPresent site href := by
  obtain ⟨b, hb, hrest⟩ := bind_result_eq_ok_iff.mp h
  have hexists : site.exists? site.root href = .ok b := hb
  rw [isPresent, hexists]
  cases b with
  | true => exact (Except.ok.inj hrest).symm
  | false => exact (Except.ok.inj hrest).symm

lemma brings_files (site : Site) (kind : ResourceKind) (hrefs : List String) :
    (Check.each (checkFile site kind) hrefs).Brings (identifiersOf
      (((hrefs.filterMap fun href => documentAt? site (resolve site.root href)).filter
        (·.tag == kind.rootTag)).flatMap (visitedIn kind))) := by
  induction hrefs with
  | nil => exact .done ()
  | cons href hrefs ih =>
    have hsplit : ((href :: hrefs).filterMap fun href =>
        documentAt? site (resolve site.root href)) =
          (documentAt? site (resolve site.root href)).toList ++
            hrefs.filterMap fun href => documentAt? site (resolve site.root href) := by
      rw [List.filterMap_cons]
      cases documentAt? site (resolve site.root href) <;> rfl
    rw [hsplit, List.filter_append, List.flatMap_append, identifiersOf_append]
    exact .bind (brings_checkFile site kind href) fun _ _ => ih

theorem brings_checkResource (site : Site) (resource : Element) :
    (checkResource site resource).Brings (identifiersOf (visitedBy site resource)) := by
  unfold checkResource visitedBy
  rw [identifiersOf_cons]
  refine .bind ?registration fun _ _ =>
    .bind_nil (.filter fun href => brings_present _ _ href) fun main hmain =>
      .bind_nil (.filter fun href => brings_present _ _ href) fun files hfiles => ?documents
  case registration =>
    intro _ _
    rw [Check.report, identifiers_cons, Finding.brings_attribute]
    split <;> simp [identifiers_cons, Finding.brings]
  case documents =>
    have hpresent : main ++ files = (references resource).filter (isPresent site) := by
      rw [references, List.filter_append, filter_result (fun _ _ => present_result) hmain,
        filter_result (fun _ _ => present_result) hfiles]
    rw [hpresent]
    cases kindOf? ((resource.attribute? "type").getD "") with
    | none => exact .done _
    | some kind => exact brings_files _ _ _

theorem brings_check (site : Site) (manifestPath : Path) :
    (check site manifestPath).Brings (identifiersOf (visited site manifestPath)) := by
  unfold check
  refine .bind_nil (.report [.manifest]) fun _ _ => .bind_nil (.look _) fun d hd => ?_
  have hread : site.readDocument manifestPath = .ok d := hd
  unfold visited documentAt?
  rw [hread]
  cases d with
  | error f => exact .report_error _
  | ok manifest =>
    dsimp only
    by_cases htag : manifest.tag = "manifest"
    · rw [if_neg (by simpa using htag), if_pos htag, identifiersOf_cons, identifiersOf_flatMap]
      refine .bind ?_ fun _ _ => ?_
      · intro _ _
        rw [Check.report, identifiers_cons, Finding.brings_attribute]
        simp [identifiers_cons, Finding.brings]
      · have hresources := Brings.each fun resource (_ : resource ∈ resourcesOf manifest) =>
          brings_checkResource site resource
        -- the warning at the end brings no identifier
        rw [← List.append_nil (List.flatMap _ _)]
        refine .bind hresources fun _ _ => ?_
        split
        · exact .report [.warning _]
        · exact .done _
    · rw [if_pos (by simpa using htag), if_neg htag]
      exact .report_error _

end Manifest

/-- The identifiers of all elements that a check by the manifest visits. -/
def visitedIdentifiers (site : Site) (manifestName : String) : List String :=
  Manifest.identifiersOf (Manifest.visited site (site.manifestPath manifestName))

lemma errors_ofCheck {c : Check Unit} (h : c.result = .ok ()) :
    (Outcome.ofCheck c).report.errors = (Registry.empty.takeAll c.findings).report.errors := by
  rw [Outcome.ofCheck, h]
  dsimp only [Outcome.report]
  rw [Report.finish_errors]

/-- A validation by a manifest that comes to its end reports as many repetitions as there are
identifiers beyond the distinct ones, over all documents that it visits. Without an error they all
differ. -/
theorem validate_duplicates {v : Validator} {fs : FileSystem} {p : Path}
    {options : Option Options} {site : Site} (hsite : Inspects v.settings fs p site)
    (hlegacy : site.legacyDocument? = .ok none)
    (hmanifest : site.files.exists? (site.manifestPath v.settings.manifestName) = .ok true)
    (hcomplete : (v.validate fs p options).1.Complete) :
    let ids := visitedIdentifiers site v.settings.manifestName
    (v.validate fs p options).1.errors.countP isDuplicateEntry = ids.length - ids.toFinset.card ∧
      ((v.validate fs p options).1.errors = [] → ids.Nodup) := by
  intro ids
  obtain ⟨c, hc⟩ : ∃ c, Manifest.check site (site.manifestPath v.settings.manifestName) = c :=
    ⟨_, rfl⟩
  have hreport : (v.validate fs p options).1 = (Outcome.ofCheck c).report := by
    rw [v.validate_report, run_of_inspects hsite, checkSite_of_manifest hlegacy hmanifest, hc]
  have hplain : c.Plain := hc ▸ Manifest.plain_check site _
  have hbrings : c.Brings ids := hc ▸ Manifest.brings_check site _
  rw [hreport] at hcomplete ⊢
  have hresult := result_of_complete hcomplete
  rw [errors_ofCheck hresult, ← hbrings () hresult]
  refine ⟨Registry.duplicates_takeAll_empty hplain, fun hnone => ?_⟩
  exact (Registry.errors_takeAll_empty_eq_nil_iff.mp hnone).2

/-- A manifest with one resource, both under one identifier. -/
def repeatedManifest : List UInt8 :=
  [60, 109, 97, 110, 105, 102, 101, 115, 116, 32, 105, 100, 101, 110, 116, 105, 102, 105, 101,
   114, 61, 34, 97, 34, 62, 60, 114, 101, 115, 111, 117, 114, 99, 101, 115, 62, 60, 114, 101,
   115, 111, 117, 114, 99, 101, 32, 105, 100, 101, 110, 116, 105, 102, 105, 101, 114, 61, 34,
   97, 34, 47, 62, 60, 47, 114, 101, 115, 111, 117, 114, 99, 101, 115, 62, 60, 47, 109, 97, 110,
   105, 102, 101, 115, 116, 62]

def repeatedFiles : FileSystem :=
  ⟨.folder [("tmp", .folder []), ("q", .folder [("imsmanifest.xml", .file repeatedManifest)])], [],
    ⟨1, ["tmp"]⟩⟩

/-- What the validation of that package looks into. -/
def repeatedSite : Site := ⟨repeatedFiles.put ["tmp", "qti-validate-0"] (.folder []), ⟨0, ["q"]⟩⟩

theorem validate_repeated :
    let ids := visitedIdentifiers repeatedSite defaultValidator.settings.manifestName
    ids.length - ids.toFinset.card = 1 := by
  have herrors : (defaultValidator.validate repeatedFiles ⟨0, ["q"]⟩ none).1.errors =
      ["Duplicate identifier used: 'a' in Resource"] := by decide +kernel
  have hsite : Inspects defaultValidator.settings repeatedFiles ⟨0, ["q"]⟩ repeatedSite := by
    have harea : areaOf Settings.default repeatedFiles = ⟨1, ["tmp", "qti-validate-0"]⟩ := by
      decide
    refine .folder rfl ?_ rfl
    rw [show defaultValidator.settings = Settings.default from rfl, harea]
    rfl
  have hlegacy : repeatedSite.legacyDocument? = .ok none := by
    have hnone : repeatedSite.legacyDocument?.toOption.map Option.isNone = some true := by
      decide +kernel
    cases hdocument : repeatedSite.legacyDocument? with
    | error e =>
      rw [hdocument] at hnone
      cases hnone
    | ok root =>
      rw [hdocument] at hnone
      cases root with
      | none => rfl
      | some root => cases hnone
  have hmanifest : repeatedSite.files.exists?
      (repeatedSite.manifestPath defaultValidator.settings.manifestName) = .ok true := by
    have hpath : repeatedSite.manifestPath defaultValidator.settings.manifestName =
        ⟨0, ["q", "imsmanifest.xml"]⟩ := by decide
    have hlookup : repeatedSite.files.lookup ⟨0, ["q", "imsmanifest.xml"]⟩ =
        .ok (.file repeatedManifest) := rfl
    rw [hpath]
    exact FileSystem.test_of_lookup hlookup _
  have hcomplete : (defaultValidator.validate repeatedFiles ⟨0, ["q"]⟩ none).1.Complete := by
    intro text hmem
    rw [herrors] at hmem
    exact validationError_ne text (.ofList _ _ _) (by decide) (List.mem_singleton.mp hmem)
  obtain ⟨hcount, -⟩ := validate_duplicates hsite hlegacy hmanifest hcomplete
  rw [herrors] at hcount
  exact hcount.symm.trans (by decide)

end QuizPreflight.Package
