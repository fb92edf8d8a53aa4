import QuizPreflight.Proofs.Package.Resource
import QuizPreflight.Proofs.Package.Security

/-!
# Checks that come to their end

The check of a package by its manifest reaches every resource if each resource refers to nothing
but what can be looked at: paths that are not too long and documents that are files. Missing
files and malformed documents are reported on the way. One path that is too long or one folder
in the place of a document ends the check, whatever resources are left. Documents nest without a
bound: no limit is set here to how deep calls may be nested, and none ends a check.
-/
namespace QuizPreflight.Package

open Markup Text

namespace Manifest

variable {site : Site} {kind : ResourceKind} {root resource manifest : Element} {href : String}
  {p folder : Path}

/-! ### Wording -/

/-- How the entries open that are made of a resource. -/
def resourceOpenings : List (Char × Char) :=
  ('S', 'e') :: ('T', 'e') :: ('I', 'n') :: ('R', 'e') :: itemOpenings

lemma itemOpenings_subset : itemOpenings ⊆ resourceOpenings :=
  fun _ h => List.mem_cons_of_mem _ (List.mem_cons_of_mem _ (List.mem_cons_of_mem _
    (List.mem_cons_of_mem _ h)))

lemma allWorded_itemFindings (item : Element) (href : String) :
    AllWorded resourceOpenings (itemFindings item href) := by
  obtain ⟨before, after, hsplit, hbefore, hafter⟩ := itemFindings_eq item href
  rw [hsplit, allWorded_append, allWorded_append]
  exact ⟨⟨hbefore.mono itemOpenings_subset, allWorded_securityRules (by decide) _ _ _⟩,
    hafter.mono itemOpenings_subset⟩

lemma worded_checkItem (site : Site) (item : Element) (href : String) :
    (checkItem site item href).Worded resourceOpenings := by
  unfold checkItem
  refine .bind (.report (allWorded_itemFindings item href)) fun _ => .each fun src _ => ?_
  exact (worded_checkImage site href src).mono itemOpenings_subset

lemma worded_checkItemReference (site : Site) (folder : Path) (ref : Element) :
    (checkItemReference site folder ref).Worded resourceOpenings := by
  unfold checkItemReference
  split
  · exact .done _
  · refine .bind (worded_existsUnder _ _ _ _) fun found => ?_
    split
    · apply Check.Worded.report_one
      exact Finding.worded_error (.append (.ofList _ _ _) _) (by decide)
    · exact .done _

mutual

lemma worded_checkSection (site : Site) (href : String) (folder : Path) :
    ∀ e : Element, (checkSection site href folder e).Worded resourceOpenings
  | .mk tag attributes text children tail => by
    rw [checkSection]
    exact .bind (.report_one trivial) fun _ =>
      .bind (.each fun ref _ => worded_checkItemReference _ _ ref) fun _ =>
        worded_checkSections site href folder children

lemma worded_checkSections (site : Site) (href : String) (folder : Path) :
    ∀ es : List Element, (checkSections site href folder es).Worded resourceOpenings
  | [] => .done _
  | .mk tag attributes text children tail :: rest => by
    rw [checkSections]
    dsimp only
    split
    · exact .bind (worded_checkSection site href folder _) fun _ =>
        worded_checkSections site href folder rest
    · exact worded_checkSections site href folder rest

end

lemma worded_readResource (site : Site) (href : String) :
    (readResource site href).Worded resourceOpenings := by
  unfold readResource
  refine .bind (.look _) fun found => ?_
  cases found with
  | ok e => exact .done _
  | error f =>
    refine .bind (.report_one ?_) fun _ => .done _
    exact Finding.worded_error (.append (.append (.append (.ofList _ _ _) _) _) _) (by decide)

lemma worded_checkFile (site : Site) (kind : ResourceKind) (href : String) :
    (checkFile site kind href).Worded resourceOpenings := by
  unfold checkFile
  refine .bind (worded_readResource _ _) fun found => ?_
  cases found with
  | none => exact .done _
  | some root =>
    dsimp only
    split
    · apply Check.Worded.report_one
      exact Finding.worded_error
        (.append (.append (.append (.append (.append (.ofList _ _ _) _) _) _) _) _) (by decide)
    · refine .bind (.report_one trivial) fun _ => ?_
      cases kind with
      | item => exact worded_checkItem _ _ _
      | test => exact .each fun part _ => worded_checkSections _ _ _ _

lemma allWorded_complaints {complaint : String} {c d : Char} (h : Opens c d complaint)
    (hmem : (c, d) ∈ resourceOpenings) (site : Site) (refs : List String) :
    AllWorded resourceOpenings ((complaints site complaint refs).map .error) := by
  rw [complaints, List.map_map]
  exact allWorded_map fun href _ => Finding.worded_error (.append (.append h _) _) hmem

lemma allWorded_remarks (site : Site) (resource : Element) :
    AllWorded resourceOpenings (remarks site resource) := by
  rw [remarks, absences, List.map_append, allWorded_append, allWorded_append]
  refine ⟨⟨?main, ?files⟩, ?documents⟩
  case main => exact allWorded_complaints (.ofList _ _ _) (by decide) _ _
  case files => exact allWorded_complaints (.ofList _ _ _) (by decide) _ _
  case documents =>
    unfold checkDocuments
    split
    · exact allWorded_nil
    · exact Check.Worded.each fun href _ => worded_checkFile _ _ _

/-! ### What can be looked at -/

/-- It can be told whether a reference leads somewhere from one of two folders; the second one
counts where nothing is found from the first. -/
def AnswersEither (site : Site) (first second : Path) (href : String) : Prop :=
  Answers site.files (resolve first href) ∧
    ((∃ e, site.files.lookup (resolve first href) = .ok e) ∨
      Answers site.files (resolve second href))

/-- What the document at a path refers to can be looked at: the images of the body of an item, and
the items of all sections of a test. -/
def Traceable (site : Site) (p : Path) (root : Element) : ResourceKind → Prop
  | .item => ∀ src ∈ imageSources (bodyHtml root), isLocalImage src = true →
      AnswersEither site (site.root.append ["items"]) site.root src
  | .test => ∀ part ∈ root.childrenNamed "testPart",
      ∀ e ∈ Element.nestedAmong "assessmentSection" part.children,
        ∀ ref ∈ e.childrenNamed "assessmentItemRef", ∀ href ∈ ref.attribute? "href",
          AnswersEither site site.root p.parent href

/-- A file is at a path, and what it refers to can be looked at if it is a document of a kind. -/
def Followable (site : Site) (kind : ResourceKind) (p : Path) : Prop :=
  ∃ content, site.files.lookup p = .ok (.file content) ∧
    ∀ root, documentOf content = .ok root → root.tag = kind.rootTag → Traceable site p root kind

/-- All that a resource refers to can be looked at: its references, and what those of them name
that lead to documents. -/
structure Checkable (site : Site) (resource : Element) : Prop where
  answers : ∀ href ∈ references resource, Answers site.files (resolve site.root href)
  documents : ∀ kind, kindOf resource = some kind → ∀ href ∈ references resource,
    (∃ e, site.files.lookup (resolve site.root href) = .ok e) → isDocumentName href = true →
      Followable site kind (resolve site.root href)

/-- Of a resource without documents nothing but its references is looked at. -/
lemma checkable_of_kindOf_none (hkind : kindOf resource = none)
    (h : ∀ href ∈ references resource, Answers site.files (resolve site.root href)) :
    Checkable site resource := by
  refine ⟨h, fun kind hsome => ?_⟩
  rw [hkind] at hsome
  cases hsome

lemma existsUnder_result_iff {first second : Path} :
    (∃ b, (existsUnder site first second href).result = .ok b) ↔
      AnswersEither site first second href := by
  have hsecond : Answers site.files (resolve second href) ↔
      ∃ b, site.exists? second href = .ok b := answers_iff
  unfold AnswersEither
  constructor
  · rintro ⟨b, hb⟩
    obtain ⟨found, hfound, hrest⟩ := Check.bind_result_eq_ok_iff.mp hb
    obtain ⟨hanswers, hexists⟩ := FileSystem.exists?_eq_ok_iff.mp hfound
    refine ⟨hanswers, ?_⟩
    -- the second folder is looked at only if nothing was found from the first one
    cases found with
    | true => exact .inl (hexists.mp rfl)
    | false => exact .inr (hsecond.mpr ⟨b, hrest⟩)
  · rintro ⟨hanswers, hor⟩
    obtain ⟨found, hfound⟩ : ∃ b, site.exists? first href = .ok b := answers_iff.mp hanswers
    unfold existsUnder
    rw [hfound, Check.look_ok_bind]
    cases found with
    | true => exact ⟨true, rfl⟩
    | false =>
      refine hsecond.mp (hor.resolve_left fun hfirst => ?_)
      cases (FileSystem.exists?_eq_ok_iff.mp hfound).2.mpr hfirst

lemma complain_result {c : Check Bool} {f : Finding} :
    (c >>= fun found => if (!found) = true then Check.report [f] else pure ()).result = .ok () ↔
      ∃ b, c.result = .ok b := by
  refine Check.bind_result_eq_ok_iff.trans ⟨fun ⟨b, hb, _⟩ => ⟨b, hb⟩, fun ⟨b, hb⟩ => ⟨b, hb, ?_⟩⟩
  cases b <;> rfl

/-- Something is at the end of a reference seen from a folder. -/
def leadsFrom (site : Site) (folder : Path) (href : String) : Bool :=
  (site.files.lookup (resolve folder href)).toOption.isSome

/-- Nothing is at the end of a reference, seen from either of two folders. -/
def isLost (site : Site) (first second : Path) (href : String) : Bool :=
  !leadsFrom site first href && !leadsFrom site second href

lemma leadsFrom_iff : leadsFrom site folder href = true ↔
    ∃ e, site.files.lookup (resolve folder href) = .ok e := by
  unfold leadsFrom
  cases site.files.lookup (resolve folder href) <;> simp [Except.toOption]

lemma exists?_eq (h : Answers site.files (resolve folder href)) :
    site.exists? folder href = .ok (leadsFrom site folder href) :=
  FileSystem.exists?_eq_ok_iff.mpr ⟨h, leadsFrom_iff⟩

/-- A complaint is made exactly if nothing is found from either folder. -/
lemma complain_eq {first second : Path} (h : AnswersEither site first second href) (f : Finding) :
    (existsUnder site first second href >>= fun found =>
      if (!found) = true then Check.report [f] else pure ()) =
        ⟨Finding.when (isLost site first second href) f, .ok ()⟩ := by
  obtain ⟨hanswers, hor⟩ := h
  unfold existsUnder isLost
  rw [exists?_eq hanswers, Check.look_ok_bind]
  cases hfirst : leadsFrom site first href with
  | true => rfl
  | false =>
    have hsecond : Answers site.files (resolve second href) := by
      refine hor.resolve_left fun hfound => ?_
      rw [← leadsFrom_iff, hfirst] at hfound
      cases hfound
    rw [exists?_eq hsecond]
    cases leadsFrom site second href <;> rfl

lemma checkImage_result_iff {src : String} : (checkImage site href src).result = .ok () ↔
    (isLocalImage src = true →
      AnswersEither site (site.root.append ["items"]) site.root src) := by
  unfold checkImage
  split
  · next hlocal => rw [complain_result, existsUnder_result_iff, forall_prop_of_true hlocal]
  · next hlocal => simp [hlocal, pure, Check.done]

lemma checkItem_result_iff {item : Element} :
    (checkItem site item href).result = .ok () ↔ Traceable site p item .item := by
  rw [checkItem, Check.report_bind]
  exact Check.each_result_eq_ok_iff.trans
    (forall₂_congr fun src _ => checkImage_result_iff)

lemma checkItemReference_result_iff {ref : Element} :
    (checkItemReference site folder ref).result = .ok () ↔
      ∀ href ∈ ref.attribute? "href", AnswersEither site site.root folder href := by
  unfold checkItemReference
  split
  · next hnone => simp [hnone, Check.done]
  · next href hsome =>
    simp only [complain_result, existsUnder_result_iff, hsome, Option.mem_some_iff, forall_eq']

mutual

theorem checkSection_result_iff : ∀ e : Element,
    (checkSection site href folder e).result = .ok () ↔
      ∀ x ∈ Element.nested "assessmentSection" e, ∀ ref ∈ x.childrenNamed "assessmentItemRef",
        (checkItemReference site folder ref).result = .ok ()
  | .mk tag attributes text children tail => by
    rw [checkSection, Element.nested, List.forall_mem_cons, Check.report_bind,
      ← checkSections_result_iff children, ← Check.each_result_eq_ok_iff]
    exact Check.bind_result_eq_ok_iff.trans ⟨fun ⟨(), h⟩ => h, fun h => ⟨(), h⟩⟩

/-- The check of the sections among some elements comes to its end if every item that a section
names, at any depth, can be looked at. -/
theorem checkSections_result_iff : ∀ es : List Element,
    (checkSections site href folder es).result = .ok () ↔
      ∀ x ∈ Element.nestedAmong "assessmentSection" es,
        ∀ ref ∈ x.childrenNamed "assessmentItemRef",
          (checkItemReference site folder ref).result = .ok ()
  | [] => by simp [checkSections, Element.nestedAmong, Check.done]
  | .mk tag attributes text children tail :: rest => by
    have htag : (Element.mk tag attributes text children tail).tag = tag := rfl
    rw [checkSections, Element.nestedAmong, htag, List.forall_mem_append,
      ← checkSections_result_iff rest]
    by_cases hsection : (tag == "assessmentSection") = true
    · rw [if_pos hsection, if_pos hsection, ← checkSection_result_iff]
      exact Check.bind_result_eq_ok_iff.trans ⟨fun ⟨(), h⟩ => h, fun h => ⟨(), h⟩⟩
    · rw [if_neg hsection, if_neg hsection]
      exact (and_iff_right (by simp)).symm

end

lemma checkTest_result_iff {test : Element} : (checkTest site test href).result = .ok () ↔
    Traceable site (resolve site.root href) test .test := by
  unfold checkTest Traceable
  simp only [Check.each_result_eq_ok_iff, checkSections_result_iff, checkItemReference_result_iff]

/-- A document that is malformed or of another kind is reported, and nothing else is looked at. -/
lemma checkFile_result_of_read {d : Except DocumentFault Element}
    (h : site.readDocument (resolve site.root href) = .ok d) :
    (checkFile site kind href).result = .ok () ↔ ∀ root, d = .ok root →
      root.tag = kind.rootTag → Traceable site (resolve site.root href) root kind := by
  unfold checkFile readResource
  rw [h, Check.look_ok_bind]
  cases d with
  | error f => exact iff_of_true rfl (by simp)
  | ok root =>
    simp only [Except.ok.injEq, forall_eq']
    rw [Check.pure_bind]
    dsimp only
    by_cases htag : root.tag = kind.rootTag
    · rw [if_neg (by simpa using htag), forall_prop_of_true htag, Check.report_bind]
      cases kind with
      | item => exact checkItem_result_iff
      | test => exact checkTest_result_iff
    · rw [if_pos (by simpa using htag)]
      exact iff_of_true rfl fun h => absurd h htag

theorem checkFile_result_iff : (checkFile site kind href).result = .ok () ↔
    Followable site kind (resolve site.root href) := by
  constructor
  · intro h
    obtain ⟨found, hfound, -⟩ := Check.bind_result_eq_ok_iff.mp h
    obtain ⟨d, hd, -⟩ := Check.bind_result_eq_ok_iff.mp hfound
    have hread : site.readDocument (resolve site.root href) = .ok d := hd
    obtain ⟨content, hcontent, rfl⟩ := readDocument_eq_ok_iff.mp hread
    exact ⟨content, FileSystem.read_eq_ok_iff.mp hcontent, (checkFile_result_of_read hread).mp h⟩
  · rintro ⟨content, hlookup, htraceable⟩
    have hread : site.readDocument (resolve site.root href) = .ok (documentOf content) :=
      readDocument_eq_ok_iff.mpr ⟨content, FileSystem.read_eq_ok_iff.mpr hlookup, rfl⟩
    exact (checkFile_result_of_read hread).mpr htraceable

lemma checkDocuments_result_iff : (checkDocuments site resource).result = .ok () ↔
    ∀ kind, kindOf resource = some kind →
      ∀ href ∈ checkedReferences site resource, Followable site kind (resolve site.root href) := by
  unfold checkDocuments
  cases kindOf resource with
  | none => exact iff_of_true rfl (by simp)
  | some kind =>
    simp only [Check.each_result_eq_ok_iff, checkFile_result_iff, Option.some.injEq, forall_eq']

/-- The check of a resource comes to its end if all that the resource refers to can be looked
at. -/
theorem checkResource_result_iff :
    (checkResource site resource).result = .ok () ↔ Checkable site resource := by
  rw [checkResource_result_eq_ok_iff, checkDocuments_result_iff]
  have hdocuments : ∀ kind, (∀ href ∈ checkedReferences site resource,
      Followable site kind (resolve site.root href)) ↔ ∀ href ∈ references resource,
        (∃ e, site.files.lookup (resolve site.root href) = .ok e) → isDocumentName href = true →
          Followable site kind (resolve site.root href) := by
    intro kind
    simp only [← isPresent_iff]
    exact forall_checkedReferences_iff
  simp only [hdocuments]
  exact ⟨fun ⟨hanswers, h⟩ => ⟨hanswers, h⟩, fun h => ⟨h.answers, h.documents⟩⟩

/-! ### The report -/

lemma prefix_of_literal {w s rest : List Char} (h : literal w s = some rest) : w <+: s := by
  induction w generalizing s with
  | nil => exact List.nil_prefix
  | cons c w ih =>
    cases s with
    | nil => cases h
    | cons d s =>
      rw [literal] at h
      split at h
      · next heq =>
        subst heq
        exact (List.prefix_cons_inj c).mpr (ih h)
      · cases h

lemma prefix_of_isResourceType {beginning type : String}
    (h : isResourceType beginning type = true) : beginning.toList <+: type.toList := by
  cases hl : literal beginning.toList type.toList with
  | none => simp [isResourceType, hl] at h
  | some rest => exact prefix_of_literal hl

/-- No type is that of items and that of tests at once. -/
lemma isTestType_of_isItemType {type : String} (h : isItemType type = true) :
    isTestType type = false := by
  by_contra htest
  rw [Bool.not_eq_false] at htest
  have hsame := List.prefix_of_prefix_length_le (prefix_of_isResourceType h)
    (prefix_of_isResourceType htest) (by decide)
  revert hsame
  decide

def isItem (resource : Element) : Bool := isItemType ((resource.attribute? "type").getD "")

def isTest (resource : Element) : Bool := isTestType ((resource.attribute? "type").getD "")

lemma kindOf_eq (resource : Element) : kindOf resource =
    if isItem resource then some .item else if isTest resource then some .test else none := rfl

lemma itemsIn_registration (resource : Element) :
    itemsIn (registration resource) = if isItem resource then 1 else 0 := by
  rw [registration, kindOf_eq]
  cases isItem resource <;> cases isTest resource <;> rfl

lemma test_mem_registration {resource : Element} :
    .test ∈ registration resource ↔ isTest resource = true := by
  have hboth : isItem resource = true → isTest resource = false := isTestType_of_isItemType
  rw [registration, kindOf_eq]
  cases hitem : isItem resource <;> cases htest : isTest resource <;> simp_all

lemma isTestResource_eq (resource : Element) : isTestResource resource = isTest resource := by
  have hboth : isItem resource = true → isTest resource = false := isTestType_of_isItemType
  have hkind : isTestResource resource = decide (kindOf resource = some .test) := rfl
  rw [hkind, kindOf_eq]
  cases hitem : isItem resource <;> cases htest : isTest resource <;> simp_all

/-- A report on resources that have all been reached: it counts the items, knows whether there is
a test and warns if there is none, and reports the missing files of every resource in order. -/
structure Reached (site : Site) (resources : List Element) (report : Report) : Prop where
  complete : report.Complete
  items : report.details.itemCount = resources.countP isItem
  test : report.details.testFound = true ↔ ∃ resource ∈ resources, isTest resource = true
  warned : noTestWarning ∈ report.warnings ↔ report.details.testFound = false
  missing : (resources.flatMap (absences site)).Sublist report.errors

/-- What is found of resources that are checked one after the other. -/
def allRemarks (site : Site) (resources : List Element) : List Finding :=
  resources.flatMap fun resource => registration resource ++ remarks site resource

section Remarks

variable {resources : List Element}

lemma itemsIn_allRemarks (site : Site) (resources : List Element) :
    itemsIn (allRemarks site resources) = resources.countP isItem := by
  induction resources with
  | nil => rfl
  | cons resource resources ih =>
    have hworded := itemsIn_of_allWorded (allWorded_remarks site resource)
    rw [allRemarks] at ih ⊢
    rw [List.flatMap_cons, itemsIn_append, itemsIn_append, itemsIn_registration, hworded, ih,
      List.countP_cons]
    omega

lemma test_mem_allRemarks :
    .test ∈ allRemarks site resources ↔ ∃ resource ∈ resources, isTest resource = true := by
  have hremarks : ∀ resource, .test ∉ remarks site resource := fun resource hmem =>
    allWorded_remarks site resource _ hmem
  simp only [allRemarks, List.mem_flatMap, List.mem_append, test_mem_registration, hremarks,
    or_false]

/-- No entry on a resource opens in a way that is not one of its own. -/
lemma notMem_allRemarks {c d : Char} {message : String} (hs : Opens c d message)
    (hne : (c, d) ∉ resourceOpenings) :
    .error message ∉ allRemarks site resources ∧ .warning message ∉ allRemarks site resources := by
  have hregistration : ∀ resource, .error message ∉ registration resource ∧
      .warning message ∉ registration resource := by
    intro resource
    unfold registration
    split <;> simp
  simp only [allRemarks, List.mem_flatMap, List.mem_append, not_exists, not_and, not_or]
  constructor
  · intro resource _
    exact ⟨(hregistration resource).1, ((allWorded_remarks site resource).notMem hs hne).1⟩
  · intro resource _
    exact ⟨(hregistration resource).2, ((allWorded_remarks site resource).notMem hs hne).2⟩

lemma absences_sublist_allRemarks (site : Site) (resources : List Element) :
    (resources.flatMap (absences site)).Sublist
      ((allRemarks site resources).filterMap Finding.error?) := by
  induction resources with
  | nil => exact List.Sublist.slnil
  | cons resource resources ih =>
    have hown : ((absences site resource).map Finding.error).filterMap Finding.error? =
        absences site resource := by
      rw [List.filterMap_map]
      exact List.filterMap_some
    rw [allRemarks] at ih ⊢
    rw [List.flatMap_cons, List.flatMap_cons, List.filterMap_append, List.filterMap_append, remarks,
      List.filterMap_append, hown]
    refine List.Sublist.append ?_ ih
    exact (List.sublist_append_left _ _).trans (List.sublist_append_right _ _)

end Remarks

section Report

variable {manifestPath : Path} {message : String}

/-- What is found of a package of which every resource is reached. -/
def manifestFindings (site : Site) (manifest : Element) : List Finding :=
  opening manifest ++ (allRemarks site (resourcesOf manifest) ++ closing manifest)

lemma check_findings_eq (hread : site.readDocument manifestPath = .ok (.ok manifest))
    (htag : manifest.tag = "manifest") (h : (check site manifestPath).result = .ok ()) :
    (check site manifestPath).findings = manifestFindings site manifest := by
  have hresources : (resourcesOf manifest).flatMap
      (fun resource => (checkResource site resource).findings) =
        allRemarks site (resourcesOf manifest) :=
    List.flatMap_congr fun resource hresource =>
      checkResource_findings ((check_result_eq_ok_iff hread htag).mp h resource hresource)
  rw [check_findings hread htag h, hresources, manifestFindings]

lemma itemsIn_manifestFindings :
    itemsIn (manifestFindings site manifest) = (resourcesOf manifest).countP isItem := by
  have hopening : itemsIn (opening manifest) = 0 := rfl
  have hclosing : itemsIn (closing manifest) = 0 := by
    unfold closing Finding.when
    split <;> rfl
  rw [manifestFindings, itemsIn_append, itemsIn_append, itemsIn_allRemarks, hopening, hclosing,
    Nat.zero_add, Nat.add_zero]

lemma test_mem_manifestFindings : .test ∈ manifestFindings site manifest ↔
    ∃ resource ∈ resourcesOf manifest, isTest resource = true := by
  have hopening : .test ∉ opening manifest := by simp [opening]
  have hclosing : .test ∉ closing manifest := by
    unfold closing Finding.when
    split <;> simp
  rw [manifestFindings, List.mem_append, List.mem_append, or_iff_right hopening,
    or_iff_left hclosing, test_mem_allRemarks]

lemma error_mem_manifestFindings : .error message ∈ manifestFindings site manifest ↔
    .error message ∈ allRemarks site (resourcesOf manifest) := by
  have hopening : .error message ∉ opening manifest := by simp [opening]
  have hclosing : .error message ∉ closing manifest := by
    unfold closing Finding.when
    split <;> simp
  rw [manifestFindings, List.mem_append, List.mem_append, or_iff_right hopening,
    or_iff_left hclosing]

lemma noTestWarning_mem_manifestFindings :
    .warning noTestWarning ∈ manifestFindings site manifest ↔
      ¬∃ resource ∈ resourcesOf manifest, isTest resource = true := by
  have hopening : .warning noTestWarning ∉ opening manifest := by simp [opening]
  have hremarks : .warning noTestWarning ∉ allRemarks site (resourcesOf manifest) :=
    (notMem_allRemarks (.append (.ofList _ _ _) _) (by decide)).2
  have hany : (resourcesOf manifest).any isTestResource = true ↔
      ∃ resource ∈ resourcesOf manifest, isTest resource = true := by
    simp only [List.any_eq_true, isTestResource_eq]
  rw [manifestFindings, List.mem_append, List.mem_append, or_iff_right hopening,
    or_iff_right hremarks, closing, Finding.when, ← hany]
  cases (resourcesOf manifest).any isTestResource <;> simp

lemma absences_sublist_manifestFindings :
    ((resourcesOf manifest).flatMap (absences site)).Sublist
      ((manifestFindings site manifest).filterMap Finding.error?) := by
  rw [manifestFindings, List.filterMap_append, List.filterMap_append]
  exact (absences_sublist_allRemarks site _).trans
    ((List.sublist_append_left _ _).trans (List.sublist_append_right _ _))

lemma report_of_result (hread : site.readDocument manifestPath = .ok (.ok manifest))
    (htag : manifest.tag = "manifest") (h : (check site manifestPath).result = .ok ()) :
    (Outcome.ofCheck (check site manifestPath)).report =
      (Registry.empty.takeAll (manifestFindings site manifest)).report.finish := by
  rw [Outcome.ofCheck, h, check_findings_eq hread htag h]
  rfl

/-- A check that comes to its end has reached every resource. -/
theorem reached_of_result (hread : site.readDocument manifestPath = .ok (.ok manifest))
    (htag : manifest.tag = "manifest") (h : (check site manifestPath).result = .ok ()) :
    Reached site (resourcesOf manifest) (Outcome.ofCheck (check site manifestPath)).report := by
  have htest : (Registry.empty.takeAll
      (manifestFindings site manifest)).report.finish.details.testFound = true ↔
        ∃ resource ∈ resourcesOf manifest, isTest resource = true :=
    (Registry.testFound_takeAll Registry.empty _).trans
      ((or_iff_right Bool.false_ne_true).trans test_mem_manifestFindings)
  rw [report_of_result hread htag h]
  refine ⟨?complete, ?items, htest, ?warned, ?missing⟩
  case complete =>
    intro text hmem
    have hopens : Opens 'V' 'a' s!"Validation Error: {text}" := .append (.ofList _ _ _) _
    rw [Report.finish_errors, Registry.mem_errors_takeAll
      (isDuplicateEntry_of_opens hopens (by decide))] at hmem
    exact hmem.elim List.not_mem_nil fun herror =>
      (notMem_allRemarks hopens (by decide)).1 (error_mem_manifestFindings.mp herror)
  case items =>
    have hcount := Registry.itemCount_takeAll Registry.empty (manifestFindings site manifest)
    rw [itemsIn_manifestFindings] at hcount
    exact hcount.trans (Nat.zero_add _)
  case warned =>
    have hwarnings := Registry.warnings_takeAll Registry.empty (manifestFindings site manifest)
    rw [← Bool.not_eq_true, htest, ← noTestWarning_mem_manifestFindings, ← mem_warnings_iff]
    exact Iff.of_eq (congrArg (noTestWarning ∈ ·) hwarnings)
  case missing =>
    have herrors := Registry.errors_sublist_takeAll Registry.empty (manifestFindings site manifest)
    exact absences_sublist_manifestFindings.trans herrors

lemma check_result_iff (hread : site.readDocument manifestPath = .ok (.ok manifest))
    (htag : manifest.tag = "manifest") : (check site manifestPath).result = .ok () ↔
      ∀ resource ∈ resourcesOf manifest, Checkable site resource :=
  (check_result_eq_ok_iff hread htag).trans
    (forall₂_congr fun _ _ => checkResource_result_iff)

lemma checkable_of_complete (hread : site.readDocument manifestPath = .ok (.ok manifest))
    (htag : manifest.tag = "manifest")
    (h : (Outcome.ofCheck (check site manifestPath)).report.Complete) :
    ∀ resource ∈ resourcesOf manifest, Checkable site resource :=
  (check_result_iff hread htag).mp (result_of_complete h)

end Report

end Manifest

/-- Of a package without a legacy document every resource is reached exactly if all that its
resources refer to can be looked at. Missing files, references to nothing and documents that are
malformed or no text do not count against that. -/
theorem validate_reaches_iff {v : Validator} {fs : FileSystem} {p : Path}
    {options : Option Options} {site : Site} {manifest : Element}
    (hsite : Inspects v.settings fs p site) (hlegacy : site.legacyDocument? = .ok none)
    (hread : site.readDocument (site.manifestPath v.settings.manifestName) = .ok (.ok manifest))
    (htag : manifest.tag = "manifest") :
    Manifest.Reached site (Manifest.resourcesOf manifest) (v.validate fs p options).1 ↔
      ∀ resource ∈ Manifest.resourcesOf manifest, Manifest.Checkable site resource := by
  rw [validate_eq_check hsite hlegacy hread]
  exact ⟨fun h => Manifest.checkable_of_complete hread htag h.complete,
    fun h => Manifest.reached_of_result hread htag ((Manifest.check_result_iff hread htag).mpr h)⟩

/-- A package of which the one file is missing. -/
def missingEntries : List (String × Entry) := [("imsmanifest.xml", .file looseManifest)]

lemma lookup_missing : (packageSite missingEntries).files.lookup
    (resolve (packageSite missingEntries).root "d") = .error .notFound := by
  have hpath : resolve (packageSite missingEntries).root "d" = ⟨0, ["q", "d"]⟩ := by
    decide +kernel
  rw [hpath]
  rfl

theorem validate_missing_file :
    ∃ manifest, Manifest.Reached (packageSite missingEntries) (Manifest.resourcesOf manifest)
        (defaultValidator.validate (packageFiles [] missingEntries) ⟨0, ["q"]⟩ none).1 ∧
      "Resource main file not found: d" ∈
        (defaultValidator.validate (packageFiles [] missingEntries) ⟨0, ["q"]⟩ none).1.errors := by
  obtain ⟨manifest, hlegacy, hread, htag, hresources⟩ :=
    manifest_of_outline missingEntries (List.mem_singleton.mpr rfl) (by decide)
      (by unfold Path.Admissible; decide) (by simp [missingEntries]) outline_looseManifest
  obtain ⟨resource, hone, hkind, habsences, hreferences⟩ :=
    Manifest.single_of_summary (packageSite missingEntries) hresources
  have hnone : Manifest.kindOf resource = none := by
    rw [hkind]
    decide
  have hcheckable : Manifest.Checkable (packageSite missingEntries) resource := by
    refine Manifest.checkable_of_kindOf_none hnone ?_
    rw [hreferences, List.forall_mem_singleton, Manifest.Answers, lookup_missing]
    simp
  have hreached : Manifest.Reached (packageSite missingEntries) (Manifest.resourcesOf manifest)
      (defaultValidator.validate (packageFiles [] missingEntries) ⟨0, ["q"]⟩ none).1 := by
    refine (validate_reaches_iff (inspects_packageFiles _) hlegacy hread htag).mpr ?_
    rwa [hone, List.forall_mem_singleton]
  have hpresent : Manifest.isPresent (packageSite missingEntries) "d" = false := by
    rw [← Bool.not_eq_true, Manifest.isPresent_iff, lookup_missing]
    simp
  refine ⟨manifest, hreached, hreached.missing.subset ?_⟩
  rw [hone, List.flatMap_singleton, habsences, Manifest.complaints_cons, hpresent]
  exact List.mem_cons_self

/-- A manifest with one item resource. -/
def itemManifest : List UInt8 :=
  Text.Utf8.encode ("<manifest><resources>" ++
    "<resource type=\"imsqti_item_xmlv2p1\" href=\"d.xml\"/></resources></manifest>").toList

lemma outline_itemManifest : Manifest.outline itemManifest =
    some ("manifest", [⟨some "imsqti_item_xmlv2p1", some "d.xml", []⟩]) := by decide +kernel

/-- A folder in the place of its document. -/
def folderEntries : List (String × Entry) :=
  [("imsmanifest.xml", .file itemManifest), ("d.xml", .folder [])]

theorem validate_folder_document :
    ∃ manifest, Inspects defaultValidator.settings (packageFiles [] folderEntries) ⟨0, ["q"]⟩
        (packageSite folderEntries) ∧
      (packageSite folderEntries).legacyDocument? = .ok none ∧
      (packageSite folderEntries).readDocument ((packageSite folderEntries).manifestPath
        defaultValidator.settings.manifestName) = .ok (.ok manifest) ∧
      manifest.tag = "manifest" ∧
      ¬Manifest.Reached (packageSite folderEntries) (Manifest.resourcesOf manifest)
        (defaultValidator.validate (packageFiles [] folderEntries) ⟨0, ["q"]⟩ none).1 := by
  obtain ⟨manifest, hlegacy, hread, htag, hresources⟩ :=
    manifest_of_outline folderEntries List.mem_cons_self (by decide)
      (by unfold Path.Admissible; decide) (by simp [folderEntries]) outline_itemManifest
  obtain ⟨resource, hone, hkind, -, hreferences⟩ :=
    Manifest.single_of_summary (packageSite folderEntries) hresources
  refine ⟨manifest, inspects_packageFiles _, hlegacy, hread, htag, fun hreached => ?_⟩
  have hcomplete := hreached.complete
  rw [validate_eq_check (inspects_packageFiles _) hlegacy hread] at hcomplete
  have hcheckable := Manifest.checkable_of_complete hread htag hcomplete resource
    (hone ▸ List.mem_singleton.mpr rfl)
  have hitem : Manifest.kindOf resource = some .item := by
    rw [hkind]
    decide
  have hpath : resolve (packageSite folderEntries).root "d.xml" = ⟨0, ["q", "d.xml"]⟩ := by
    decide +kernel
  have hlookup : (packageSite folderEntries).files.lookup ⟨0, ["q", "d.xml"]⟩ =
      .ok (.folder []) := rfl
  have hreferenced : "d.xml" ∈ Manifest.references resource :=
    hreferences ▸ List.mem_singleton.mpr rfl
  obtain ⟨content, hfile, -⟩ := hcheckable.documents _ hitem "d.xml" hreferenced
    ⟨_, by rw [hpath, hlookup]⟩ (by decide)
  rw [hpath, hlookup] at hfile
  cases hfile

end QuizPreflight.Package
