import QuizPreflight.Proofs.Markup.Placing
import QuizPreflight.Proofs.Package.Completion

/-!
# The walk through a test

A test is walked part by part, and each part section by section, down to any depth. Every section
is registered at its own place, and those of the items it names that are nowhere to be found are
reported before the sections inside it are entered. Sections nest without a bound: no limit is set
here to how deep calls may be nested.
-/
namespace QuizPreflight.Package

open Markup Text

namespace Manifest

variable {site : Site} {folder : Path} {href : String} {test : Element}

/-! ### Sections by their places -/

/-- A section stands at a place in a test: a part comes first, and then sections alone. -/
def SectionAt (test : Element) (place : List Nat) (s : Element) : Prop :=
  ∃ i part rest, place = i :: rest ∧ test.children[i]? = some part ∧ part.tag = "testPart" ∧
    rest ≠ [] ∧ Element.LeadsTo "assessmentSection" part rest s

/-- The sections of a test with their places. -/
def sectionsOf (test : Element) : List (List Nat × Element) :=
  Element.eachPlaced (fun part => if part.tag == "testPart" then
    Element.placedAmong "assessmentSection" 0 part.children else []) 0 test.children

theorem mem_sectionsOf {place : List Nat} {s : Element} :
    (place, s) ∈ sectionsOf test ↔ SectionAt test place s := by
  rw [sectionsOf, Element.mem_eachPlaced]
  constructor
  · rintro ⟨i, rest, part, rfl, hpart, hmem⟩
    split at hmem
    · next htag =>
      obtain ⟨hne, hleads⟩ := Element.mem_placedAmong_children.mp hmem
      exact ⟨i, part, rest, by rw [Nat.zero_add], hpart, by simpa using htag, hne, hleads⟩
    · cases hmem
  · rintro ⟨i, part, rest, rfl, hpart, htag, hne, hleads⟩
    refine ⟨i, rest, part, by rw [Nat.zero_add], hpart, ?_⟩
    rw [if_pos (by simpa using htag)]
    exact Element.mem_placedAmong_children.mpr ⟨hne, hleads⟩

theorem pairwise_sectionsOf (test : Element) :
    (sectionsOf test).Pairwise fun v w => Element.Precedes v.1 w.1 := by
  refine Element.pairwise_eachPlaced fun part _ => ?_
  split
  · exact Element.pairwise_placedAmong _ _ _
  · exact List.Pairwise.nil

lemma map_snd_sectionsOf (test : Element) : (sectionsOf test).map Prod.snd =
    (test.childrenNamed "testPart").flatMap fun part =>
      Element.nestedAmong "assessmentSection" part.children := by
  rw [sectionsOf, Element.map_snd_eachPlaced, Element.childrenNamed]
  induction test.children with
  | nil => rfl
  | cons part parts ih =>
    rw [List.flatMap_cons, ih, List.filter_cons]
    split
    · rw [List.flatMap_cons, Element.map_snd_placedAmong]
    · rfl

/-! ### What is found of a section -/

/-- The references to items in a section; blank ones do not count. -/
def itemReferences (s : Element) : List String :=
  (s.childrenNamed "assessmentItemRef").filterMap (·.attribute? "href")

/-- The references of a section that lead nowhere, seen from the package or from the folder of the
test. -/
def lostItems (site : Site) (folder : Path) (s : Element) : List String :=
  (itemReferences s).filter (isLost site site.root folder)

def lostItemMessage (href : String) : String := s!"Test references missing item file: {href}"

/-- The registration of a section and one error for each item it refers to in vain. -/
def sectionRecord (site : Site) (href : String) (folder : Path) (s : Element) : List Finding :=
  .identifier (s.attribute? "identifier") s!"Section in {href}" ::
    (lostItems site folder s).map fun item => .error (lostItemMessage item)

/-- The references of a section can all be looked for. -/
def Answered (site : Site) (folder : Path) (s : Element) : Prop :=
  ∀ ref ∈ s.childrenNamed "assessmentItemRef", ∀ href ∈ ref.attribute? "href",
    AnswersEither site site.root folder href

/-- What is found of a reference of a section. -/
def referenceRecord (site : Site) (folder : Path) (ref : Element) : List Finding :=
  ((ref.attribute? "href").toList.filter (isLost site site.root folder)).map fun item =>
    .error (lostItemMessage item)

/-- A reference that leads nowhere is reported, and nothing else is. -/
lemma checkItemReference_eq {ref : Element}
    (h : ∀ href ∈ ref.attribute? "href", AnswersEither site site.root folder href) :
    checkItemReference site folder ref = ⟨referenceRecord site folder ref, .ok ()⟩ := by
  unfold checkItemReference referenceRecord
  cases hhref : ref.attribute? "href" with
  | none => rfl
  | some href =>
    dsimp only
    rw [complain_eq (h href hhref), Option.toList_some, Finding.when]
    cases hlost : isLost site site.root folder href with
    | true => rw [List.filter_cons_of_pos hlost]; rfl
    | false => rw [List.filter_cons_of_neg (by simp [hlost])]; rfl

lemma flatMap_referenceRecord (site : Site) (folder : Path) (refs : List Element) :
    refs.flatMap (referenceRecord site folder) =
      ((refs.filterMap (·.attribute? "href")).filter (isLost site site.root folder)).map
        fun item => .error (lostItemMessage item) := by
  induction refs with
  | nil => rfl
  | cons ref refs ih =>
    rw [List.flatMap_cons, ih, List.filterMap_cons, referenceRecord]
    cases ref.attribute? "href" with
    | none => rfl
    | some href => rw [Option.toList_some, ← List.map_append, ← List.filter_append]; rfl

mutual

theorem checkSection_eq (site : Site) (href : String) (folder : Path) : ∀ e : Element,
    (∀ s ∈ Element.nested "assessmentSection" e, Answered site folder s) →
      checkSection site href folder e =
        ⟨(Element.nested "assessmentSection" e).flatMap (sectionRecord site href folder), .ok ()⟩
  | .mk tag attributes text children tail, h => by
    rw [Element.nested, List.forall_mem_cons] at h
    have hinner := checkSections_eq site href folder children h.2
    have hrefs := Check.each_eq fun ref hmem => checkItemReference_eq (h.1 ref hmem)
    rw [checkSection, Check.report_bind, hrefs, hinner, flatMap_referenceRecord, Element.nested,
      List.flatMap_cons]
    rfl

/-- The walk through the sections among some elements makes the record of each section that is
nested in them, a section before those inside it. -/
theorem checkSections_eq (site : Site) (href : String) (folder : Path) : ∀ es : List Element,
    (∀ s ∈ Element.nestedAmong "assessmentSection" es, Answered site folder s) →
      checkSections site href folder es =
        ⟨(Element.nestedAmong "assessmentSection" es).flatMap (sectionRecord site href folder),
          .ok ()⟩
  | [], _ => rfl
  | .mk tag attributes text children tail :: rest, h => by
    have htag : (Element.mk tag attributes text children tail).tag = tag := rfl
    rw [Element.nestedAmong, htag, List.forall_mem_append] at h
    have hrest := checkSections_eq site href folder rest h.2
    rw [checkSections, Element.nestedAmong, htag, hrest, List.flatMap_append]
    by_cases hsection : (tag == "assessmentSection") = true
    · rw [if_pos hsection] at h
      rw [if_pos hsection, if_pos hsection, checkSection_eq site href folder _ h.1]
      rfl
    · rw [if_neg hsection, if_neg hsection]
      rfl

end

/-- The items of a test can be looked for if those of its sections can. -/
lemma traceable_test_iff {p : Path} : Traceable site p test .test ↔
    ∀ v ∈ sectionsOf test, ∀ item ∈ itemReferences v.2,
      AnswersEither site site.root p.parent item := by
  have hitems (s : Element) : (∀ item ∈ itemReferences s,
      AnswersEither site site.root p.parent item) ↔ Answered site p.parent s := by
    unfold itemReferences Answered
    rw [List.forall_mem_filterMap]
    rfl
  have hsections : (∀ v ∈ sectionsOf test, Answered site p.parent v.2) ↔
      ∀ s ∈ (sectionsOf test).map Prod.snd, Answered site p.parent s := by
    rw [List.forall_mem_map]
  simp only [hitems]
  rw [hsections, map_snd_sectionsOf, List.forall_mem_flatMap]
  rfl

theorem checkTest_eq (h : Traceable site (resolve site.root href) test .test) :
    checkTest site test href = ⟨(sectionsOf test).flatMap fun v =>
      sectionRecord site href (resolve site.root href).parent v.2, .ok ()⟩ := by
  have hparts : ∀ part ∈ test.childrenNamed "testPart",
      checkSections site href (resolve site.root href).parent part.children =
        ⟨(Element.nestedAmong "assessmentSection" part.children).flatMap
          (sectionRecord site href (resolve site.root href).parent), .ok ()⟩ := fun part hpart =>
    checkSections_eq _ _ _ _ (h part hpart)
  have hflat : (sectionsOf test).flatMap (fun v =>
      sectionRecord site href (resolve site.root href).parent v.2) =
        ((sectionsOf test).map Prod.snd).flatMap
          (sectionRecord site href (resolve site.root href).parent) := by
    rw [List.flatMap_map]
  rw [checkTest, Check.each_eq hparts, hflat, map_snd_sectionsOf, List.flatMap_assoc]

/-! ### The errors in a report -/

def isLostItemEntry (entry : String) : Bool :=
  beginsWith entry "Test references missing item file:"

lemma isLostItemEntry_lostItemMessage (item : String) :
    isLostItemEntry (lostItemMessage item) = true :=
  beginsWith_trans (beginsWith_append _ _) (beginsWith_ofList ⟨_, rfl⟩)

lemma isLostItemEntry_of_isDuplicateEntry {entry : String} (h : isDuplicateEntry entry = true) :
    isLostItemEntry entry = false :=
  (opens_of_isDuplicateEntry h).beginsWith_eq_false (.ofList _ _ _) (by decide)

lemma errors_identifier_cons (value : Option String) (source : String) (fs : List Finding) :
    (.identifier value source :: fs).filterMap Finding.error? = fs.filterMap Finding.error? := rfl

lemma errors_sectionRecord (site : Site) (href : String) (folder : Path) (s : Element) :
    ((sectionRecord site href folder s).filterMap Finding.error?).filter isLostItemEntry =
      (lostItems site folder s).map lostItemMessage := by
  have herrors : (sectionRecord site href folder s).filterMap Finding.error? =
      (lostItems site folder s).map lostItemMessage := by
    rw [sectionRecord, errors_identifier_cons, List.filterMap_map, ← List.filterMap_eq_map]
    rfl
  rw [herrors]
  refine List.filter_eq_self.mpr fun entry hentry => ?_
  obtain ⟨item, -, rfl⟩ := List.mem_map.mp hentry
  exact isLostItemEntry_lostItemMessage item

/-- The check of a test that can be read comes to its end if every reference can be looked for. It
registers the test and walks through its sections, which are listed by their places in document
order, each place once, so that a section comes before those inside it. Each is registered, and of
the items that it names each one that is found neither from the package nor from the folder of the
test is reported in one error before the next section is entered. A report has these errors in the
same order and no others of their kind. -/
theorem checkFile_walks (hread : site.readDocument (resolve site.root href) = .ok (.ok test))
    (htag : test.tag = "assessmentTest")
    (h : Traceable site (resolve site.root href) test .test) :
    ((sectionsOf test).Pairwise fun v w => Element.Precedes v.1 w.1) ∧
    (∀ place s, (place, s) ∈ sectionsOf test ↔ SectionAt test place s) ∧
    checkFile site .test href =
      ⟨.identifier (test.attribute? "identifier") s!"Test {href}" ::
        (sectionsOf test).flatMap fun v =>
          sectionRecord site href (resolve site.root href).parent v.2, .ok ()⟩ ∧
    ∀ g : Registry,
      (g.takeAll (checkFile site .test href).findings).report.errors.filter isLostItemEntry =
        g.report.errors.filter isLostItemEntry ++ (sectionsOf test).flatMap fun v =>
          (lostItems site (resolve site.root href).parent v.2).map lostItemMessage := by
  have hcheck : checkFile site .test href =
      ⟨.identifier (test.attribute? "identifier") s!"Test {href}" ::
        (sectionsOf test).flatMap fun v =>
          sectionRecord site href (resolve site.root href).parent v.2, .ok ()⟩ := by
    unfold checkFile readResource
    rw [hread, Check.look_ok_bind]
    dsimp only
    rw [Check.pure_bind]
    dsimp only
    rw [if_neg (by simp [htag, ResourceKind.rootTag]), Check.report_bind, checkTest_eq h]
    rfl
  refine ⟨pairwise_sectionsOf test, fun place s => mem_sectionsOf, hcheck, fun g => ?_⟩
  rw [hcheck, Registry.errors_takeAll_filter fun _ => isLostItemEntry_of_isDuplicateEntry,
    errors_identifier_cons, List.filterMap_flatMap, List.filter_flatMap]
  simp only [errors_sectionRecord]

/-- A test with a section inside a section, each of which names an item. -/
def nestedTest : Element :=
  .mk "assessmentTest" [] "" [.mk "testPart" [] ""
    [.mk "assessmentSection" [("identifier", "s")] ""
      [.mk "assessmentItemRef" [("href", "a")] "" [] "",
        .mk "assessmentSection" [] ""
          [.mk "assessmentItemRef" [("href", "d.xml")] "" [] ""] ""] ""] ""] ""

/-- A package with nothing but the test. -/
def nestedSite : Site :=
  packageSite [("d.xml", .file (Utf8.encode nestedTest.written))]

lemma sectionsOf_nestedTest :
    ∃ outer inner, sectionsOf nestedTest = [([0, 0], outer), ([0, 0, 1], inner)] ∧
      outer.attribute? "identifier" = some "s" ∧ itemReferences outer = ["a"] ∧
      inner.attribute? "identifier" = none ∧ itemReferences inner = ["d.xml"] :=
  ⟨_, _, rfl, rfl, rfl, rfl, rfl⟩

lemma lookup_nestedSite :
    nestedSite.files.lookup (resolve nestedSite.root "a") = .error .notFound ∧
      nestedSite.files.lookup (resolve nestedSite.root "d.xml") =
        .ok (.file (Utf8.encode nestedTest.written)) := by
  have hitem : resolve nestedSite.root "a" = ⟨0, ["q", "a"]⟩ := by decide +kernel
  have htest : resolve nestedSite.root "d.xml" = ⟨0, ["q", "d.xml"]⟩ := by decide +kernel
  rw [hitem, htest]
  exact ⟨rfl, FileSystem.lookup_eq_ok_iff.mpr ⟨_, rfl, rfl⟩⟩

theorem checkFile_walks_nestedTest :
    (checkFile nestedSite .test "d.xml").findings =
      [.identifier none "Test d.xml", .identifier (some "s") "Section in d.xml",
        .error "Test references missing item file: a", .identifier none "Section in d.xml"] := by
  have hparent : (resolve nestedSite.root "d.xml").parent = nestedSite.root := by decide +kernel
  obtain ⟨hmissing, hfound⟩ := lookup_nestedSite
  obtain ⟨outer, inner, hsections, hidentifier, hitems, hnone, hmore⟩ := sectionsOf_nestedTest
  have hwritable : ∀ e ∈ nestedTest.subtree, e.IsWritable :=
    fun e he => .of_check (List.all_eq_true.mp rfl e he)
  rw [Element.subtree_eq, List.forall_mem_cons] at hwritable
  have hread : nestedSite.readDocument (resolve nestedSite.root "d.xml") =
      .ok (.ok nestedTest) :=
    readDocument_eq_ok_iff.mpr ⟨_, FileSystem.read_eq_ok_iff.mpr hfound,
      documentOf_written hwritable.1 hwritable.2⟩
  have htraceable : Traceable nestedSite (resolve nestedSite.root "d.xml") nestedTest .test := by
    rw [traceable_test_iff, hsections, hparent, List.forall_mem_cons, List.forall_mem_singleton,
      hitems, hmore, List.forall_mem_singleton, List.forall_mem_singleton]
    unfold AnswersEither Answers
    rw [hmissing, hfound]
    simp
  obtain ⟨-, -, hcheck, -⟩ := checkFile_walks hread rfl htraceable
  rw [hcheck, hsections, hparent]
  simp only [List.flatMap_cons, List.flatMap_nil, sectionRecord, lostItems, isLost, leadsFrom,
    hitems, hmore, hidentifier, hnone, List.filter_cons, List.filter_nil, hmissing, hfound]
  rfl

end Manifest

end QuizPreflight.Package
