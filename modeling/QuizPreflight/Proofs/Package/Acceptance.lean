import Mathlib.Data.List.Forall2
import Mathlib.Data.List.Perm.Basic
import QuizPreflight.Proofs.Markup.Nesting
import QuizPreflight.Proofs.Package.Registration
import QuizPreflight.Proofs.Text.Matching

/-!
# Acceptance of legacy documents

What a legacy document needs for its check to end without an error, said of its tree alone:
neither the order of the checks nor their messages occur in it. The check decides it exactly.
Trees nest without a bound: no limit is set here to how deep calls may be nested.
-/
namespace QuizPreflight

namespace Text

/-- A word stands somewhere in a text, whatever the case of its letters. -/
def Mentions (text w : List Char) : Prop :=
  ∃ before found after, text = before ++ found ++ after ∧
    List.Forall₂ (fun letter c => sameLetter letter c = true) w found

theorem occurs_word_iff {w s : List Char} : occurs (word w) s = true ↔ Mentions s w := by
  simp only [occurs_iff, isSome_word_iff, Mentions]
  constructor
  · rintro ⟨before, rest, rfl, found, after, rfl, hfound⟩
    exact ⟨before, found, after, (List.append_assoc _ _ _).symm, hfound⟩
  · rintro ⟨before, found, after, rfl, hfound⟩
    exact ⟨before, found ++ after, List.append_assoc _ _ _, found, after, rfl, hfound⟩

end Text

namespace Package.Legacy

open Markup Text

/-! ### What is accepted -/

/-- The text of a part of a metadata field, empty where there is no such part. -/
def partText (field : Element) (tag : String) : String :=
  trim (((field.first? [tag]).map Element.textContent).getD "")

/-- The entry of the last field with a label in the metadata of an item. -/
def LastEntry (item : Element) (label entry : String) : Prop :=
  ∃ metadata field, item.first? ["itemmetadata"] = some metadata ∧
    ((metadata.descendantsNamed "qtimetadatafield").filter
      (partText · "fieldlabel" == label)).getLast? = some field ∧
    partText field "fieldentry" = entry

/-- The item is answered in free text. -/
def InFreeText (item : Element) : Prop :=
  ∃ type ∈ freeTextTypes, LastEntry item "question_type" type

/-- What is asked: marked-up text where there is any, plain text otherwise. -/
inductive IsStem (presentation : Element) : String → Prop
  | markedUp {text : Element} (h : presentation.first? ["material", "mattext"] = some text) :
      IsStem presentation text.innerHtml
  | plain {material : Element} (h : presentation.first? ["material", "mattext"] = none)
      (hm : presentation.first? ["material"] = some material) :
      IsStem presentation material.textContent

/-- Long enough without the blanks around it, and without anything that may do harm. -/
structure SafeStem (stem : String) : Prop where
  long : 3 ≤ (strip stem.toList).length
  safe : ∀ construct ∈ dangerousConstructs, ¬Mentions stem.toList construct.toList

/-- Where there is a list of choices, the first has at least two. -/
def OffersChoice (response : Element) : Prop :=
  ∀ choices, (response.descendantsNamed "render_choice").head? = some choices →
    2 ≤ (choices.descendantsNamed "response_label").length

/-- The scoring compares with an answer; strict checking requires that there be scoring. -/
structure Scored (strict : Bool) (item : Element) : Prop where
  compares : ∀ processing, item.first? ["resprocessing"] = some processing →
    ∃ condition ∈ processing.descendantsNamed "conditionvar",
      condition.descendantsNamed "varequal" ≠ []
  present : strict = true → item.first? ["resprocessing"] ≠ none

/-- There is a way to answer. -/
inductive Answerable (strict : Bool) (item presentation : Element) : Prop
  | choice {response : Element}
      (first : (presentation.descendantsNamed "response_lid").head? = some response)
      (offers : OffersChoice response) (scored : ¬InFreeText item → Scored strict item)
  | text (noChoice : presentation.descendantsNamed "response_lid" = [])
      (field : presentation.descendantsNamed "response_str" ≠ [])

/-- What only strict checking requires of an item. -/
structure Described (item : Element) : Prop where
  metadata : (item.first? ["itemmetadata", "qtimetadata"]).isSome = true
  points : ∃ entry x, LastEntry item "points_possible" entry ∧
    Decimal.readFloat? entry.toList = some x ∧ x.isNaN = false
  type : ∃ entry, LastEntry item "question_type" entry ∧ entry ≠ ""
  identifier : ∃ id, item.attribute? "ident" = some id ∧ isIdentifier id = true

structure Presented (strict : Bool) (item presentation : Element) : Prop where
  stem : ∃ stem, IsStem presentation stem ∧ SafeStem stem
  answerable : Answerable strict item presentation
  described : strict = true → Described item

def AcceptedItem (strict : Bool) (item : Element) : Prop :=
  ∃ presentation, item.first? ["presentation"] = some presentation ∧
    Presented strict item presentation

/-- A chain of sections leads from the assessment to the item. -/
def Collected (assessment item : Element) : Prop :=
  ∃ s, Relation.TransGen (Element.HasChild "section") assessment s ∧
    Element.HasChild "item" s item

/-- The items of all sections, one section after the other. -/
def itemsBelow (assessment : Element) : List Element :=
  (Element.nestedAmong "section" assessment.children).flatMap (·.childrenNamed "item")

structure Accepted (strict : Bool) (assessment : Element) : Prop where
  hasSection : assessment.childrenNamed "section" ≠ []
  hasItem : ∃ item, Collected assessment item
  items : ∀ item, Collected assessment item → AcceptedItem strict item
  distinct : ((assessment :: itemsBelow assessment).filterMap (·.attribute? "ident")).Nodup
  named : strict = true → assessment.attribute? "ident" ≠ none

/-! ### Items of sections -/

lemma mem_itemsBelow {assessment item : Element} :
    item ∈ itemsBelow assessment ↔ Collected assessment item := by
  simp only [itemsBelow, List.mem_flatMap, Element.mem_nestedAmong_children, Collected,
    Element.HasChild]

/-- Items are collected in document order, which is another order than section by section. -/
theorem itemsAmong_perm (es : List Element) :
    (itemsAmong es).Perm (es.filter (·.tag == "item") ++
      (Element.nestedAmong "section" es).flatMap (·.childrenNamed "item")) := by
  cases es with
  | nil => simp [itemsAmong, Element.nestedAmong]
  | cons e rest =>
    obtain ⟨tag, attributes, text, children, tail⟩ := e
    have hrest := itemsAmong_perm rest
    rw [itemsAmong, Element.nestedAmong_cons]
    by_cases hitem : tag = "item"
    · simpa [hitem, Element.tag] using hrest
    · by_cases hsection : tag = "section"
      · -- the items of the section itself move behind those of the section around it
        have hboth := (itemsAmong_perm children).append hrest
        simpa [hsection, Element.tag, Element.nested, Element.childrenNamed, Element.children]
          using hboth.trans (List.perm_append_comm_assoc _ _ _)
      · simpa [hitem, hsection, Element.tag] using hrest

lemma itemsOf_perm (e : Element) :
    (itemsOf e).Perm ((Element.nested "section" e).flatMap (·.childrenNamed "item")) := by
  have hamong := itemsAmong_perm e.children
  cases e
  rwa [itemsOf, Element.nested, List.flatMap_cons]

lemma flatMap_itemsOf_perm (es : List Element) :
    ((es.filter (·.tag == "section")).flatMap itemsOf).Perm
      ((Element.nestedAmong "section" es).flatMap (·.childrenNamed "item")) := by
  induction es with
  | nil => exact .refl _
  | cons e es ih =>
    rw [Element.nestedAmong_cons]
    by_cases hsection : e.tag = "section"
    · simpa [hsection] using (itemsOf_perm e).append ih
    · simpa [hsection] using ih

theorem collectItems_perm (assessment : Element) :
    (collectItems (assessment.childrenNamed "section")).Perm (itemsBelow assessment) :=
  flatMap_itemsOf_perm assessment.children

/-! ### Metadata -/

lemma lookup_eq_head? {label : String} (hlabel : label ≠ "") (fields : List Element) :
    ((fields.map fun f => (partText f "fieldlabel", partText f "fieldentry")).filter
        fun e => !e.1.isEmpty).lookup label =
      (fields.filter (partText · "fieldlabel" == label)).head?.map (partText · "fieldentry") := by
  induction fields with
  | nil => rfl
  | cons f fields ih =>
    by_cases hf : partText f "fieldlabel" = label
    · simp [hf, hlabel]
    · by_cases hempty : partText f "fieldlabel" = ""
      · simpa [hf, hempty, Ne.symm hlabel] using ih
      · simpa [hf, hempty, List.lookup_cons, beq_eq_false_iff_ne.mpr (Ne.symm hf)] using ih

/-- Of several fields with one label the last counts. -/
theorem valueUnder_eq_some_iff {item : Element} {label entry : String} (hlabel : label ≠ "") :
    valueUnder (metadataOf item) label = some entry ↔ LastEntry item label entry := by
  unfold valueUnder metadataOf LastEntry
  cases hm : item.first? ["itemmetadata"] with
  | none => simp
  | some metadata =>
    have hlook := lookup_eq_head? hlabel (metadata.descendantsNamed "qtimetadatafield").reverse
    rw [List.map_reverse, List.filter_reverse, List.filter_reverse, List.head?_reverse] at hlook
    unfold partText at hlook ⊢
    simp only [hlook, Option.map_eq_some_iff, Option.some.injEq, exists_and_left,
      exists_eq_left']

lemma contains_freeTextTypes_iff {item : Element} :
    freeTextTypes.contains ((valueUnder (metadataOf item) "question_type").getD "") = true ↔
      InFreeText item := by
  rw [List.contains_iff_mem]
  constructor
  · intro h
    cases htype : valueUnder (metadataOf item) "question_type" with
    | none =>
      rw [htype] at h
      exact absurd h (by decide)
    | some type =>
      rw [htype] at h
      exact ⟨type, h, (valueUnder_eq_some_iff (by decide)).mp htype⟩
  · rintro ⟨type, hmem, hlast⟩
    rwa [(valueUnder_eq_some_iff (by decide)).mpr hlast]

lemma points?_ne_none_iff {item : Element} :
    points? (metadataOf item) ≠ none ↔ ∃ entry x, LastEntry item "points_possible" entry ∧
      Decimal.readFloat? entry.toList = some x ∧ x.isNaN = false := by
  have hread : ∀ x, (valueUnder (metadataOf item) "points_possible").bind
      (fun s => Decimal.readFloat? s.toList) = some x ↔
        ∃ entry, LastEntry item "points_possible" entry ∧
          Decimal.readFloat? entry.toList = some x := by
    intro x
    simp only [Option.bind_eq_some_iff,
      valueUnder_eq_some_iff (show "points_possible" ≠ "" by decide)]
  unfold points?
  split
  · next hnone =>
    simp only [hnone, reduceCtorEq, false_iff] at hread
    refine iff_of_false (fun h => h rfl) ?_
    rintro ⟨entry, x, hentry, hx, -⟩
    exact hread x ⟨entry, hentry, hx⟩
  · next x hsome =>
    simp only [hsome, Option.some.injEq] at hread
    constructor
    · intro h
      obtain ⟨entry, hentry, hx⟩ := (hread x).mp rfl
      exact ⟨entry, x, hentry, hx, Bool.eq_false_iff.mpr fun hnan => h (if_pos hnan)⟩
    · rintro ⟨entry, y, hentry, hy, hnan⟩
      obtain rfl := (hread y).mpr ⟨entry, hentry, hy⟩
      rw [hnan, if_neg Bool.false_ne_true]
      exact Option.some_ne_none x

/-! ### Findings without an error -/

section ErrorFree

variable {strict : Bool} {item presentation : Element} {id : String}

lemma errorFree_contentFindings {rules : List ContentRule} (h : ∀ r ∈ rules, r.severity ≠ .error)
    (text item option : String) : ErrorFree (contentFindings rules text item option) := by
  rw [contentFindings_eq_map]
  intro message hmem
  obtain ⟨r, hr, hfinding⟩ := List.mem_map.mp hmem
  rw [ContentRule.finding, if_neg (h r (List.mem_filter.mp hr).1)] at hfinding
  cases hfinding

lemma errorFree_securityRules_iff {text item option : String} :
    ErrorFree (contentFindings securityRules text item option) ↔
      ∀ construct ∈ dangerousConstructs, ¬Mentions text.toList construct.toList := by
  have hfinding : ∀ construct, ((securityRule construct).finding
      ((securityRule construct).message.render ((securityRule construct).names item option))) =
        .error ((securityRule construct).message.render
          ((securityRule construct).names item option)) := fun _ => rfl
  simp only [ErrorFree, contentFindings_eq_map, securityRules, List.filter_map, List.mem_map,
    List.mem_filter, Function.comp_apply, ← occurs_word_iff]
  constructor
  · intro h construct hmem hoccurs
    exact h _ ⟨securityRule construct, ⟨construct, ⟨hmem, hoccurs⟩, rfl⟩, hfinding construct⟩
  · rintro h message ⟨r, ⟨construct, ⟨hmem, hoccurs⟩, rfl⟩, -⟩
    exact h construct hmem hoccurs

lemma errorFree_pointsFindings {points : Option Float} :
    ErrorFree (pointsFindings id points) ↔ points ≠ none := by
  cases points <;> simp [pointsFindings]

lemma errorFree_typeFindings {type : Option String} :
    ErrorFree (typeFindings id type) ↔ ∃ t, type = some t ∧ t ≠ "" := by
  unfold typeFindings
  split
  · simp
  · split <;> simp_all

lemma errorFree_identFindings {ident : Option String} :
    ErrorFree (identFindings ident) ↔ ∃ i, ident = some i ∧ isIdentifier i = true := by
  cases ident <;> simp [identFindings]

theorem errorFree_strictFindings :
    ErrorFree (strictFindings item id (metadataOf item)) ↔ Described item := by
  unfold strictFindings
  dsimp only
  simp only [errorFree_append, errorFree_when_error, errorFree_when_warning, and_true,
    errorFree_pointsFindings, errorFree_typeFindings, errorFree_identFindings,
    points?_ne_none_iff, valueUnder_eq_some_iff (show "question_type" ≠ "" by decide)]
  constructor
  · rintro ⟨⟨⟨hmetadata, hpoints⟩, htype⟩, hident⟩
    exact ⟨by simpa using hmetadata, hpoints, htype, hident⟩
  · rintro ⟨hmetadata, hpoints, htype, hident⟩
    exact ⟨⟨⟨by simpa using hmetadata, hpoints⟩, htype⟩, hident⟩

lemma errorFree_choiceFindings {response : Element} :
    ErrorFree (choiceFindings id (labelsOf? response)) ↔ OffersChoice response := by
  unfold choiceFindings labelsOf? OffersChoice
  cases (response.descendantsNamed "render_choice").head? with
  | none => simp
  | some choices =>
    have hlabels : ErrorFree ((choices.descendantsNamed "response_label").flatMap
        (labelFindings id)) :=
      errorFree_flatMap.mpr fun label _ => errorFree_contentFindings (by decide) _ _ _
    simp only [Option.map_some, errorFree_append, errorFree_when_error, decide_eq_false_iff_not,
      Nat.not_lt, hlabels, and_true, Option.some.injEq, forall_eq']

lemma errorFree_scoringFindings (processing : Element) :
    ErrorFree (scoringFindings processing id) := by
  unfold scoringFindings
  dsimp only
  split <;> simp

lemma hasAnswer_iff {processing : Element} :
    hasAnswer processing = true ↔ ∃ condition ∈ processing.descendantsNamed "conditionvar",
      condition.descendantsNamed "varequal" ≠ [] := by
  simp [hasAnswer, List.any_eq_true]

theorem errorFree_processingFindings {isFreeText : Bool} :
    ErrorFree (processingFindings strict item id isFreeText) ↔
      (isFreeText = false → Scored strict item) := by
  unfold processingFindings
  split
  · next hnone =>
    have hscored : Scored strict item ↔ strict = false := by
      constructor
      · intro h
        by_contra hstrict
        exact h.present (by simpa using hstrict) hnone
      · rintro rfl
        exact ⟨fun processing h => by simp [hnone] at h, fun h => by cases h⟩
    rw [hscored]
    cases isFreeText <;> cases strict <;> simp
  · next processing hsome =>
    have hscored : Scored strict item ↔ hasAnswer processing = true := by
      rw [hasAnswer_iff]
      constructor
      · exact fun h => h.compares processing hsome
      · intro h
        refine ⟨fun other hother => ?_, fun _ => by simp [hsome]⟩
        obtain rfl : processing = other := Option.some.inj (hsome ▸ hother)
        exact h
    have hrest : ErrorFree (if strict then scoringFindings processing id else []) := by
      split
      · exact errorFree_scoringFindings processing
      · exact errorFree_nil
    simp only [errorFree_append, errorFree_when_error, hrest, and_true, hscored]
    cases isFreeText <;> simp

theorem errorFree_responseFindings {isFreeText : Bool}
    (hfree : isFreeText = true ↔ InFreeText item) :
    ErrorFree (responseFindings strict item presentation id isFreeText) ↔
      Answerable strict item presentation := by
  have hgraded : (isFreeText = false → Scored strict item) ↔
      (¬InFreeText item → Scored strict item) := by
    rw [← hfree, Bool.not_eq_true]
  unfold responseFindings
  split
  · next response hresponse =>
    rw [errorFree_append, errorFree_choiceFindings, errorFree_processingFindings, hgraded]
    constructor
    · rintro ⟨hoffers, hscored⟩
      exact .choice hresponse hoffers hscored
    · intro h
      cases h with
      | choice first offers scored =>
        obtain rfl := Option.some.inj (hresponse.symm.trans first)
        exact ⟨offers, scored⟩
      | text noChoice _ => simp [noChoice] at hresponse
  · next hnone =>
    rw [List.head?_eq_none_iff] at hnone
    rw [errorFree_when_error, List.isEmpty_eq_false_iff]
    constructor
    · exact .text hnone
    · intro h
      cases h with
      | choice first _ _ => simp [hnone] at first
      | text _ field => exact field

lemma stemOf_of_isStem {stem : String} (h : IsStem presentation stem) :
    stemOf presentation = stem := by
  unfold stemOf
  cases h with
  | markedUp h => simp [h]
  | plain h hm => simp [h, hm]

/-- Without material the text is empty, and so too short. -/
lemma safeStem_stemOf_iff :
    SafeStem (stemOf presentation) ↔ ∃ stem, IsStem presentation stem ∧ SafeStem stem := by
  constructor
  · intro h
    refine ⟨stemOf presentation, ?_, h⟩
    unfold stemOf at h ⊢
    cases hm : presentation.first? ["material", "mattext"] with
    | some text => exact .markedUp hm
    | none =>
      cases hp : presentation.first? ["material"] with
      | some material => exact .plain hm hp
      | none =>
        rw [hm, hp] at h
        exact absurd h.long (by decide)
  · rintro ⟨stem, hstem, hsafe⟩
    rwa [stemOf_of_isStem hstem]

theorem errorFree_presentedFindings :
    ErrorFree (presentedFindings strict item presentation id) ↔
      Presented strict item presentation := by
  have hstrict : ErrorFree (if strict then strictFindings item id (metadataOf item) else []) ↔
      (strict = true → Described item) := by
    cases strict <;> simp [errorFree_strictFindings]
  have hstem : ErrorFree (contentFindings stemRules (stemOf presentation) id "") :=
    errorFree_contentFindings (by decide) _ _ _
  unfold presentedFindings
  dsimp only
  simp only [errorFree_append, errorFree_when_error, errorFree_when_warning, and_true,
    errorFree_securityRules_iff, hstem, hstrict, decide_eq_false_iff_not, not_lt,
    errorFree_responseFindings contains_freeTextTypes_iff]
  constructor
  · rintro ⟨⟨⟨hlong, hsafe⟩, hdescribed⟩, hanswer⟩
    exact ⟨safeStem_stemOf_iff.mp ⟨hlong, hsafe⟩, hanswer, hdescribed⟩
  · rintro ⟨hstem, hanswer, hdescribed⟩
    obtain ⟨hlong, hsafe⟩ := safeStem_stemOf_iff.mpr hstem
    exact ⟨⟨⟨hlong, hsafe⟩, hdescribed⟩, hanswer⟩

theorem errorFree_itemFindings {number : Nat} :
    ErrorFree (itemFindings strict number item) ↔ AcceptedItem strict item := by
  unfold itemFindings AcceptedItem
  dsimp only
  split
  · next hnone => simp [hnone]
  · next presentation hsome =>
    simp [hsome, errorFree_presentedFindings]

theorem errorFree_eachItem {number : Nat} {items : List Element} :
    ErrorFree (eachItem strict number items) ↔ ∀ item ∈ items, AcceptedItem strict item := by
  induction items generalizing number with
  | nil => simp [eachItem]
  | cons item items ih => simp [eachItem, errorFree_itemFindings, ih]

theorem errorFree_sectionFindings {sections : List Element} :
    ErrorFree (sectionFindings strict sections) ↔ sections ≠ [] ∧ collectItems sections ≠ [] ∧
      ∀ item ∈ collectItems sections, AcceptedItem strict item := by
  unfold sectionFindings
  dsimp only
  split
  · next h => simp [List.isEmpty_iff.mp h]
  · next h =>
    have hsections : sections ≠ [] := by simpa using h
    split
    · next h => simp [List.isEmpty_iff.mp h]
    · next h =>
      have hitems : collectItems sections ≠ [] := by simpa using h
      simp [hsections, hitems, errorFree_eachItem]

lemma errorFree_assessmentFindings {assessment : Element} :
    ErrorFree (assessmentFindings strict assessment) ↔
      (strict = true → assessment.attribute? "ident" ≠ none) := by
  cases strict <;> simp [assessmentFindings, Option.isSome_iff_ne_none]

end ErrorFree

/-! ### Identifiers -/

section Identifiers

variable {strict : Bool} {item presentation : Element} {id : String}

lemma identifiers_pointsFindings (points : Option Float) :
    identifiers (pointsFindings id points) = [] := by
  cases points with
  | none => rfl
  | some x => exact identifiers_when_warning

lemma identifiers_typeFindings (type : Option String) :
    identifiers (typeFindings id type) = [] := by
  unfold typeFindings
  split
  · rfl
  · split
    · rfl
    · exact identifiers_when_warning

lemma identifiers_identFindings (ident : Option String) :
    identifiers (identFindings ident) = [] := by
  cases ident with
  | none => rfl
  | some i => exact identifiers_when_error

lemma identifiers_strictFindings (metadata : List (String × String)) :
    identifiers (strictFindings item id metadata) = [] := by
  simp [strictFindings, identifiers_pointsFindings, identifiers_typeFindings,
    identifiers_identFindings]

lemma identifiers_choiceFindings (labels : Option (List Element)) :
    identifiers (choiceFindings id labels) = [] := by
  cases labels with
  | none => rfl
  | some labels =>
    simp [choiceFindings, identifiers_flatMap, labelFindings, identifiers_contentFindings]

lemma identifiers_scoringFindings (processing : Element) :
    identifiers (scoringFindings processing id) = [] := by
  unfold scoringFindings
  dsimp only
  rw [identifiers_append, identifiers_when_warning, List.append_nil]
  split
  · rfl
  · exact identifiers_when_warning

lemma identifiers_processingFindings (isFreeText : Bool) :
    identifiers (processingFindings strict item id isFreeText) = [] := by
  unfold processingFindings
  split
  · cases isFreeText <;> cases strict <;> rfl
  · cases strict <;> simp [identifiers_scoringFindings]

lemma identifiers_responseFindings (isFreeText : Bool) :
    identifiers (responseFindings strict item presentation id isFreeText) = [] := by
  unfold responseFindings
  split
  · simp [identifiers_choiceFindings, identifiers_processingFindings]
  · exact identifiers_when_error

lemma identifiers_presentedFindings :
    identifiers (presentedFindings strict item presentation id) = [] := by
  cases strict <;>
    simp [presentedFindings, identifiers_contentFindings, identifiers_strictFindings,
      identifiers_responseFindings]

/-- An item brings its own identifier and nothing else. -/
theorem identifiers_itemFindings (number : Nat) :
    identifiers (itemFindings strict number item) = (item.attribute? "ident").toList := by
  unfold itemFindings
  dsimp only
  rw [identifiers_cons, Finding.brings_attribute]
  split
  · simp [identifiers_cons, Finding.brings]
  · simp [identifiers_presentedFindings]

theorem identifiers_eachItem (number : Nat) (items : List Element) :
    identifiers (eachItem strict number items) = items.filterMap (·.attribute? "ident") := by
  induction items generalizing number with
  | nil => rfl
  | cons item items ih =>
    rw [eachItem, identifiers_append, identifiers_itemFindings, ih, List.filterMap_cons]
    cases item.attribute? "ident" <;> rfl

lemma identifiers_sectionFindings (sections : List Element) :
    identifiers (sectionFindings strict sections) =
      (collectItems sections).filterMap (·.attribute? "ident") := by
  unfold sectionFindings
  dsimp only
  split
  · next h =>
    rw [List.isEmpty_iff.mp h]
    rfl
  · split
    · next h =>
      rw [List.isEmpty_iff.mp h]
      rfl
    · rw [identifiers_cons, identifiers_eachItem]
      rfl

lemma identifiers_assessmentFindings (assessment : Element) :
    identifiers (assessmentFindings strict assessment) = [] := by
  cases strict <;> simp [assessmentFindings]

end Identifiers

/-! ### The verdict -/

/-- A fresh report is left without errors by the check of a document exactly if the document has
an assessment and the first one is accepted. -/
theorem findings_accepted_iff (strict : Bool) (root : Element) :
    (Registry.empty.takeAll (findings strict root)).report.errors = [] ↔
      ∃ assessment, root.first? ["assessment"] = some assessment ∧ Accepted strict assessment := by
  rw [Registry.errors_takeAll_empty_eq_nil_iff]
  unfold findings
  cases hroot : root.first? ["assessment"] with
  | none => simp
  | some assessment =>
    -- neither membership nor distinctness depends on the order in which items are collected
    have hperm := collectItems_perm assessment
    have hmem : ∀ item, item ∈ collectItems (assessment.childrenNamed "section") ↔
        Collected assessment item := fun item => hperm.mem_iff.trans mem_itemsBelow
    have hids : identifiers (assessmentFindings strict assessment ++
        sectionFindings strict (assessment.childrenNamed "section")) =
          (collectItems (assessment.childrenNamed "section")).filterMap (·.attribute? "ident") := by
      rw [identifiers_append, identifiers_assessmentFindings, identifiers_sectionFindings,
        List.nil_append]
    have hnodup : ((assessment.attribute? "ident").toList ++
        (collectItems (assessment.childrenNamed "section")).filterMap (·.attribute? "ident")).Nodup ↔
          ((assessment :: itemsBelow assessment).filterMap (·.attribute? "ident")).Nodup := by
      have hcons := ((hperm.cons assessment).filterMap (·.attribute? "ident")).nodup_iff
      rw [← hcons, List.filterMap_cons]
      cases assessment.attribute? "ident" <;> rfl
    have hnonempty : collectItems (assessment.childrenNamed "section") ≠ [] ↔
        ∃ item, Collected assessment item := by
      simp only [ne_eq, List.eq_nil_iff_forall_not_mem, not_forall, not_not, hmem]
    simp only [identifiers_cons, hids, Finding.brings_attribute, errorFree_cons, errorFree_append,
      errorFree_assessmentFindings, errorFree_sectionFindings, hmem, hnonempty]
    simp only [Finding.brings, Option.toList_none, List.nil_append, hnodup, ne_eq, reduceCtorEq,
      not_false_eq_true, implies_true, true_and, Option.some.injEq, exists_eq_left']
    constructor
    · rintro ⟨⟨hnamed, hsection, hitem, hitems⟩, hdistinct⟩
      exact ⟨hsection, hitem, hitems, hdistinct, hnamed⟩
    · rintro ⟨hsection, hitem, hitems, hdistinct, hnamed⟩
      exact ⟨⟨hnamed, hsection, hitem, hitems⟩, hdistinct⟩

end Package.Legacy

end QuizPreflight
