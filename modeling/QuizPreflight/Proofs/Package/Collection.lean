import QuizPreflight.Proofs.Markup.Placing
import QuizPreflight.Proofs.Package.Isolation
import QuizPreflight.Proofs.Package.Security
import QuizPreflight.Proofs.Package.Verdict

/-!
# The items of a legacy document

An item counts if nothing but sections stands around it, down from one of the sections that are
looked through. Items are told apart by their places, and collecting lists those that count in
document order. The report on a document says how many there are. Sections nest without a bound:
no limit is set here to how deep calls may be nested.
-/
namespace QuizPreflight.Package.Legacy

open Markup

/-- An item stands at a place below an element, and all elements between are sections. -/
inductive ItemAt : Element → List Nat → Element → Prop
  | child {e item : Element} {i : Nat} (nth : e.children[i]? = some item)
      (named : item.tag = "item") : ItemAt e [i] item
  | inside {e s item : Element} {i : Nat} {place : List Nat} (nth : e.children[i]? = some s)
      (named : s.tag = "section") (rest : ItemAt s place item) : ItemAt e (i :: place) item

mutual

/-- The items of a section with their places. -/
def placedItems : Element → List (List Nat × Element)
  | .mk _ _ _ children _ => placedItemsAmong 0 children

/-- The items among some elements and in the sections among them; the first of the elements has the
given number. -/
def placedItemsAmong (number : Nat) : List Element → List (List Nat × Element)
  | [] => []
  | e :: es => (if e.tag == "item" then [([], e)] else if e.tag == "section" then placedItems e
      else []).map (fun v => (number :: v.1, v.2)) ++ placedItemsAmong (number + 1) es

end

/-- What an element brings as a child of a section: itself, or the items in it. -/
def placedOf (e : Element) : List (List Nat × Element) :=
  if e.tag == "item" then [([], e)] else if e.tag == "section" then placedItems e else []

section Places

variable {e item : Element} {place : List Nat}

lemma placedItemsAmong_eq (number : Nat) (es : List Element) :
    placedItemsAmong number es = Element.eachPlaced placedOf number es := by
  induction es generalizing number with
  | nil => rfl
  | cons e es ih => rw [placedItemsAmong, Element.eachPlaced, ih, placedOf]

lemma placedItems_eq (e : Element) : placedItems e = Element.eachPlaced placedOf 0 e.children := by
  cases e
  rw [placedItems, placedItemsAmong_eq, Element.children]

lemma mem_placedItems_nil : ([], item) ∉ placedItems e := by
  rw [placedItems_eq, Element.mem_eachPlaced]
  simp

/-- An item is listed under each place where it stands, and under no other. -/
theorem mem_placedItems : (place, item) ∈ placedItems e ↔ ItemAt e place item := by
  induction place generalizing e with
  | nil => exact iff_of_false mem_placedItems_nil (by rintro ⟨⟩)
  | cons i place ih =>
    rw [placedItems_eq, Element.mem_eachPlaced]
    constructor
    · rintro ⟨j, rest, c, heq, hc, hmem⟩
      rw [Nat.zero_add] at heq
      obtain ⟨rfl, rfl⟩ := List.cons.inj heq
      unfold placedOf at hmem
      split at hmem
      · next htag =>
        obtain ⟨rfl, rfl⟩ := Prod.mk.inj (List.mem_singleton.mp hmem)
        exact .child hc (by simpa using htag)
      · split at hmem
        · next htag => exact .inside hc (by simpa using htag) (ih.mp hmem)
        · cases hmem
    · rintro (⟨nth, named⟩ | ⟨nth, named, rest⟩)
      · exact ⟨i, [], item, by rw [Nat.zero_add], nth, by simp [placedOf, named]⟩
      · refine ⟨i, place, _, by rw [Nat.zero_add], nth, ?_⟩
        rw [placedOf, named]
        exact ih.mpr rest

mutual

theorem pairwise_placedItems : ∀ e : Element,
    (placedItems e).Pairwise fun v w => Element.Precedes v.1 w.1
  | .mk tag attributes text children tail => by
    rw [placedItems, placedItemsAmong_eq]
    exact Element.pairwise_eachPlaced (forall_pairwise_placedOf children)

lemma forall_pairwise_placedOf : ∀ es : List Element, ∀ e ∈ es,
    (placedOf e).Pairwise fun v w => Element.Precedes v.1 w.1
  | [] => by simp
  | e :: es => by
    have hsection := pairwise_placedItems e
    rw [List.forall_mem_cons]
    refine ⟨?_, forall_pairwise_placedOf es⟩
    unfold placedOf
    split
    · exact List.pairwise_singleton _ _
    · split
      · exact hsection
      · exact List.Pairwise.nil

end

mutual

theorem map_snd_placedItems : ∀ e : Element, (placedItems e).map Prod.snd = itemsOf e
  | .mk tag attributes text children tail => by
    rw [placedItems, itemsOf, map_snd_placedItemsAmong 0 children]

lemma map_snd_placedItemsAmong (number : Nat) : ∀ es : List Element,
    (placedItemsAmong number es).map Prod.snd = itemsAmong es
  | [] => by rw [placedItemsAmong, itemsAmong, List.map_nil]
  | .mk tag attributes text children tail :: rest => by
    have htag : (Element.mk tag attributes text children tail).tag = tag := rfl
    have hsection := map_snd_placedItems (.mk tag attributes text children tail)
    rw [itemsOf] at hsection
    rw [placedItemsAmong, itemsAmong, List.map_append, List.map_map, htag,
      map_snd_placedItemsAmong (number + 1) rest]
    refine congrArg (· ++ itemsAmong rest) ?_
    split
    · rfl
    · split
      · exact hsection
      · rfl

end

end Places

/-! ### Collected items -/

section Collecting

variable {sections : List Element} {strict : Bool} {root assessment : Element}

/-- The items of some sections with their places, of which the first number is that of the
section. -/
def placedIn (sections : List Element) : List (List Nat × Element) :=
  Element.eachPlaced placedItems 0 sections

lemma map_snd_placedIn (sections : List Element) :
    (placedIn sections).map Prod.snd = collectItems sections := by
  rw [placedIn, Element.map_snd_eachPlaced, collectItems]
  exact congrArg (sections.flatMap ·) (funext map_snd_placedItems)

theorem mem_placedIn {place : List Nat} {item : Element} : (place, item) ∈ placedIn sections ↔
    ∃ i rest s, place = i :: rest ∧ sections[i]? = some s ∧ ItemAt s rest item := by
  rw [placedIn, Element.mem_eachPlaced]
  simp only [Nat.zero_add, mem_placedItems]

/-- Nothing but the number of the items is counted. -/
lemma itemsIn_itemFindings (number : Nat) (item : Element) :
    itemsIn (itemFindings strict number item) = 0 := by
  unfold itemFindings
  dsimp only
  split
  · rfl
  · next presentation hpresentation =>
    obtain ⟨before, after, hsplit, hbefore, hafter⟩ :=
      presentedFindings_eq strict item presentation (itemName item number)
    have hdangers : AllWorded [('S', 'e')]
        (contentFindings securityRules (stemOf presentation) (itemName item number) "") :=
      allWorded_securityRules List.mem_cons_self _ _ _
    rw [hsplit, itemsIn, itemsIn_append, itemsIn_append, itemsIn_of_allWorded hbefore,
      itemsIn_of_allWorded hdangers, itemsIn_of_allWorded hafter]
    rfl

lemma itemsIn_eachItem (number : Nat) (items : List Element) :
    itemsIn (eachItem strict number items) = 0 := by
  induction items generalizing number with
  | nil => rfl
  | cons item items ih => rw [eachItem, itemsIn_append, itemsIn_itemFindings, ih]

lemma itemsIn_sectionFindings (sections : List Element) :
    itemsIn (sectionFindings strict sections) = (collectItems sections).length := by
  unfold sectionFindings
  dsimp only
  split
  · next h => simp [List.isEmpty_iff.mp h, collectItems, itemsIn, Finding.itemCount]
  · split
    · next h => simp [List.isEmpty_iff.mp h, itemsIn, Finding.itemCount]
    · simp [itemsIn, itemsIn_eachItem, Finding.itemCount]

lemma itemsIn_findings (h : root.first? ["assessment"] = some assessment) :
    itemsIn (findings strict root) =
      (collectItems (assessment.childrenNamed "section")).length := by
  have hassessment : itemsIn (assessmentFindings strict assessment) = 0 := by
    unfold assessmentFindings Finding.when
    repeat' split
    all_goals rfl
  unfold findings
  rw [h]
  simp [itemsIn, itemsIn_append, hassessment, itemsIn_sectionFindings, Finding.itemCount]

lemma itemCount_checked (fs : List Finding) (interruption : Option Interruption) :
    (Outcome.checked fs interruption).report.details.itemCount = itemsIn fs := by
  have hcount := Registry.itemCount_takeAll Registry.empty fs
  have hzero : Registry.empty.report.details.itemCount = 0 := rfl
  rw [hzero, Nat.zero_add] at hcount
  cases interruption <;> exact hcount

/-- Collecting lists the items of some sections with their places in document order, each place
once: an item is listed under a place exactly if it stands there below one of the sections and all
elements between are sections. The items of sections put together are those of the first and then
those of the others. The report on a document whose assessment has these sections counts what is
collected of them. -/
theorem collectItems_placed (sections : List Element) :
    (∃ placed : List (List Nat × Element),
      collectItems sections = placed.map Prod.snd ∧
      (placed.Pairwise fun v w => Element.Precedes v.1 w.1) ∧
      ∀ place item, (place, item) ∈ placed ↔
        ∃ i rest s, place = i :: rest ∧ sections[i]? = some s ∧ ItemAt s rest item) ∧
    (∀ others, collectItems (sections ++ others) = collectItems sections ++ collectItems others) ∧
    ∀ strict root assessment interruption, root.first? ["assessment"] = some assessment →
      assessment.childrenNamed "section" = sections →
      (Outcome.checked (findings strict root) interruption).report.details.itemCount =
        (collectItems sections).length := by
  refine ⟨⟨placedIn sections, (map_snd_placedIn sections).symm, ?_, fun _ _ => mem_placedIn⟩,
    fun others => List.flatMap_append, ?_⟩
  · exact Element.pairwise_eachPlaced fun s _ => pairwise_placedItems s
  · rintro strict root assessment interruption hroot rfl
    rw [itemCount_checked, itemsIn_findings hroot]

end Collecting

end QuizPreflight.Package.Legacy
