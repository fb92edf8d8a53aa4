import QuizPreflight.Proofs.Package.Acceptance
import QuizPreflight.Proofs.Package.Recording

/-!
# Items on their own

The check of a legacy document threads one registry through all items, but only the identifiers
reach from one item to the next. So two documents that differ in one item, and not in its
identifier, are found the same before that item and behind it.
-/
namespace QuizPreflight.Package

open Markup

namespace Registry

variable {g : Registry} {fs gs : List Finding}

/-- The same identifiers with a fresh report. -/
def cleared (g : Registry) : Registry := ⟨Report.empty, g.seen⟩

lemma seen_takeAll (g : Registry) (fs : List Finding) :
    (g.takeAll fs).seen = (identifiers fs).foldl (fun seen id => seen.insert id) g.seen := by
  induction fs generalizing g with
  | nil => rfl
  | cons f fs ih =>
    have hrest := ih (g.take f)
    rw [takeAll] at hrest ⊢
    rw [List.foldl_cons, hrest, seen_take, identifiers_cons]
    cases f.brings <;> rfl

/-- Findings that bring the same identifiers leave the same ones behind. -/
lemma cleared_takeAll_congr (h : identifiers fs = identifiers gs) :
    (g.takeAll fs).cleared = (g.takeAll gs).cleared := by
  rw [cleared, cleared, seen_takeAll, seen_takeAll, h]

lemma errors_take_cleared (g : Registry) (f : Finding) :
    (g.take f).report.errors = g.report.errors ++ (g.cleared.take f).report.errors := by
  cases f with
  | identifier value source =>
    cases hb : (Finding.identifier value source).brings with
    | none =>
      rw [take_of_brings_none hb, take_of_brings_none hb]
      exact (List.append_nil _).symm
    | some id =>
      rw [take_of_brings_some hb, take_of_brings_some hb]
      by_cases hseen : id ∈ g.seen
      · rw [if_pos hseen, if_pos (show id ∈ g.cleared.seen from hseen)]
        rfl
      · rw [if_neg hseen, if_neg (show id ∉ g.cleared.seen from hseen)]
        exact (List.append_nil _).symm
  | error message => rfl
  | _ => exact (List.append_nil _).symm

/-- What findings add to a report depends on the identifiers seen before, and on nothing else that
was recorded. -/
theorem errors_takeAll_cleared (g : Registry) (fs : List Finding) :
    (g.takeAll fs).report.errors = g.report.errors ++ (g.cleared.takeAll fs).report.errors := by
  induction fs generalizing g with
  | nil => exact (List.append_nil _).symm
  | cons f fs ih =>
    have hseen : (g.take f).seen = (g.cleared.take f).seen := by
      rw [seen_take, seen_take]
      rfl
    have hcleared : (g.take f).cleared = (g.cleared.take f).cleared := by
      rw [cleared, cleared, hseen]
    have hrest := ih (g.take f)
    have hfresh := ih (g.cleared.take f)
    rw [takeAll] at hrest hfresh ⊢
    rw [List.foldl_cons, hrest, errors_take_cleared, hcleared, List.append_assoc, ← hfresh]
    rfl

theorem warnings_takeAll_cleared (g : Registry) (fs : List Finding) :
    (g.takeAll fs).report.warnings = g.report.warnings ++ (g.cleared.takeAll fs).report.warnings := by
  rw [warnings_takeAll, warnings_takeAll]
  rfl

end Registry

/-- The entries of a report are those that were there at first, then own ones, then the rest. -/
structure Report.Parted (r first own rest : Report) : Prop where
  errors : r.errors = first.errors ++ own.errors ++ rest.errors
  warnings : r.warnings = first.warnings ++ own.warnings ++ rest.warnings

theorem Registry.parted_takeAll {g : Registry} (opening own rest : List Finding) :
    (g.takeAll (opening ++ own ++ rest)).report.Parted (g.takeAll opening).report
      ((g.takeAll opening).cleared.takeAll own).report
      (((g.takeAll opening).takeAll own).cleared.takeAll rest).report where
  errors := by
    rw [Registry.takeAll_append, Registry.takeAll_append, Registry.errors_takeAll_cleared,
      Registry.errors_takeAll_cleared (g.takeAll opening)]
  warnings := by
    rw [Registry.takeAll_append, Registry.takeAll_append, Registry.warnings_takeAll_cleared,
      Registry.warnings_takeAll_cleared (g.takeAll opening)]

namespace Legacy

variable {strict : Bool} {a b s s' root root' : Element}

/-! ### Documents that differ in one item -/

/-- Two sections that hold the same but for one item, which stands in them or in a section
inside. -/
inductive Exchanged (a b : Element) : Element → Element → Prop
  | here {attributes : List (String × String)} {text tail : String} (before after : List Element) :
      Exchanged a b (.mk "section" attributes text (before ++ a :: after) tail)
        (.mk "section" attributes text (before ++ b :: after) tail)
  | inside {attributes : List (String × String)} {text tail : String} (before after : List Element)
      {s s' : Element} (h : Exchanged a b s s') :
      Exchanged a b (.mk "section" attributes text (before ++ s :: after) tail)
        (.mk "section" attributes text (before ++ s' :: after) tail)

/-- Two documents that hold the same but for one item of their first assessment. -/
inductive DifferIn (a b : Element) : Element → Element → Prop
  | intro {tag text tail text' tail' : String} {attributes attributes' : List (String × String)}
      (preceding following before after : List Element) {s s' : Element}
      (first : ∀ e ∈ preceding, e.tag ≠ "assessment") (h : Exchanged a b s s') :
      DifferIn a b
        (.mk tag attributes text (preceding ++
          .mk "assessment" attributes' text' (before ++ s :: after) tail' :: following) tail)
        (.mk tag attributes text (preceding ++
          .mk "assessment" attributes' text' (before ++ s' :: after) tail' :: following) tail)

/-- The items of a document. -/
def collectedItems (root : Element) : List Element :=
  match root.first? ["assessment"] with
  | none => []
  | some assessment => collectItems (assessment.childrenNamed "section")

/-- The findings on the assessment of a document that has items, before those on the items. -/
def openingFindings (strict : Bool) (root : Element) : List Finding :=
  match root.first? ["assessment"] with
  | none => []
  | some assessment =>
    .manifest :: .test :: .identifier (assessment.attribute? "ident") "Assessment" ::
      (assessmentFindings strict assessment ++ [.items (collectedItems root).length])

lemma itemsAmong_append (es es' : List Element) :
    itemsAmong (es ++ es') = itemsAmong es ++ itemsAmong es' := by
  induction es with
  | nil => rw [List.nil_append, itemsAmong, List.nil_append]
  | cons e es ih =>
    obtain ⟨tag, attributes, text, children, tail⟩ := e
    rw [List.cons_append, itemsAmong, itemsAmong, ih, List.append_assoc]

lemma itemsAmong_item (h : a.tag = "item") (es : List Element) :
    itemsAmong (a :: es) = a :: itemsAmong es := by
  obtain ⟨tag, attributes, text, children, tail⟩ := a
  obtain rfl : tag = "item" := h
  rw [itemsAmong, if_pos (beq_self_eq_true _)]
  rfl

lemma itemsAmong_section (h : s.tag = "section") (es : List Element) :
    itemsAmong (s :: es) = itemsOf s ++ itemsAmong es := by
  obtain ⟨tag, attributes, text, children, tail⟩ := s
  obtain rfl : tag = "section" := h
  rw [itemsAmong, if_neg (by decide), if_pos (beq_self_eq_true _), itemsOf]

lemma Exchanged.tag (h : Exchanged a b s s') : s.tag = "section" ∧ s'.tag = "section" := by
  cases h <;> exact ⟨rfl, rfl⟩

/-- Of two such sections the same items are collected before the one item and behind it. -/
theorem Exchanged.itemsOf (ha : a.tag = "item") (hb : b.tag = "item") (h : Exchanged a b s s') :
    ∃ before after, itemsOf s = before ++ a :: after ∧ itemsOf s' = before ++ b :: after := by
  induction h with
  | here before after =>
    refine ⟨itemsAmong before, itemsAmong after, ?_, ?_⟩
    · rw [Legacy.itemsOf, itemsAmong_append, itemsAmong_item ha]
    · rw [Legacy.itemsOf, itemsAmong_append, itemsAmong_item hb]
  | inside before after h ih =>
    obtain ⟨first, rest, hs, hs'⟩ := ih
    refine ⟨itemsAmong before ++ first, rest ++ itemsAmong after, ?_, ?_⟩
    · rw [Legacy.itemsOf, itemsAmong_append, itemsAmong_section h.tag.1, hs]
      simp
    · rw [Legacy.itemsOf, itemsAmong_append, itemsAmong_section h.tag.2, hs']
      simp

lemma eachItem_append (number : Nat) (items items' : List Element) :
    eachItem strict number (items ++ items') =
      eachItem strict number items ++ eachItem strict (number + items.length) items' := by
  induction items generalizing number with
  | nil => rfl
  | cons item items ih =>
    rw [List.cons_append, eachItem, eachItem, ih, List.append_assoc, List.length_cons,
      Nat.add_right_comm, Nat.add_assoc number]

/-- Items are checked one by one after their assessment. -/
lemma findings_eq (hne : collectedItems root ≠ []) : findings strict root =
    openingFindings strict root ++ eachItem strict 1 (collectedItems root) := by
  unfold collectedItems at hne
  unfold findings openingFindings collectedItems
  cases hroot : root.first? ["assessment"] with
  | none =>
    rw [hroot] at hne
    exact absurd rfl hne
  | some assessment =>
    have hne : collectItems (assessment.childrenNamed "section") ≠ [] := by
      rw [hroot] at hne
      exact hne
    have hempty : (collectItems (assessment.childrenNamed "section")).isEmpty = false :=
      List.isEmpty_eq_false_iff.mpr hne
    have hsections : (assessment.childrenNamed "section").isEmpty = false := by
      rw [List.isEmpty_eq_false_iff]
      intro hnil
      rw [hnil] at hne
      exact hne rfl
    simp [sectionFindings, hsections, hempty]

lemma first?_of_preceding {e assessment : Element} {preceding following : List Element}
    (hchildren : e.children = preceding ++ assessment :: following)
    (htag : assessment.tag = "assessment") (h : ∀ x ∈ preceding, x.tag ≠ "assessment") :
    e.first? ["assessment"] = some assessment := by
  have hnone : preceding.filter (·.tag == "assessment") = [] :=
    List.filter_eq_nil_iff.mpr fun x hx => by simpa using h x hx
  rw [Element.first?, Element.select, Element.childrenNamed, hchildren, List.filter_append, hnone,
    List.nil_append, List.filter_cons_of_pos (by simpa using htag), List.flatMap_cons]
  rfl

/-- The items of a document are those of one section of its first assessment, with those of the
sections before it and behind it. -/
lemma collectedItems_eq {assessment : Element} {preceding following before after : List Element}
    (hroot : root.children = preceding ++ assessment :: following)
    (htag : assessment.tag = "assessment") (first : ∀ x ∈ preceding, x.tag ≠ "assessment")
    (hassessment : assessment.children = before ++ s :: after) (hs : s.tag = "section") :
    collectedItems root = collectItems (before.filter (·.tag == "section")) ++ itemsOf s ++
      collectItems (after.filter (·.tag == "section")) := by
  unfold collectedItems
  rw [first?_of_preceding hroot htag first]
  dsimp only
  rw [Element.childrenNamed, hassessment, List.filter_append,
    List.filter_cons_of_pos (by simpa using hs), collectItems, List.flatMap_append,
    List.flatMap_cons, List.append_assoc]
  rfl

/-- Two such documents have the same items before the one item and behind it. -/
theorem DifferIn.collectedItems (ha : a.tag = "item") (hb : b.tag = "item")
    (h : DifferIn a b root root') : ∃ before after,
      collectedItems root = before ++ a :: after ∧ collectedItems root' = before ++ b :: after := by
  cases h with
  | intro preceding following before after first h =>
    obtain ⟨front, rest, hs, hs'⟩ := h.itemsOf ha hb
    refine ⟨collectItems (before.filter (·.tag == "section")) ++ front,
      rest ++ collectItems (after.filter (·.tag == "section")), ?_, ?_⟩
    · rw [collectedItems_eq rfl rfl first rfl h.tag.1, hs]
      simp
    · rw [collectedItems_eq rfl rfl first rfl h.tag.2, hs']
      simp

/-- The assessments of two such documents are found alike. -/
theorem DifferIn.openingFindings (ha : a.tag = "item") (hb : b.tag = "item")
    (h : DifferIn a b root root') :
    openingFindings strict root = openingFindings strict root' := by
  obtain ⟨before, after, hitems, hitems'⟩ := h.collectedItems ha hb
  have hcount : (Legacy.collectedItems root).length = (Legacy.collectedItems root').length := by
    rw [hitems, hitems']
    simp
  unfold Legacy.openingFindings
  rw [hcount]
  cases h with
  | intro preceding following before after first _ =>
    rw [first?_of_preceding rfl rfl first, first?_of_preceding rfl rfl first]
    rfl

/-- Documents that differ in one item, which has the same identifier in both, are found the same
but for that item. What comes before its entries in a report is of the assessment and of the items
before it; what comes behind them is of the items behind it, on which nothing bears but the
identifiers seen before. -/
theorem findings_isolated (ha : a.tag = "item") (hb : b.tag = "item")
    (hident : a.attribute? "ident" = b.attribute? "ident") (h : DifferIn a b root root')
    (strict : Bool) :
    ∃ before after, collectedItems root = before ++ a :: after ∧
      collectedItems root' = before ++ b :: after ∧
      ∀ g : Registry, ∃ first next : Registry,
        first = g.takeAll (openingFindings strict root ++ eachItem strict 1 before) ∧
        next.report = Report.empty ∧
        (∀ id, id ∈ next.seen ↔ a.attribute? "ident" = some id ∨ id ∈ first.seen) ∧
        (g.takeAll (findings strict root)).report.Parted first.report
          (first.cleared.takeAll (itemFindings strict (before.length + 1) a)).report
          (next.takeAll (eachItem strict (before.length + 2) after)).report ∧
        (g.takeAll (findings strict root')).report.Parted first.report
          (first.cleared.takeAll (itemFindings strict (before.length + 1) b)).report
          (next.takeAll (eachItem strict (before.length + 2) after)).report := by
  obtain ⟨before, after, hitems, hitems'⟩ := h.collectedItems ha hb
  refine ⟨before, after, hitems, hitems', fun g => ?_⟩
  have hfindings (x r : Element) (hr : collectedItems r = before ++ x :: after) :
      findings strict r = openingFindings strict r ++ eachItem strict 1 before ++
        itemFindings strict (before.length + 1) x ++ eachItem strict (before.length + 2) after := by
    rw [findings_eq (by simp [hr]), hr, eachItem_append, eachItem, Nat.add_comm 1 before.length]
    simp only [List.append_assoc]
  obtain ⟨first, hfirst⟩ : ∃ first,
      first = g.takeAll (openingFindings strict root ++ eachItem strict 1 before) := ⟨_, rfl⟩
  have hnext : (first.takeAll (itemFindings strict (before.length + 1) a)).cleared =
      (first.takeAll (itemFindings strict (before.length + 1) b)).cleared := by
    refine Registry.cleared_takeAll_congr ?_
    rw [identifiers_itemFindings, identifiers_itemFindings, hident]
  refine ⟨first, (first.takeAll (itemFindings strict (before.length + 1) a)).cleared, hfirst, rfl,
    fun id => ?_, ?_, ?_⟩
  · rw [Registry.cleared, Registry.mem_seen_takeAll, identifiers_itemFindings]
    simp
  · rw [hfindings a root hitems, hfirst]
    exact Registry.parted_takeAll _ _ _
  · rw [hnext, hfindings b root' hitems', ← h.openingFindings ha hb, hfirst]
    exact Registry.parted_takeAll _ _ _

/-- An item with a presentation or without it. -/
def itemWith (ident : String) (children : List Element) : Element :=
  .mk "item" [("ident", ident)] "" children ""

/-- An item that is told from the empty one with the same identifier. -/
def lastItem : Element := itemWith "i" [.mk "p" [] "" [] ""]

/-- A document with an item between two others, the last of which has the same identifier. -/
def documentAround (item : Element) : Element :=
  .mk rootTag [] "" [.mk "assessment" [] "" [.mk "section" [] "" [itemWith "h" [],
    .mk "section" [] "" [item] "", lastItem] ""] ""] ""

lemma collectedItems_documentAround {item : Element} (h : item.tag = "item") :
    collectedItems (documentAround item) =
      [itemWith "h" [], item, lastItem] := by
  have hsection := @collectedItems_eq _ (documentAround item) _ [] [] [] [] rfl rfl
    (List.forall_mem_nil _) rfl rfl
  rw [hsection, itemsOf, itemsAmong_item rfl, itemsAmong_section rfl, itemsOf, itemsAmong_item h,
    itemsAmong_item rfl, itemsAmong]
  rfl

/-- An item without a presentation and one with an empty presentation leave the entries of the
others as they are. -/
theorem findings_isolated_documentAround :
    ∃ own own' : List String,
      (Registry.empty.takeAll (findings false (documentAround (itemWith "i" [])))).report.errors =
        ["QTI 1.2: Item h missing <presentation> element"] ++ own ++
          ["Duplicate identifier used: 'i' in Item i",
            "QTI 1.2: Item i missing <presentation> element"] ∧
      (Registry.empty.takeAll (findings false (documentAround
          (itemWith "i" [.mk "presentation" [] "" [] ""])))).report.errors =
        ["QTI 1.2: Item h missing <presentation> element"] ++ own' ++
          ["Duplicate identifier used: 'i' in Item i",
            "QTI 1.2: Item i missing <presentation> element"] := by
  have hdiffer : DifferIn (itemWith "i" []) (itemWith "i" [.mk "presentation" [] "" [] ""])
      (documentAround (itemWith "i" []))
      (documentAround (itemWith "i" [.mk "presentation" [] "" [] ""])) :=
    .intro [] [] [] [] (List.forall_mem_nil _)
      (.inside [itemWith "h" []] [lastItem] (.here [] []))
  have hident : (itemWith "i" []).attribute? "ident" =
      (itemWith "i" [.mk "presentation" [] "" [] ""]).attribute? "ident" := rfl
  obtain ⟨before, after, hitems, -, hreports⟩ := findings_isolated rfl rfl hident hdiffer false
  obtain ⟨first, next, hfirst, hfresh, hseen, hreport, hreport'⟩ := hreports Registry.empty
  rw [collectedItems_documentAround rfl] at hitems
  obtain ⟨rfl, rfl⟩ : before = [itemWith "h" []] ∧ after = [lastItem] := by
    rcases before with _ | ⟨x, _ | ⟨y, _ | ⟨z, before⟩⟩⟩
    · simp [itemWith] at hitems
    · obtain ⟨rfl, -, rfl⟩ : itemWith "h" [] = x ∧ itemWith "i" [] = itemWith "i" [] ∧
          [lastItem] = after := by simpa using hitems
      exact ⟨rfl, rfl⟩
    · simp [itemWith, lastItem] at hitems
    · simp at hitems
  have hbefore : first.report.errors = ["QTI 1.2: Item h missing <presentation> element"] := by
    rw [hfirst]
    rfl
  have hafter :
      (next.takeAll (eachItem false ([itemWith "h" []].length + 2) [lastItem])).report.errors =
        ["Duplicate identifier used: 'i' in Item i",
          "QTI 1.2: Item i missing <presentation> element"] := by
    have hfindings : eachItem false ([itemWith "h" []].length + 2) [lastItem] =
        [.identifier (some "i") "Item i",
          .error "QTI 1.2: Item i missing <presentation> element"] := rfl
    have hbrings : (Finding.identifier (some "i") "Item i").brings = some "i" := rfl
    have hknown : "i" ∈ next.seen := (hseen "i").mpr (.inl rfl)
    rw [hfindings, Registry.takeAll, List.foldl_cons, Registry.take_of_brings_some hbrings,
      if_pos hknown, hfresh]
    rfl
  have herrors := hreport.errors
  have herrors' := hreport'.errors
  rw [hbefore, hafter] at herrors herrors'
  exact ⟨_, _, herrors, herrors'⟩

end Legacy

end QuizPreflight.Package
