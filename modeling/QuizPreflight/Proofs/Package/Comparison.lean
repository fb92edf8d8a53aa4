import QuizPreflight.Package.ContentRule
import QuizPreflight.Proofs.Markup.Escaping
import QuizPreflight.Proofs.Markup.Naming
import QuizPreflight.Proofs.Markup.Writing
import QuizPreflight.Proofs.Text.Matching
import QuizPreflight.Proofs.Text.Trimming

/-!
# Markup is no comparison

Angle brackets are written around tags and nowhere else: names have none and values are escaped. So
if the texts of an element have none either, cutting the tags out of its written content leaves its
plain text, in which no comparison operator is found.
-/
namespace QuizPreflight.Package

open Markup Text

/-- A text without angle brackets. -/
def Unbracketed (s : List Char) : Prop := ∀ c ∈ s, c ≠ '<' ∧ c ≠ '>'

/-- An element whose tags are found in the written form, with no other angle bracket beside them. -/
structure ShownAsTag (e : Element) : Prop where
  tag : e.tag.toList.head?.any isAsciiLetter = true
  text : Unbracketed e.text.toList
  tail : Unbracketed e.tail.toList

section Pieces

variable {c : Char} {s name rest : List Char} {e : Element} {a : String × String}

lemma unbracketed_append {s t : List Char} :
    Unbracketed (s ++ t) ↔ Unbracketed s ∧ Unbracketed t := List.forall_mem_append

lemma unbracketed_cons {c : Char} {s : List Char} :
    Unbracketed (c :: s) ↔ (c ≠ '<' ∧ c ≠ '>') ∧ Unbracketed s := List.forall_mem_cons

lemma unbracketed_of_all (h : (s.all fun c => c != '<' && c != '>') = true) : Unbracketed s :=
  fun c hc => by simpa using List.all_eq_true.mp h c hc

lemma unbracketed_of_nominal (h : Nominal name) : Unbracketed name := by
  intro c hc
  have htoken := h c hc
  constructor <;> (rintro rfl; revert htoken; decide)

/-- Whatever stands in an attribute value, its written form has no angle bracket. -/
lemma unbracketed_quoteValue (value : List Char) : Unbracketed (quoteValue value) := by
  obtain ⟨quote, written, hquote, hvalue, hwrites⟩ := exists_quoteValue value
  have hends : quote ≠ '<' ∧ quote ≠ '>' := by rcases hquote with rfl | rfl <;> decide
  rw [hvalue, unbracketed_cons, unbracketed_append]
  exact ⟨hends, fun c hc => (hwrites.ne_of_mem hquote hc).2, List.forall_mem_singleton.mpr hends⟩

lemma unbracketed_writeAttribute (ha : Nominal a.1.toList) : Unbracketed (writeAttribute a) := by
  rw [writeAttribute, unbracketed_cons, unbracketed_append, unbracketed_cons]
  exact ⟨by decide, unbracketed_of_nominal ha, by decide, unbracketed_quoteValue _⟩

lemma unbracketed_opening (h : e.Named) : Unbracketed e.opening := by
  obtain ⟨⟨htag, hattributes⟩, -⟩ := named_iff.mp h
  refine unbracketed_append.mpr ⟨unbracketed_of_nominal htag, fun c hc => ?_⟩
  obtain ⟨a, ha, hc⟩ := List.mem_flatMap.mp hc
  exact unbracketed_writeAttribute (hattributes a ha) c hc

end Pieces

section Removal

variable {s body rest : List Char} {e : Element} {es : List Element}

/-- A piece of markup begins with an angle bracket. -/
lemma withoutMarkup_text (h : Unbracketed s) (rest : List Char) :
    withoutMarkup (s ++ rest) = s ++ withoutMarkup rest := by
  refine replaceAll_append (fun s' hne hs' => ?_) []
  obtain ⟨c, s', rfl⟩ := List.exists_cons_of_ne_nil hne
  have hc : '<' ≠ c := (h c (hs'.subset List.mem_cons_self)).1.symm
  simp [comment, tag, literal, hc]

/-- A tag is cut out up to its bracket and no further. -/
lemma withoutMarkup_tag {slash : List Char} (hslash : slash = [] ∨ slash = ['/'])
    (hhead : body.head?.any isAsciiLetter = true) (hbody : Unbracketed body) (rest : List Char) :
    withoutMarkup ('<' :: (slash ++ body ++ '>' :: rest)) = withoutMarkup rest := by
  obtain ⟨c, body, rfl⟩ := List.exists_cons_of_ne_nil (l := body) (by rintro rfl; cases hhead)
  have hc : isAsciiLetter c = true := hhead
  have hnot (d : Char) (hd : isAsciiLetter d = false) : d ≠ c := by
    rintro rfl
    exact absurd hc (by simp [hd])
  have hinside : (body ++ '>' :: rest).dropWhile (fun c => c != '<' && c != '>') = '>' :: rest := by
    rw [dropWhile_append_cons (by decide), List.dropWhile_eq_nil_iff.mpr, List.nil_append]
    intro d hd
    simpa using (unbracketed_cons.mp hbody).2 d hd
  have hcomment : comment ('<' :: (slash ++ c :: body ++ '>' :: rest)) = none := by
    rcases hslash with rfl | rfl
    · simp [comment, literal, hnot '!' (by decide)]
    · simp [comment, literal]
  have htag : tag ('<' :: (slash ++ c :: body ++ '>' :: rest)) = some rest := by
    rcases hslash with rfl | rfl <;>
      simp [tag, literal, skip, one, hc, hnot '/' (by decide), hinside]
  refine replaceAll_cons_of_some (by rw [hcomment, htag]; rfl) ?_ []
  exact (List.suffix_cons '>' rest).trans (List.suffix_append _ _)

/-- The tags of an element are cut out; what stands between them is looked at on its own. -/
lemma withoutMarkup_written (hnamed : e.Named) (hshown : ShownAsTag e)
    (hinner : ∀ rest, withoutMarkup (e.innerChars ++ rest) =
      e.textContent.toList ++ withoutMarkup rest) (rest : List Char) :
    withoutMarkup (e.written ++ rest) = e.textContent.toList ++ withoutMarkup rest := by
  have hopening := unbracketed_opening hnamed
  have hname := (unbracketed_append.mp hopening).1
  have hhead (s : List Char) : (e.tag.toList ++ s).head?.any isAsciiLetter = true := by
    obtain ⟨c, hc, hletter⟩ := (Option.any_eq_true _ _).mp hshown.tag
    rw [List.head?_append, hc]
    exact hletter
  rw [Element.written]
  split
  · next h =>
    have hempty : e.innerChars = [] := List.isEmpty_iff.mp h
    have hslash : Unbracketed (e.opening ++ ['/']) :=
      unbracketed_append.mpr ⟨hopening, List.forall_mem_singleton.mpr (by decide)⟩
    have hcut := withoutMarkup_tag (.inl rfl) (List.append_assoc .. ▸ hhead _) hslash rest
    rw [← hinner, hempty]
    simpa using hcut
  · have hclosing : withoutMarkup ('<' :: '/' :: (e.tag.toList ++ '>' :: rest)) =
        withoutMarkup rest := by
      simpa using withoutMarkup_tag (.inr rfl) (by simpa using hhead []) hname rest
    have hcut := withoutMarkup_tag (.inl rfl) (hhead _) hopening
      (e.innerChars ++ '<' :: '/' :: (e.tag.toList ++ '>' :: rest))
    rw [hinner, hclosing, List.nil_append] at hcut
    simpa [Element.opening] using hcut

mutual

lemma withoutMarkup_innerChars : ∀ e : Element, (∀ child ∈ e.children, child.Named) →
    Unbracketed e.text.toList → (∀ y ∈ Element.subtrees e.children, ShownAsTag y) →
    ∀ rest, withoutMarkup (e.innerChars ++ rest) = e.textContent.toList ++ withoutMarkup rest
  | .mk _ _ text children _, hnamed, htext, hshown, rest => by
    have hplain : Unbracketed text.toList := htext
    rw [Element.innerChars, Element.textContent, String.toList_append, List.append_assoc,
      withoutMarkup_text hplain, withoutMarkup_writeAll children hnamed hshown, List.append_assoc]

/-- Elements leave their texts and tails when the tags are cut out, whatever follows them. -/
lemma withoutMarkup_writeAll : ∀ es : List Element, (∀ e ∈ es, e.Named) →
    (∀ y ∈ Element.subtrees es, ShownAsTag y) → ∀ rest,
    withoutMarkup (writeAll es ++ rest) = (Element.textContents es).toList ++ withoutMarkup rest
  | [], _, _, rest => by rw [writeAll, Element.textContents]; rfl
  | e :: es, hnamed, hshown, rest => by
    obtain ⟨he, hes⟩ := List.forall_mem_cons.mp hnamed
    rw [Element.subtrees, List.forall_mem_append, Element.subtree_eq, List.forall_mem_cons]
      at hshown
    obtain ⟨⟨hhead, hbelow⟩, hrest⟩ := hshown
    have hinner := withoutMarkup_innerChars e (named_iff.mp he).2 hhead.text hbelow
    rw [writeAll_cons, List.append_assoc, withoutMarkup_written he hhead hinner,
      List.append_assoc, withoutMarkup_text hhead.tail, withoutMarkup_writeAll es hes hrest]
    simp [Element.textContents]

end

end Removal

section Stems

variable {text : String} {root x : Element}

mutual

lemma unbracketed_textContent : ∀ e : Element, Unbracketed e.text.toList →
    (∀ y ∈ Element.subtrees e.children, ShownAsTag y) → Unbracketed e.textContent.toList
  | .mk _ _ text children _, htext, hshown => by
    rw [Element.textContent, String.toList_append]
    exact unbracketed_append.mpr ⟨htext, unbracketed_textContents children hshown⟩

lemma unbracketed_textContents : ∀ es : List Element,
    (∀ y ∈ Element.subtrees es, ShownAsTag y) → Unbracketed (Element.textContents es).toList
  | [], _ => List.forall_mem_nil _
  | e :: es, hshown => by
    rw [Element.subtrees, List.forall_mem_append, Element.subtree_eq, List.forall_mem_cons]
      at hshown
    obtain ⟨⟨hhead, hbelow⟩, hrest⟩ := hshown
    rw [Element.textContents, String.toList_append, String.toList_append]
    exact unbracketed_append.mpr ⟨unbracketed_append.mpr
      ⟨unbracketed_textContent e hhead.text hbelow, hhead.tail⟩, unbracketed_textContents es hrest⟩

end

/-- A table applies as it does without a rule that does not match. -/
lemma applyRules_eq_filter {rules : List ContentRule} {name : String} {s : List Char}
    (h : ∀ r ∈ rules, r.name = name → r.matches s = false) (value : Field → Option String) :
    applyRules rules s value = applyRules (rules.filter (·.name != name)) s value := by
  have hsame : (rules.filter (·.name != name)).filter (·.matches s) =
      rules.filter (·.matches s) := by
    rw [List.filter_filter]
    refine List.filter_congr fun r hr => ?_
    by_cases hname : r.name = name
    · rw [h r hr hname, Bool.false_and]
    · rw [bne_iff_ne.mpr hname, Bool.and_true]
  rw [applyRules, applyRules, hsame]

lemma matches_comparisonRule {r : ContentRule} (hr : r ∈ stemRules)
    (hname : r.name = "raw_comparison_operator") : r.matches = hasComparison := by
  simp only [stemRules, List.mem_cons, List.not_mem_nil, or_false] at hr
  rcases hr with rfl | rfl
  · simp at hname
  · rfl

/-- Cutting the tags out of the written content of an element leaves its text, whatever its
attributes and however deep it is; so no comparison is ever found in it. -/
theorem withoutMarkup_innerHtml (h : parse text = .ok root) (hx : x ∈ root.subtree)
    (htext : Unbracketed x.text.toList) (hbelow : ∀ y ∈ Element.subtrees x.children, ShownAsTag y) :
    String.ofList (withoutMarkup x.innerHtml.toList) = x.textContent ∧
      hasComparison x.innerHtml.toList = false ∧
      ∀ value, applyRules stemRules x.innerHtml.toList value =
        applyRules (stemRules.filter (·.name != "raw_comparison_operator"))
          x.innerHtml.toList value := by
  have hnamed := (named_iff.mp ((named_of_parse h).of_mem hx)).2
  have hcut : withoutMarkup x.innerHtml.toList = x.textContent.toList := by
    have hinner := withoutMarkup_innerChars x hnamed htext hbelow []
    have hnil : withoutMarkup [] = [] := by rw [withoutMarkup, replaceAll]
    rw [List.append_nil, hnil, List.append_nil] at hinner
    rw [Element.innerHtml, String.toList_ofList, hinner]
  have hnone : hasComparison x.innerHtml.toList = false := by
    rw [hasComparison, hcut, List.any_eq_false]
    intro c hc
    simpa using unbracketed_textContent x htext hbelow c hc
  refine ⟨by rw [hcut, String.ofList_toList], hnone, fun value => ?_⟩
  refine applyRules_eq_filter (fun r hr hname => ?_) value
  rw [matches_comparisonRule hr hname]
  exact hnone

theorem withoutMarkup_nested :
    ∃ root, parse "<p>a <b t='\"&gt;x'>b</b><br/> c</p>" = .ok root ∧ root ∈ root.subtree ∧
      Unbracketed root.text.toList ∧ (∀ y ∈ Element.subtrees root.children, ShownAsTag y) ∧
      String.ofList (withoutMarkup root.innerHtml.toList) = "a b c" ∧
      hasComparison root.innerHtml.toList = false := by
  have hread : (parse "<p>a <b t='\"&gt;x'>b</b><br/> c</p>").toOption.map (fun root =>
      (root.text, root.textContent,
        (Element.subtrees root.children).map fun y => (y.tag, y.text, y.tail))) =
      some ("a ", "a b c", [("b", "b", ""), ("br", "", " c")]) := by
    decide +kernel
  obtain ⟨root, hroot, hparts⟩ := exists_of_toOption_map hread
  simp only [Prod.mk.injEq] at hparts
  obtain ⟨htext, hcontent, hbelow⟩ := hparts
  have hself : root ∈ root.subtree := Element.subtree_eq root ▸ List.mem_cons_self
  have hplain : Unbracketed root.text.toList := htext ▸ unbracketed_of_all rfl
  have hshown : ∀ y ∈ Element.subtrees root.children, ShownAsTag y := by
    intro y hy
    have hmem := List.mem_map_of_mem (f := fun y : Element => (y.tag, y.text, y.tail)) hy
    rw [hbelow] at hmem
    simp only [List.mem_cons, Prod.mk.injEq, List.not_mem_nil, or_false] at hmem
    rcases hmem with ⟨htag, hinside, htail⟩ | ⟨htag, hinside, htail⟩
    · exact ⟨htag ▸ rfl, hinside ▸ unbracketed_of_all rfl, htail ▸ unbracketed_of_all rfl⟩
    · exact ⟨htag ▸ rfl, hinside ▸ unbracketed_of_all rfl, htail ▸ unbracketed_of_all rfl⟩
  obtain ⟨hcut, hnone, -⟩ := withoutMarkup_innerHtml hroot hself hplain hshown
  exact ⟨root, hroot, hself, hplain, hshown, hcut.trans hcontent, hnone⟩

end Stems

end QuizPreflight.Package
