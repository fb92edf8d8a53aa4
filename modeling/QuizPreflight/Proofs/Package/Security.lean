import QuizPreflight.Proofs.Markup.Writing
import QuizPreflight.Proofs.Package.Acceptance
import QuizPreflight.Proofs.Package.Recording

/-!
# Dangerous content is reported

Content that may do harm is looked for in the written text of a body. Whatever stands in the tree
of the body, at any depth, is found there: a tag that embeds, a construct in a text or a tail, a
script address in the value of an attribute. Each construct is reported once, in the order of the
table. The writing of a tree goes down as deep as the tree does: no limit is set here to how deep
calls may be nested.
-/
namespace QuizPreflight

namespace Text

variable {s t w : List Char}

lemma Mentions.mono (h : Mentions s w) (hs : s <:+: t) : Mentions t w := by
  obtain ⟨before, found, after, rfl, hfound⟩ := h
  obtain ⟨front, rest, rfl⟩ := hs
  exact ⟨front ++ before, found, after ++ rest, by simp, hfound⟩

/-- A word survives if each character is replaced and none that may stand for one of its letters
changes. -/
lemma Mentions.flatMap {f : Char → List Char} (h : Mentions s w)
    (hf : ∀ letter ∈ w, ∀ c, sameLetter letter c = true → f c = [c]) :
    Mentions (s.flatMap f) w := by
  obtain ⟨before, found, after, rfl, hfound⟩ := h
  have hkept : found.flatMap f = found := by
    induction hfound with
    | nil => rfl
    | @cons letter c w found hc _ ih =>
      obtain ⟨hletter, hrest⟩ := List.forall_mem_cons.mp hf
      rw [List.flatMap_cons, hletter c hc, ih hrest]
      rfl
  exact ⟨before.flatMap f, found, after.flatMap f, by rw [List.flatMap_append,
    List.flatMap_append, hkept], hfound⟩

/-- What begins a text in lower case begins the text itself, whatever the case of its letters. The
dot above is left out, as it stands in the lower case of a letter that has no other dot. -/
lemma isSome_word_of_prefix_lower (hw : '\u0307' ∉ w) (h : w <+: lower s) :
    (word w s).isSome = true := by
  induction s generalizing w with
  | nil =>
    obtain rfl : w = [] := List.prefix_nil.mp h
    rfl
  | cons c s ih =>
    cases w with
    | nil => rfl
    | cons letter w =>
      obtain ⟨hletter, hrest⟩ : '\u0307' ≠ letter ∧ '\u0307' ∉ w := by simpa using hw
      rw [lower, List.flatMap_cons, lowerChar] at h
      split at h
      -- `c` is written as `i` and a dot above: the word ends with the `i`, as it holds no such dot
      · next hc =>
        obtain ⟨hfirst, hnext⟩ := List.cons_prefix_cons.mp h
        obtain rfl : c = '\u0130' := by simpa using hc
        subst hfirst
        cases w with
        | nil => rfl
        | cons dot w =>
          obtain ⟨hdot, -⟩ := List.cons_prefix_cons.mp hnext
          simp [hdot] at hrest
      · split at h
        · next hc =>
          obtain ⟨hfirst, hnext⟩ := List.cons_prefix_cons.mp h
          obtain rfl : c = '\u212a' := by simpa using hc
          subst hfirst
          exact ih hrest hnext
        · obtain ⟨hfirst, hnext⟩ := List.cons_prefix_cons.mp h
          have hsame : sameLetter letter c = true := by simp [sameLetter, hfirst]
          rw [word, if_pos hsame]
          exact ih hrest hnext

end Text

namespace Package

open Markup Text

variable {body x : Element} {construct : String}

/-- Tags of which those that begin so embed what they name. -/
def embeddingTags : List String := ["script", "iframe", "object", "embed"]

/-- The tree of a body carries a construct: in the body's own text, in an element below it or in
what follows one. -/
inductive Carries (body : Element) : String → Prop
  | own {construct : String} (h : Mentions body.text.toList construct.toList) :
      Carries body construct
  | tag {x : Element} {name : String} (below : x ∈ Element.subtrees body.children)
      (embedding : name ∈ embeddingTags) (h : name.toList <+: lower x.tag.toList) :
      Carries body ("<" ++ name)
  | text {x : Element} {construct : String} (below : x ∈ Element.subtrees body.children)
      (h : Mentions x.text.toList construct.toList) : Carries body construct
  | tail {x : Element} {construct : String} (below : x ∈ Element.subtrees body.children)
      (h : Mentions x.tail.toList construct.toList) : Carries body construct
  | value {x : Element} {a : String × String} (below : x ∈ Element.subtrees body.children)
      (held : a ∈ x.attributes) (h : Mentions a.2.toList "javascript:".toList) :
      Carries body "javascript:"

/-- A script address is written as it stands, whichever quotes are put around it. -/
lemma mentions_quoteValue {value : List Char} (h : Mentions value "javascript:".toList) :
    Mentions (quoteValue value) "javascript:".toList := by
  have hplain : ("javascript:".toList.all fun letter =>
      ['&', '<', '>', '\n', '\r', '\t', '"'].all fun c => !sameLetter letter c) = true := by rfl
  have hother : ∀ letter ∈ "javascript:".toList, ∀ c, sameLetter letter c = true →
      c ∉ ['&', '<', '>', '\n', '\r', '\t', '"'] := by
    intro letter hletter c hc hmem
    have hne := List.all_eq_true.mp (List.all_eq_true.mp hplain letter hletter) c hmem
    rw [hc] at hne
    cases hne
  have hescaped : Mentions (value.flatMap escapeValueChar) "javascript:".toList := by
    refine h.flatMap fun letter hletter c hc => ?_
    have hc := hother letter hletter c hc
    simp only [List.mem_cons, not_or] at hc
    simp [escapeValueChar, hc]
  unfold quoteValue
  dsimp only
  split
  · exact hescaped.mono ⟨['"'], ['"'], rfl⟩
  · split
    · exact hescaped.mono ⟨['\''], ['\''], rfl⟩
    · refine Mentions.mono (hescaped.flatMap fun letter hletter c hc => ?_) ⟨['"'], ['"'], rfl⟩
      have hc := hother letter hletter c hc
      simp only [List.mem_cons, not_or] at hc
      simp [escapeQuote, hc]

/-- The written text of a body mentions every construct that its tree carries. -/
theorem mentions_of_carries (h : Carries body construct) :
    Mentions body.innerChars construct.toList := by
  cases h with
  | own h => exact h.mono (text_prefix_innerChars body).isInfix
  | @tag x name below embedding h =>
    have hdots : ∀ name ∈ embeddingTags, '\u0307' ∉ name.toList := by decide
    obtain ⟨found, after, hsplit, hfound⟩ :=
      isSome_word_iff.mp (isSome_word_of_prefix_lower (hdots name embedding) h)
    have htag : Mentions ('<' :: x.tag.toList) ('<' :: name.toList) :=
      ⟨[], '<' :: found, after, by rw [hsplit]; rfl, .cons rfl hfound⟩
    rw [String.toList_append]
    exact htag.mono (shows_of_mem_below below).tag
  | text below h => exact h.mono (shows_of_mem_below below).text
  | tail below h => exact h.mono (shows_of_mem_below below).tail
  | @value x a below held h =>
    exact (mentions_quoteValue h).mono ((shows_of_mem_below below).values a held)

/-! ### The entries -/

def isSecurityEntry (entry : String) : Bool := beginsWith entry "Security Error:"

def securityMessage (construct item : String) : String :=
  s!"Security Error: Potential malicious content ({construct}) detected in item {item}"

/-- The entries about dangerous content among some findings. -/
def securityEntries (fs : List Finding) : List String :=
  (fs.filterMap Finding.error?).filter isSecurityEntry

/-- The constructs that a text mentions, in the order of the table. -/
def mentioned (text : String) : List String :=
  dangerousConstructs.filter fun construct => occurs (word construct.toList) text.toList

lemma mem_mentioned {text : String} : construct ∈ mentioned text ↔
    construct ∈ dangerousConstructs ∧ Mentions text.toList construct.toList := by
  rw [mentioned, List.mem_filter, occurs_word_iff]

lemma isSecurityEntry_securityMessage (construct item : String) :
    isSecurityEntry (securityMessage construct item) = true := by
  refine beginsWith_trans (beginsWith_append _ _) (beginsWith_trans (beginsWith_append _ _)
    (beginsWith_trans (beginsWith_append _ _) ?_))
  exact beginsWith_ofList ⟨_, rfl⟩

lemma isSecurityEntry_of_isDuplicateEntry {entry : String} (h : isDuplicateEntry entry = true) :
    isSecurityEntry entry = false :=
  (opens_of_isDuplicateEntry h).beginsWith_eq_false (.ofList _ _ _) (by decide)

@[simp] lemma securityEntries_append (fs gs : List Finding) :
    securityEntries (fs ++ gs) = securityEntries fs ++ securityEntries gs := by
  rw [securityEntries, List.filterMap_append, List.filter_append]
  rfl

lemma securityEntries_of_allWorded {openings : List (Char × Char)} {fs : List Finding}
    (h : AllWorded openings fs) (hne : ('S', 'e') ∉ openings) : securityEntries fs = [] := by
  refine List.filter_eq_nil_iff.mpr fun message hmem => ?_
  have hworded := h _ (mem_errors_iff.mp hmem)
  rw [isSecurityEntry, hworded.beginsWith_eq_false (.ofList _ _ _) hne]
  exact Bool.false_ne_true

/-- The findings on dangerous content, one for each construct that is mentioned. -/
lemma contentFindings_securityRules (text item option : String) :
    contentFindings securityRules text item option =
      (mentioned text).map fun construct => .error (securityMessage construct item) := by
  have hrender : ∀ construct, (securityRule construct).message.render
      ((securityRule construct).names item option) = securityMessage construct item := by
    intro construct
    simp only [securityRule, Template.render, ContentRule.names, String.append_empty,
      ← String.append_assoc]
    rfl
  rw [contentFindings_eq_map, securityRules, List.filter_map, List.map_map]
  refine List.map_congr_left fun construct _ => ?_
  rw [← hrender]
  rfl

lemma allWorded_securityRules {openings : List (Char × Char)} (h : ('S', 'e') ∈ openings)
    (text item option : String) :
    AllWorded openings (contentFindings securityRules text item option) := by
  rw [contentFindings_securityRules]
  refine allWorded_map fun construct _ => Finding.worded_error ?_ h
  exact .append (.append (.append (.ofList _ _ _) _) _) _

lemma securityEntries_contentFindings (text item option : String) :
    securityEntries (contentFindings securityRules text item option) =
      (mentioned text).map (securityMessage · item) := by
  have herrors : ((mentioned text).map fun construct =>
      Finding.error (securityMessage construct item)).filterMap Finding.error? =
        (mentioned text).map (securityMessage · item) := by
    rw [List.filterMap_map, ← List.filterMap_eq_map]
    rfl
  rw [securityEntries, contentFindings_securityRules, herrors]
  refine List.filter_eq_self.mpr fun message hmem => ?_
  obtain ⟨construct, -, rfl⟩ := List.mem_map.mp hmem
  exact isSecurityEntry_securityMessage _ _

/-- What is recorded about dangerous content of an item: each construct that is mentioned in the
text, and so each one that the content carries, in one entry, in the order of the table. -/
def RecordsDangers (before after : Report) (name text : String) (content : Option Element) : Prop :=
  ∃ found : List String, found.Sublist dangerousConstructs ∧ found.Nodup ∧
    after.errors.filter isSecurityEntry =
      before.errors.filter isSecurityEntry ++ found.map (securityMessage · name) ∧
    (∀ construct ∈ found, Mentions text.toList construct.toList) ∧
    ∀ body ∈ content, ∀ construct ∈ dangerousConstructs, Carries body construct →
      construct ∈ found

lemma recordsDangers_of_entries {g : Registry} {fs : List Finding} {name text : String}
    {content : Option Element}
    (h : securityEntries fs = (mentioned text).map (securityMessage · name))
    (hcontent : ∀ body ∈ content, text = body.innerHtml) :
    RecordsDangers g.report (g.takeAll fs).report name text content := by
  have hnodup : dangerousConstructs.Nodup := by decide
  refine ⟨mentioned text, List.filter_sublist, hnodup.filter _, ?_, fun construct hmem =>
    (mem_mentioned.mp hmem).2, ?_⟩
  · rw [Registry.errors_takeAll_filter fun _ => isSecurityEntry_of_isDuplicateEntry, ← h]
    rfl
  · intro body hbody construct htable hcarries
    refine mem_mentioned.mpr ⟨htable, ?_⟩
    rw [hcontent body hbody, Element.innerHtml, String.toList_ofList]
    exact mentions_of_carries hcarries

/-! ### Items of both kinds -/

/-- How the entries on an item open that are not about dangerous content. -/
def itemOpenings : List (Char × Char) :=
  [('I', 't'), ('I', 'd'), ('M', 'i'), ('C', 'a'), ('U', 'n'), ('m', 'a')]

/-- How the entries on an item of a legacy document open that are not about dangerous content. -/
def legacyOpenings : List (Char × Char) := [('C', 'a'), ('I', 't'), ('S', 't'), ('Q', 'T')]

namespace Manifest

lemma allWorded_cardinalityFindings (declarations : List Element) (href : String) (e : Element) :
    AllWorded itemOpenings (cardinalityFindings declarations href e) := by
  unfold cardinalityFindings
  split
  · split
    · exact allWorded_nil
    · dsimp only
      split
      · apply allWorded_singleton
        exact Finding.worded_error (.append (.append (.append (.ofList _ _ _) _) _) _) (by decide)
      · apply allWorded_when
        exact Finding.worded_error (.append (.append (.append (.ofList _ _ _) _) _) _) (by decide)
  · exact allWorded_nil

lemma allWorded_gradingFindings (item : Element) (declarations : List Element) (href : String) :
    AllWorded itemOpenings (gradingFindings item declarations href) := by
  refine allWorded_append.mpr ⟨allWorded_when ?_, allWorded_when ?_⟩
  · exact Finding.worded_error (.append (.ofList _ _ _) _) (by decide)
  · exact Finding.worded_warning (.append (.ofList _ _ _) _) (by decide)

/-- What the body of an item is written as. -/
def bodyHtml (item : Element) : String := ((item.first? ["itemBody"]).map Element.innerHtml).getD ""

/-- The name of an item in messages; one without an identifier is named by its reference. -/
def itemName (item : Element) (href : String) : String :=
  (item.attribute? "identifier").getD href

/-- Around the findings on dangerous content stand only findings that open otherwise. -/
lemma itemFindings_eq (item : Element) (href : String) : ∃ before after,
    itemFindings item href = before ++
      contentFindings securityRules (bodyHtml item) (itemName item href) "" ++ after ∧
    AllWorded itemOpenings before ∧ AllWorded itemOpenings after := by
  unfold itemFindings
  dsimp only
  simp only [List.append_assoc]
  refine ⟨_, _, rfl, allWorded_when ?score, ?_⟩
  case score => exact Finding.worded_warning (.append (.ofList _ _ _) _) (by decide)
  simp only [allWorded_append]
  refine ⟨allWorded_when ?special, allWorded_flatMap fun e _ => allWorded_cardinalityFindings _ _ e,
    ?grading, ?unsupported, ?limited⟩
  case special =>
    exact Finding.worded_warning (.append (.append (.append (.ofList _ _ _) _) _) _) (by decide)
  case grading =>
    split
    · exact allWorded_nil
    · exact allWorded_gradingFindings _ _ _
  case unsupported =>
    refine allWorded_flatMap fun tag _ => allWorded_map fun e _ => ?_
    exact Finding.worded_error (.append (.append (.append (.ofList _ _ _) _) _) _) (by decide)
  case limited =>
    refine allWorded_flatMap fun tag htag => allWorded_when ?_
    obtain rfl : tag = "matchInteraction" := List.mem_singleton.mp htag
    exact Finding.worded_warning (.append (.append (.ofList _ _ _) _) _) (by decide)

lemma worded_existsUnder {openings : List (Char × Char)} (site : Site) (first second : Path)
    (href : String) : (existsUnder site first second href).Worded openings := by
  unfold existsUnder
  refine .bind (.look _) fun found => ?_
  split
  · exact .done _
  · exact .look _

lemma worded_checkImage (site : Site) (href src : String) :
    (checkImage site href src).Worded itemOpenings := by
  unfold checkImage
  split
  · refine .bind (worded_existsUnder _ _ _ _) fun found => ?_
    split
    · apply Check.Worded.report_one
      exact Finding.worded_error (.append (.append (.append (.ofList _ _ _) _) _) _) (by decide)
    · exact .done _
  · exact .done _

lemma securityEntries_checkItem (site : Site) (item : Element) (href : String) :
    securityEntries (checkItem site item href).findings =
      (mentioned (bodyHtml item)).map (securityMessage · (itemName item href)) := by
  obtain ⟨before, after, hsplit, hbefore, hafter⟩ := itemFindings_eq item href
  have himages : (Check.each (checkImage site href) (imageSources (bodyHtml item))).Worded
      itemOpenings := .each fun src _ => worded_checkImage site href src
  have hfindings : (checkItem site item href).findings = itemFindings item href ++
      (Check.each (checkImage site href) (imageSources (bodyHtml item))).findings := rfl
  rw [hfindings, hsplit]
  simp only [securityEntries_append, securityEntries_contentFindings,
    securityEntries_of_allWorded hbefore (by decide),
    securityEntries_of_allWorded hafter (by decide),
    securityEntries_of_allWorded himages (by decide), List.nil_append, List.append_nil]

end Manifest

namespace Legacy

lemma allWorded_stemRules (text item option : String) :
    AllWorded legacyOpenings (contentFindings stemRules text item option) := by
  refine allWorded_contentFindings ?_ text
  simp only [stemRules, List.forall_mem_cons, Template.render, ContentRule.names,
    String.append_empty, ← String.append_assoc]
  refine ⟨⟨('I', 't'), by decide, ?_⟩, ⟨('I', 't'), by decide, ?_⟩, by simp⟩
  · exact .append (.append (.append (.ofList _ _ _) _) _) _
  · exact .append (.append (.append (.ofList _ _ _) _) _) _

lemma allWorded_labelFindings (id : String) (label : Element) :
    AllWorded legacyOpenings (labelFindings id label) := by
  refine allWorded_contentFindings ?_ _
  simp only [optionRules, List.forall_mem_cons, Template.render, ContentRule.names,
    String.append_empty, ← String.append_assoc]
  refine ⟨⟨('I', 't'), by decide, ?_⟩, ⟨('I', 't'), by decide, ?_⟩, by simp⟩
  · exact .append (.append (.append (.append (.ofList _ _ _) _) _) _) _
  · exact .append (.append (.append (.append (.ofList _ _ _) _) _) _) _

lemma allWorded_strictFindings (item : Element) (id : String)
    (metadata : List (String × String)) :
    AllWorded legacyOpenings (strictFindings item id metadata) := by
  unfold strictFindings pointsFindings typeFindings identFindings
  simp only [allWorded_append]
  refine ⟨⟨⟨⟨allWorded_when ?_, ?points⟩, ?type⟩, ?ident⟩, allWorded_when ?_⟩
  case points =>
    split
    · exact allWorded_singleton
        (Finding.worded_error (.append (.append (.ofList _ _ _) _) _) (by decide))
    · exact allWorded_when (Finding.worded_warning
        (.append (.append (.append (.append (.ofList _ _ _) _) _) _) _) (by decide))
  case type =>
    split
    · exact allWorded_singleton
        (Finding.worded_error (.append (.append (.ofList _ _ _) _) _) (by decide))
    · split
      · exact allWorded_singleton
          (Finding.worded_error (.append (.append (.ofList _ _ _) _) _) (by decide))
      · exact allWorded_when (Finding.worded_warning
          (.append (.append (.append (.append (.ofList _ _ _) _) _) _) _) (by decide))
  case ident =>
    split
    · exact allWorded_singleton (Finding.worded_error (.ofList _ _ _) (by decide))
    · exact allWorded_when
        (Finding.worded_error (.append (.append (.ofList _ _ _) _) _) (by decide))
  · exact Finding.worded_error (.append (.append (.ofList _ _ _) _) _) (by decide)
  · exact Finding.worded_warning (.append (.append (.ofList _ _ _) _) _) (by decide)

lemma allWorded_choiceFindings (id : String) (labels : Option (List Element)) :
    AllWorded legacyOpenings (choiceFindings id labels) := by
  unfold choiceFindings
  split
  · exact allWorded_nil
  · refine allWorded_append.mpr ⟨allWorded_when ?_, allWorded_flatMap fun label _ =>
      allWorded_labelFindings id label⟩
    exact Finding.worded_error (.append (.ofList _ _ _) _) (by decide)

lemma allWorded_scoringFindings (processing : Element) (id : String) :
    AllWorded legacyOpenings (scoringFindings processing id) := by
  unfold scoringFindings
  refine allWorded_append.mpr ⟨?assignments, allWorded_when ?outcomes⟩
  case assignments =>
    split
    · exact allWorded_singleton
        (Finding.worded_warning (.append (.append (.ofList _ _ _) _) _) (by decide))
    · exact allWorded_when
        (Finding.worded_warning (.append (.append (.ofList _ _ _) _) _) (by decide))
  case outcomes => exact Finding.worded_warning (.append (.append (.ofList _ _ _) _) _) (by decide)

lemma allWorded_processingFindings (strict : Bool) (item : Element) (id : String)
    (isFreeText : Bool) :
    AllWorded legacyOpenings (processingFindings strict item id isFreeText) := by
  unfold processingFindings
  split
  · split
    · exact allWorded_nil
    · split
      · exact allWorded_singleton
          (Finding.worded_error (.append (.append (.ofList _ _ _) _) _) (by decide))
      · exact allWorded_singleton
          (Finding.worded_warning (.append (.append (.ofList _ _ _) _) _) (by decide))
  · refine allWorded_append.mpr ⟨allWorded_when ?_, ?_⟩
    · exact Finding.worded_error (.append (.ofList _ _ _) _) (by decide)
    · split
      · exact allWorded_scoringFindings _ id
      · exact allWorded_nil

lemma allWorded_responseFindings (strict : Bool) (item presentation : Element) (id : String)
    (isFreeText : Bool) :
    AllWorded legacyOpenings (responseFindings strict item presentation id isFreeText) := by
  unfold responseFindings
  split
  · exact allWorded_append.mpr ⟨allWorded_choiceFindings id _,
      allWorded_processingFindings strict item id isFreeText⟩
  · apply allWorded_when
    exact Finding.worded_error (.append (.append (.ofList _ _ _) _) _) (by decide)

/-- Around the findings on dangerous content stand only findings that open otherwise. -/
lemma presentedFindings_eq (strict : Bool) (item presentation : Element) (id : String) :
    ∃ before after, presentedFindings strict item presentation id = before ++
      contentFindings securityRules (stemOf presentation) id "" ++ after ∧
    AllWorded legacyOpenings before ∧ AllWorded legacyOpenings after := by
  unfold presentedFindings
  dsimp only
  simp only [List.append_assoc]
  refine ⟨_, _, rfl, allWorded_when ?short, ?_⟩
  case short => exact Finding.worded_error (.append (.ofList _ _ _) _) (by decide)
  simp only [allWorded_append]
  refine ⟨allWorded_stemRules _ _ _, ?strict, allWorded_responseFindings _ _ _ _ _,
    allWorded_when ?image⟩
  case strict =>
    split
    · exact allWorded_strictFindings _ _ _
    · exact allWorded_nil
  case image => exact Finding.worded_warning (.append (.append (.ofList _ _ _) _) _) (by decide)

/-- The text that an item asks; an item that presents nothing asks nothing. -/
def askedText (item : Element) : String := ((item.first? ["presentation"]).map stemOf).getD ""

lemma securityEntries_itemFindings (strict : Bool) (number : Nat) (item : Element) :
    securityEntries (itemFindings strict number item) =
      (mentioned (askedText item)).map (securityMessage · (itemName item number)) := by
  have hidentifier : ∀ fs, securityEntries (.identifier (item.attribute? "ident")
      s!"Item {itemName item number}" :: fs) = securityEntries fs := fun fs => rfl
  rw [itemFindings, hidentifier, askedText]
  cases item.first? ["presentation"] with
  | none =>
    have hmissing : AllWorded legacyOpenings [.error
        s!"QTI 1.2: Item {itemName item number} missing <presentation> element"] :=
      allWorded_singleton (Finding.worded_error (.append (.append (.ofList _ _ _) _) _)
        (by decide))
    exact securityEntries_of_allWorded hmissing (by decide)
  | some presentation =>
    obtain ⟨before, after, hsplit, hbefore, hafter⟩ :=
      presentedFindings_eq strict item presentation (itemName item number)
    simp only [hsplit, securityEntries_append, securityEntries_contentFindings,
      securityEntries_of_allWorded hbefore (by decide),
      securityEntries_of_allWorded hafter (by decide), List.nil_append, List.append_nil]
    rfl

/-- The material of an item of which the inner content is what it asks. -/
def askedMaterial (item : Element) : Option Element :=
  (item.first? ["presentation"]).bind (·.first? ["material", "mattext"])

lemma askedText_eq_innerHtml {item material : Element} (h : material ∈ askedMaterial item) :
    askedText item = material.innerHtml := by
  obtain ⟨presentation, hpresentation, hmaterial⟩ := Option.bind_eq_some_iff.mp h
  rw [askedText, hpresentation, Option.map_some, Option.getD_some, stemOf, hmaterial]

end Legacy

/-- Checking an item, in a package with a manifest or in a legacy document, records every
construct that stands at any depth in its body or in its stem, once each. -/
theorem dangers_recorded (g : Registry) (item : Element) :
    (∀ site href, RecordsDangers g.report
      (g.takeAll (Manifest.checkItem site item href).findings).report
      (Manifest.itemName item href) (Manifest.bodyHtml item) (item.first? ["itemBody"])) ∧
    ∀ strict number, RecordsDangers g.report
      (g.takeAll (Legacy.itemFindings strict number item)).report
      (Legacy.itemName item number) (Legacy.askedText item) (Legacy.askedMaterial item) := by
  constructor
  · intro site href
    refine recordsDangers_of_entries (Manifest.securityEntries_checkItem site item href) ?_
    intro body hbody
    rw [Manifest.bodyHtml, hbody, Option.map_some, Option.getD_some]
  · intro strict number
    exact recordsDangers_of_entries (Legacy.securityEntries_itemFindings strict number item)
      fun material hmaterial => Legacy.askedText_eq_innerHtml hmaterial

end Package

end QuizPreflight
