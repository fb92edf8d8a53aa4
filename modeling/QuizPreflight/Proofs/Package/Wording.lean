import Mathlib.Data.List.Basic
import QuizPreflight.Package.Validation
import QuizPreflight.Proofs.Package.Agreement

/-!
# The wording of findings

The entries of a report are told apart by how they begin and end. What strict checking adds
begins with a word of its own, and so does a repeated identifier; the findings that are plain
are neither, and none of them is the warning that an item has no scoring.
-/
namespace QuizPreflight

namespace Text

def beginsWith (s beginning : String) : Bool := beginning.toList.isPrefixOf s.toList

def endsIn (s ending : String) : Bool := ending.toList.isSuffixOf s.toList

-- A literal unifies with a list of characters made into a text, so that it need not be decoded.
lemma beginsWith_ofList {cs ds : List Char} (h : cs <+: ds) :
    beginsWith (String.ofList ds) (String.ofList cs) = true := by
  rwa [beginsWith, List.isPrefixOf_iff_prefix, String.toList_ofList, String.toList_ofList]

lemma beginsWith_append (s t : String) : beginsWith (s ++ t) s = true := by
  rw [beginsWith, List.isPrefixOf_iff_prefix, String.toList_append]
  exact List.prefix_append _ _

lemma beginsWith_trans {s t u : String} (hs : beginsWith s t = true) (ht : beginsWith t u = true) :
    beginsWith s u = true := by
  rw [beginsWith, List.isPrefixOf_iff_prefix] at *
  exact ht.trans hs

lemma endsIn_append (s t : String) : endsIn (s ++ t) t = true := by
  rw [endsIn, List.isSuffixOf_iff_suffix, String.toList_append]
  exact List.suffix_append _ _

/-- The two characters that a text begins with. -/
def Opens (c d : Char) (s : String) : Prop := [c, d] <+: s.toList

/-- The character that a text ends in. -/
def Closes (c : Char) (s : String) : Prop := s.toList.getLast? = some c

section Opens

variable {c d c' d' : Char} {s t : String}

lemma Opens.ofList (c d : Char) (rest : List Char) :
    Opens c d (String.ofList (c :: d :: rest)) := by
  rw [Opens, String.toList_ofList]
  exact ⟨rest, rfl⟩

lemma Opens.append (h : Opens c d s) (t : String) : Opens c d (s ++ t) := by
  rw [Opens, String.toList_append]
  exact h.trans (List.prefix_append _ _)

/-- A text does not begin with one that opens in another way. -/
lemma Opens.beginsWith_eq_false (hs : Opens c d s) (ht : Opens c' d' t) (hne : [c, d] ≠ [c', d']) :
    beginsWith s t = false := by
  by_contra hbegins
  rw [Bool.not_eq_false, beginsWith, List.isPrefixOf_iff_prefix] at hbegins
  have hopening : [c, d] <+: [c', d'] :=
    List.prefix_of_prefix_length_le hs (ht.trans hbegins) (Nat.le_refl 2)
  exact hne (hopening.eq_of_length rfl)

lemma Closes.ofList {cs : List Char} (h : cs.getLast? = some c) : Closes c (String.ofList cs) := by
  rwa [Closes, String.toList_ofList]

lemma Closes.append (h : Closes c t) (s : String) : Closes c (s ++ t) := by
  rw [Closes, String.toList_append, List.getLast?_append, h]
  rfl

lemma getLast?_of_isSuffixOf {s t : List Char} (h : s.isSuffixOf t = true) (hs : s ≠ []) :
    t.getLast? = s.getLast? := by
  obtain ⟨r, rfl⟩ := List.isSuffixOf_iff_suffix.mp h
  exact List.getLast?_append_of_ne_nil r hs

/-- A text does not end in one that closes in another way. -/
lemma Closes.endsIn_eq_false (hs : Closes c s) (ht : Closes d t) (hne : c ≠ d) :
    endsIn s t = false := by
  by_contra hends
  rw [Bool.not_eq_false, endsIn] at hends
  have hnil : t.toList ≠ [] := by
    intro hnil
    simp [Closes, hnil] at ht
  have hlast := getLast?_of_isSuffixOf hends hnil
  rw [hs, ht] at hlast
  exact hne (Option.some.inj hlast)

end Opens

end Text

namespace Package

open Text

def isStrictEntry (entry : String) : Bool := beginsWith entry "Strict:"

def isDuplicateEntry (entry : String) : Bool := beginsWith entry "Duplicate identifier used"

/-- The warning that an item has no scoring. -/
def unscoredWarning (id : String) : String :=
  s!"Item {id} missing <resprocessing> (may need manual grading)"

/-- What strict checking makes of it. -/
def unscoredError (id : String) : String :=
  s!"Strict: Item {id} missing required <resprocessing> element"

def isUnscoredWarning (entry : String) : Bool :=
  beginsWith entry "Item " && endsIn entry " missing <resprocessing> (may need manual grading)"

def isUnscoredError (entry : String) : Bool :=
  beginsWith entry "Strict: Item " && endsIn entry " missing required <resprocessing> element"

variable {c d : Char} {s : String}

lemma isStrictEntry_ofList (rest : List Char) :
    isStrictEntry (String.ofList ('S' :: 't' :: 'r' :: 'i' :: 'c' :: 't' :: ':' :: rest)) = true :=
  beginsWith_ofList ⟨rest, rfl⟩

lemma isStrictEntry_append (h : isStrictEntry s = true) (t : String) :
    isStrictEntry (s ++ t) = true :=
  beginsWith_trans (beginsWith_append s t) h

lemma isStrictEntry_item (id rest : String) :
    isStrictEntry ("Strict: Item " ++ id ++ rest) = true :=
  isStrictEntry_append (isStrictEntry_append (isStrictEntry_ofList _) id) rest

/-- The entry that an identifier is repeated. -/
lemma isDuplicateEntry_repeated (id source : String) :
    isDuplicateEntry s!"Duplicate identifier used: '{id}' in {source}" = true := by
  refine beginsWith_trans (beginsWith_append _ _) (beginsWith_trans (beginsWith_append _ _)
    (beginsWith_trans (beginsWith_append _ _) ?_))
  exact beginsWith_ofList ⟨_, rfl⟩

lemma isStrictEntry_of_opens (h : Opens c d s) (hne : [c, d] ≠ ['S', 't']) :
    isStrictEntry s = false :=
  h.beginsWith_eq_false (.ofList _ _ _) hne

/-- A repeated identifier is told of in words that begin no other entry. -/
lemma opens_of_isDuplicateEntry {entry : String} (h : isDuplicateEntry entry = true) :
    Opens 'D' 'u' entry := by
  rw [isDuplicateEntry, beginsWith, List.isPrefixOf_iff_prefix] at h
  exact (Opens.ofList 'D' 'u' _).trans h

lemma isDuplicateEntry_of_opens (h : Opens c d s) (hne : [c, d] ≠ ['D', 'u']) :
    isDuplicateEntry s = false :=
  h.beginsWith_eq_false (.ofList _ _ _) hne

lemma isUnscoredWarning_of_opens (h : Opens c d s) (hne : [c, d] ≠ ['I', 't']) :
    isUnscoredWarning s = false := by
  rw [isUnscoredWarning, h.beginsWith_eq_false (.ofList _ _ _) hne, Bool.false_and]

lemma isUnscoredWarning_of_closes (h : Closes c s) (hc : c ≠ ')') :
    isUnscoredWarning s = false := by
  rw [isUnscoredWarning, h.endsIn_eq_false (.ofList rfl) hc, Bool.and_false]

lemma isUnscoredError_of_closes (h : Closes c s) (hc : c ≠ 't') : isUnscoredError s = false := by
  rw [isUnscoredError, h.endsIn_eq_false (.ofList rfl) hc, Bool.and_false]

lemma isUnscoredWarning_unscoredWarning (id : String) :
    isUnscoredWarning (unscoredWarning id) = true := by
  rw [isUnscoredWarning, Bool.and_eq_true]
  exact ⟨beginsWith_trans (beginsWith_append _ _) (beginsWith_append _ _), endsIn_append _ _⟩

lemma isUnscoredError_unscoredError (id : String) : isUnscoredError (unscoredError id) = true := by
  rw [isUnscoredError, Bool.and_eq_true]
  exact ⟨beginsWith_trans (beginsWith_append _ _) (beginsWith_append _ _), endsIn_append _ _⟩

lemma isStrictEntry_of_isUnscoredError (h : isUnscoredError s = true) : isStrictEntry s = true := by
  rw [isUnscoredError, Bool.and_eq_true] at h
  exact beginsWith_trans h.1 (isStrictEntry_ofList _)

/-- A finding that both ways of checking make and that is not the warning about scoring. -/
def Finding.Plain : Finding → Prop
  | .error message => isStrictEntry message = false ∧ isDuplicateEntry message = false
  | .warning message => isStrictEntry message = false ∧ isUnscoredWarning message = false
  | _ => True

lemma Finding.plain_error (h : Opens c d s) (hs : [c, d] ≠ ['S', 't']) (hd : [c, d] ≠ ['D', 'u']) :
    (Finding.error s).Plain :=
  ⟨isStrictEntry_of_opens h hs, isDuplicateEntry_of_opens h hd⟩

lemma Finding.plain_warning (h : Opens c d s) (hs : [c, d] ≠ ['S', 't'])
    (hi : [c, d] ≠ ['I', 't']) : (Finding.warning s).Plain :=
  ⟨isStrictEntry_of_opens h hs, isUnscoredWarning_of_opens h hi⟩

/-- Findings of which each is plain. -/
def AllPlain (fs : List Finding) : Prop := ∀ f ∈ fs, f.Plain

section AllPlain

variable {fs gs : List Finding} {f : Finding} {b : Bool}

@[simp] lemma allPlain_nil : AllPlain [] := by simp [AllPlain]

@[simp] lemma allPlain_cons : AllPlain (f :: fs) ↔ f.Plain ∧ AllPlain fs := by simp [AllPlain]

lemma allPlain_singleton (h : f.Plain) : AllPlain [f] := allPlain_cons.mpr ⟨h, allPlain_nil⟩

@[simp] lemma allPlain_append : AllPlain (fs ++ gs) ↔ AllPlain fs ∧ AllPlain gs := by
  simp only [AllPlain, List.mem_append]
  exact ⟨fun h => ⟨fun f hf => h f (.inl hf), fun f hf => h f (.inr hf)⟩,
    fun h f hf => hf.elim (h.1 f) (h.2 f)⟩

lemma allPlain_when (h : f.Plain) : AllPlain (Finding.when b f) := by
  unfold Finding.when
  split <;> simp [h]

lemma allPlain_flatMap {α : Type} {as : List α} {g : α → List Finding}
    (h : ∀ a ∈ as, AllPlain (g a)) : AllPlain (as.flatMap g) := by
  intro f hf
  obtain ⟨a, ha, hfa⟩ := List.mem_flatMap.mp hf
  exact h a ha f hfa

end AllPlain

/-! ### Content rules -/

/-- The text of a template of which every field has a value. -/
def Template.render (t : Template) (value : Field → String) : String :=
  match t with
  | [] => ""
  | .text s :: rest => s ++ Template.render rest value
  | .field f :: rest => value f ++ Template.render rest value

lemma fill_eq_render {t : Template} {value : Field → Option String} {given : Field → String}
    (h : ∀ f, value f = some (given f)) : t.fill value = .ok (t.render given) := by
  induction t with
  | nil => rfl
  | cons piece rest ih =>
    cases piece with
    | text s => simp [Template.fill, Template.render, ih, bind, Except.bind, pure, Except.pure]
    | field f => simp [Template.fill, Template.render, ih, h, bind, Except.bind, pure, Except.pure]

/-- What the message of a rule names in the text of an item, or of one of its options. -/
def ContentRule.names (r : ContentRule) (item option : String) : Field → String
  | .construct => r.name
  | .item => item
  | .option => option

lemma applyRules_eq_ok {value : Field → Option String} {item option : String}
    (hitem : value .item = some item) (hoption : value .option = some option)
    (rules : List ContentRule) (s : List Char) :
    applyRules rules s value = .ok ((rules.filter (·.matches s)).map fun r =>
      (r.name, r.finding (r.message.render (r.names item option)))) := by
  have hfill : ∀ r : ContentRule,
      r.fill value = .ok (r.message.render (r.names item option)) := by
    intro r
    refine fill_eq_render fun f => ?_
    cases f <;> simp [ContentRule.names, hitem, hoption]
  unfold applyRules
  induction rules.filter (·.matches s) with
  | nil => rfl
  | cons r rs ih =>
    rw [List.mapM_cons, ih]
    simp [hfill, bind, Except.bind, pure, Except.pure]

/-- The message of a rule always comes about, as each of its fields has a value. -/
theorem contentFindings_eq_map (rules : List ContentRule) (text item option : String) :
    contentFindings rules text item option =
      (rules.filter (·.matches text.toList)).map fun r =>
        r.finding (r.message.render (r.names item option)) := by
  unfold contentFindings
  dsimp only
  rw [applyRules_eq_ok rfl rfl]
  simp

lemma allPlain_contentFindings {rules : List ContentRule} {item option : String}
    (h : ∀ r ∈ rules, (r.finding (r.message.render (r.names item option))).Plain) (text : String) :
    AllPlain (contentFindings rules text item option) := by
  rw [contentFindings_eq_map]
  intro f hf
  obtain ⟨r, hr, rfl⟩ := List.mem_map.mp hf
  exact h r (List.mem_filter.mp hr).1

lemma allPlain_securityRules (text item option : String) :
    AllPlain (contentFindings securityRules text item option) := by
  refine allPlain_contentFindings (fun r hr => ?_) text
  obtain ⟨construct, -, rfl⟩ := List.mem_map.mp hr
  exact Finding.plain_error (.append (.ofList _ _ _) _) (by decide) (by decide)

lemma allPlain_stemRules (text item option : String) :
    AllPlain (contentFindings stemRules text item option) := by
  refine allPlain_contentFindings ?_ text
  simp only [stemRules, List.forall_mem_cons, ContentRule.finding, Template.render,
    ContentRule.names, Finding.Plain, String.append_empty, ← String.append_assoc, if_false,
    reduceCtorEq]
  -- these warnings begin as the one about scoring does, and only their ends tell them from it
  refine ⟨⟨?_, ?_⟩, ⟨?_, ?_⟩, by simp⟩
  · exact isStrictEntry_of_opens (.append (.append (.append (.ofList _ _ _) _) _) _) (by decide)
  · exact isUnscoredWarning_of_closes (.append (.ofList rfl) _) (by decide)
  · exact isStrictEntry_of_opens (.append (.append (.append (.ofList _ _ _) _) _) _) (by decide)
  · exact isUnscoredWarning_of_closes (.append (.ofList rfl) _) (by decide)

lemma allPlain_optionRules (text item option : String) :
    AllPlain (contentFindings optionRules text item option) := by
  refine allPlain_contentFindings ?_ text
  simp only [optionRules, List.forall_mem_cons, ContentRule.finding, Template.render,
    ContentRule.names, Finding.Plain, String.append_empty, ← String.append_assoc, if_false,
    reduceCtorEq]
  refine ⟨⟨?_, ?_⟩, ⟨?_, ?_⟩, by simp⟩
  · exact isStrictEntry_of_opens (.append (.append (.append (.append (.ofList _ _ _) _) _) _) _)
      (by decide)
  · exact isUnscoredWarning_of_closes (.append (.ofList rfl) _) (by decide)
  · exact isStrictEntry_of_opens (.append (.append (.append (.append (.ofList _ _ _) _) _) _) _)
      (by decide)
  · exact isUnscoredWarning_of_closes (.append (.ofList rfl) _) (by decide)

/-! ### Checks by a manifest -/

namespace Check

variable {α β : Type}

/-- A check of which every finding is plain, whether or not it comes to its end. -/
def Plain (c : Check α) : Prop := AllPlain c.findings

namespace Plain

lemma done (a : α) : (done a).Plain := allPlain_nil

lemma look (r : Except FileError α) : (look r).Plain := allPlain_nil

lemma report {fs : List Finding} (h : AllPlain fs) : (report fs).Plain := h

lemma report_one {f : Finding} (h : f.Plain) : (Check.report [f]).Plain := allPlain_singleton h

theorem bind {c : Check α} {f : α → Check β} (hc : c.Plain) (hf : ∀ a, (f a).Plain) :
    (c >>= f).Plain := by
  obtain ⟨findings, result⟩ := c
  cases result with
  | error e => exact hc
  | ok a => exact allPlain_append.mpr ⟨hc, hf a⟩

theorem each {f : α → Check Unit} {as : List α} (h : ∀ a ∈ as, (f a).Plain) :
    (each f as).Plain := by
  induction as with
  | nil => exact done ()
  | cons a as ih =>
    exact bind (h a List.mem_cons_self) fun _ => ih fun b hb => h b (List.mem_cons_of_mem _ hb)

theorem filter {test : α → Check Bool} {as : List α} (h : ∀ a, (test a).Plain) :
    (filter test as).Plain := by
  induction as with
  | nil => exact done []
  | cons a as ih => exact bind (h a) fun _ => bind ih fun _ => done _

end Plain

end Check

namespace Manifest

open Markup

variable {site : Site} {href : String}

/-- The name of a document does not end as the warning about scoring does. -/
lemma isUnscoredWarning_append_document (h : isDocumentName href = true) (s : String) :
    isUnscoredWarning (s ++ href) = false := by
  have hlower := getLast?_of_isSuffixOf h (by decide)
  have hne : href.toList ≠ [] := by
    intro hnil
    simp [hnil, lower] at hlower
  obtain ⟨init, c, hinit⟩ := (List.eq_nil_or_concat href.toList).resolve_left hne
  rw [List.concat_eq_append] at hinit
  have hcloses : Closes c href := by simp [Closes, hinit]
  refine isUnscoredWarning_of_closes (hcloses.append s) ?_
  rintro rfl
  simp [hinit, lower, lowerChar] at hlower

lemma allPlain_cardinalityFindings (declarations : List Element) (href : String) (e : Element) :
    AllPlain (cardinalityFindings declarations href e) := by
  unfold cardinalityFindings
  split
  · split
    · exact allPlain_nil
    · dsimp only
      split
      · apply allPlain_singleton
        exact Finding.plain_error (.append (.append (.append (.ofList _ _ _) _) _) _)
          (by decide) (by decide)
      · apply allPlain_when
        exact Finding.plain_error (.append (.append (.append (.ofList _ _ _) _) _) _)
          (by decide) (by decide)
  · exact allPlain_nil

lemma allPlain_gradingFindings (item : Element) (declarations : List Element) (href : String) :
    AllPlain (gradingFindings item declarations href) := by
  refine allPlain_append.mpr ⟨allPlain_when ?_, allPlain_when ?_⟩
  · exact Finding.plain_error (.append (.ofList _ _ _) _) (by decide) (by decide)
  · exact Finding.plain_warning (.append (.ofList _ _ _) _) (by decide) (by decide)

lemma allPlain_itemFindings (h : isDocumentName href = true) (item : Element) :
    AllPlain (itemFindings item href) := by
  unfold itemFindings
  simp only [allPlain_append]
  refine ⟨⟨⟨⟨⟨⟨allPlain_when ?score, allPlain_securityRules _ _ _⟩, allPlain_when ?special⟩,
    allPlain_flatMap fun e _ => allPlain_cardinalityFindings _ _ e⟩, ?grading⟩, ?unsupported⟩,
    ?limited⟩
  case score =>
    exact ⟨isStrictEntry_of_opens (.append (.ofList _ _ _) _) (by decide),
      isUnscoredWarning_append_document h _⟩
  case special =>
    exact Finding.plain_warning (.append (.append (.append (.ofList _ _ _) _) _) _)
      (by decide) (by decide)
  case grading =>
    split
    · exact allPlain_nil
    · exact allPlain_gradingFindings _ _ _
  case unsupported =>
    refine allPlain_flatMap fun tag _ f hf => ?_
    obtain ⟨e, -, rfl⟩ := List.mem_map.mp hf
    exact Finding.plain_error (.append (.append (.append (.ofList _ _ _) _) _) _)
      (by decide) (by decide)
  case limited =>
    refine allPlain_flatMap fun tag htag => allPlain_when ?_
    obtain rfl : tag = "matchInteraction" := List.mem_singleton.mp htag
    exact Finding.plain_warning (.append (.append (.ofList _ _ _) _) _) (by decide) (by decide)

lemma plain_existsUnder (site : Site) (first second : Path) (href : String) :
    (existsUnder site first second href).Plain := by
  unfold existsUnder
  refine .bind (.look _) fun found => ?_
  split
  · exact .done _
  · exact .look _

lemma plain_checkImage (site : Site) (href src : String) : (checkImage site href src).Plain := by
  unfold checkImage
  split
  · refine .bind (plain_existsUnder _ _ _ _) fun found => ?_
    split
    · apply Check.Plain.report_one
      exact Finding.plain_error (.append (.append (.append (.ofList _ _ _) _) _) _)
        (by decide) (by decide)
    · exact .done _
  · exact .done _

lemma plain_checkItem (h : isDocumentName href = true) (site : Site) (item : Element) :
    (checkItem site item href).Plain := by
  unfold checkItem
  exact .bind (.report (allPlain_itemFindings h item)) fun _ =>
    .each fun src _ => plain_checkImage _ _ _

lemma plain_checkItemReference (site : Site) (folder : Path) (ref : Element) :
    (checkItemReference site folder ref).Plain := by
  unfold checkItemReference
  split
  · exact .done _
  · refine .bind (plain_existsUnder _ _ _ _) fun found => ?_
    split
    · apply Check.Plain.report_one
      exact Finding.plain_error (.append (.ofList _ _ _) _) (by decide) (by decide)
    · exact .done _

mutual

lemma plain_checkSection (site : Site) (href : String) (folder : Path) :
    ∀ e : Element, (checkSection site href folder e).Plain
  | .mk tag attributes text children tail => by
    rw [checkSection]
    refine .bind (.report ?_) fun _ => .bind (.each fun ref _ => ?_) fun _ => ?_
    · simp [Finding.Plain]
    · exact plain_checkItemReference _ _ _
    · exact plain_checkSections site href folder children

lemma plain_checkSections (site : Site) (href : String) (folder : Path) :
    ∀ es : List Element, (checkSections site href folder es).Plain
  | [] => .done _
  | .mk tag attributes text children tail :: rest => by
    rw [checkSections]
    dsimp only
    split
    · exact .bind (plain_checkSection site href folder _) fun _ =>
        plain_checkSections site href folder rest
    · exact plain_checkSections site href folder rest

end

lemma plain_checkTest (site : Site) (test : Element) (href : String) :
    (checkTest site test href).Plain :=
  .each fun _ _ => plain_checkSections _ _ _ _

lemma plain_readResource (site : Site) (href : String) : (readResource site href).Plain := by
  unfold readResource
  refine .bind (.look _) fun found => ?_
  cases found with
  | ok e => exact .done _
  | error f =>
    refine .bind (.report_one ?_) fun _ => .done _
    exact Finding.plain_error (.append (.append (.append (.ofList _ _ _) _) _) _)
      (by decide) (by decide)

lemma plain_checkFile (h : isDocumentName href = true) (site : Site) (kind : ResourceKind) :
    (checkFile site kind href).Plain := by
  unfold checkFile
  refine .bind (plain_readResource _ _) fun found => ?_
  cases found with
  | none => exact .done _
  | some root =>
    dsimp only
    split
    · apply Check.Plain.report_one
      exact Finding.plain_error
        (.append (.append (.append (.append (.append (.ofList _ _ _) _) _) _) _) _)
        (by decide) (by decide)
    · refine .bind (.report (by simp [Finding.Plain])) fun _ => ?_
      cases kind with
      | item => exact plain_checkItem h _ _
      | test => exact plain_checkTest _ _ _

lemma isDocumentName_of_distinctDocuments {root : Path} {seen : List Path} {refs : List String}
    (h : href ∈ distinctDocuments root seen refs) : isDocumentName href = true := by
  induction refs generalizing seen with
  | nil => simp [distinctDocuments] at h
  | cons ref refs ih =>
    rw [distinctDocuments] at h
    split at h
    · exact ih h
    · next hskip =>
      rcases List.mem_cons.mp h with rfl | h
      · simp only [Bool.or_eq_true, not_or, Bool.not_eq_true', Bool.not_eq_false] at hskip
        exact hskip.1
      · exact ih h

lemma plain_present {complaint : String}
    (h : ∀ href : String, (Finding.error s!"{complaint}: {href}").Plain) (site : Site)
    (href : String) :
    (present site complaint href).Plain := by
  unfold present
  refine .bind (.look _) fun found => ?_
  split
  · exact .done _
  · exact .bind (.report_one (h href)) fun _ => .done _

lemma plain_checkResource (site : Site) (resource : Element) :
    (checkResource site resource).Plain := by
  unfold checkResource
  refine .bind (.report ?_) fun _ => .bind (.filter (plain_present ?_ site)) fun main =>
    .bind (.filter (plain_present ?_ site)) fun files => ?_
  · refine allPlain_cons.mpr ⟨trivial, ?_⟩
    split <;> simp [Finding.Plain]
  · exact fun _ => Finding.plain_error (.append (.append (.ofList _ _ _) _) _)
      (by decide) (by decide)
  · exact fun _ => Finding.plain_error (.append (.append (.ofList _ _ _) _) _)
      (by decide) (by decide)
  · split
    · exact .done _
    · exact .each fun href hhref =>
        plain_checkFile (isDocumentName_of_distinctDocuments hhref) _ _

/-- All that a check by a manifest finds is plain. -/
theorem plain_check (site : Site) (manifestPath : Path) : (check site manifestPath).Plain := by
  unfold check
  refine .bind (.report (by simp [Finding.Plain])) fun _ => .bind (.look _) fun found => ?_
  cases found with
  | error f =>
    apply Check.Plain.report_one
    exact Finding.plain_error (.append (.append (.append (.ofList _ _ _) _) _) _)
      (by decide) (by decide)
  | ok manifest =>
    dsimp only
    split
    · apply Check.Plain.report_one
      exact Finding.plain_error (.append (.ofList _ _ _) _) (by decide) (by decide)
    · refine .bind (.report (by simp [Finding.Plain])) fun _ =>
        .bind (.each fun resource _ => plain_checkResource _ _) fun _ => ?_
      split
      · apply Check.Plain.report_one
        exact Finding.plain_warning (.append (.ofList _ _ _) _) (by decide) (by decide)
      · exact .done _

end Manifest

end Package

end QuizPreflight
