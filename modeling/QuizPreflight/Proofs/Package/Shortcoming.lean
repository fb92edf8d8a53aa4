import QuizPreflight.Proofs.Decimal.Whole
import QuizPreflight.Proofs.Package.Completion
import QuizPreflight.Proofs.Package.ImageSource
import QuizPreflight.Proofs.Package.Uniqueness

/-!
# What is wrong with an item

The errors of an item are of five kinds, and each kind is counted in the tree of the item alone or
with a look into the package. The check records as many errors as there are shortcomings.
-/
namespace QuizPreflight.Package

open Markup Text Decimal

/-! ### Counted errors -/

/-- The number of errors among some findings. -/
def errorCount (fs : List Finding) : Nat := (fs.filterMap Finding.error?).length

section Counted

variable {α : Type} {as : List α} {f : α → List Finding} {p : α → Bool} {fs gs : List Finding}
  {b : Bool} {message : String}

@[simp] lemma errorCount_append : errorCount (fs ++ gs) = errorCount fs + errorCount gs := by
  rw [errorCount, List.filterMap_append, List.length_append]
  rfl

lemma errorCount_when_error :
    errorCount (Finding.when b (.error message)) = if b then 1 else 0 := by
  cases b <;> rfl

@[simp] lemma errorCount_when_warning : errorCount (Finding.when b (.warning message)) = 0 := by
  cases b <;> rfl

lemma errorCount_map_error (as : List α) (g : α → String) :
    errorCount (as.map fun a => .error (g a)) = as.length := by
  induction as with
  | nil => rfl
  | cons a as ih =>
    rw [List.map_cons, List.length_cons, ← ih]
    rfl

/-- Where each of a list makes one error or none, those with an error are counted. -/
lemma errorCount_flatMap (h : ∀ a ∈ as, errorCount (f a) = if p a then 1 else 0) :
    errorCount (as.flatMap f) = as.countP p := by
  induction as with
  | nil => rfl
  | cons a as ih =>
    obtain ⟨ha, has⟩ := List.forall_mem_cons.mp h
    rw [List.flatMap_cons, errorCount_append, ha, ih has, List.countP_cons, Nat.add_comm]

/-- Findings that bring no identifier add to a report the errors among them. -/
lemma errors_takeAll_of_identifiers (h : identifiers fs = []) (g : Registry) :
    (g.takeAll fs).report.errors = g.report.errors ++ fs.filterMap Finding.error? := by
  induction fs generalizing g with
  | nil => exact (List.append_nil _).symm
  | cons f fs ih =>
    rw [identifiers_cons, List.append_eq_nil_iff] at h
    have hfirst : (g.take f).report.errors = g.report.errors ++ f.error?.toList := by
      cases f with
      | identifier value source =>
        rw [Registry.take_of_brings_none (Option.toList_eq_nil_iff.mp h.1)]
        exact (List.append_nil _).symm
      | error message => rfl
      | _ => exact (List.append_nil _).symm
    have hrest := ih h.2 (g.take f)
    rw [Registry.takeAll] at hrest ⊢
    rw [List.foldl_cons, hrest, hfirst, filterMap_error?_cons, List.append_assoc]

end Counted

namespace Manifest

variable {site : Site} {item interaction d : Element} {declarations : List Element} {href : String}
  {p : Path} {src path : List Char}

/-! ### Interactions at odds with their declarations -/

/-- The elements below the first body of an item. -/
def bodyElements (item : Element) : List Element :=
  ((item.first? ["itemBody"]).map fun body => Element.subtrees body.children).getD []

/-- The declaration that an interaction goes with: the first one that it names, or the first one of
all where it names none of them. -/
inductive IsPaired (interaction : Element) (declarations : List Element) (d : Element) : Prop
  | named {id : String} {before after : List Element}
      (hid : interaction.attribute? "responseIdentifier" = some id)
      (hdeclarations : declarations = before ++ d :: after)
      (hd : d.attribute? "identifier" = some id)
      (hbefore : ∀ x ∈ before, x.attribute? "identifier" ≠ some id)
  | first (hfirst : declarations.head? = some d)
      (hnone : ∀ id ∈ interaction.attribute? "responseIdentifier",
        ∀ x ∈ declarations, x.attribute? "identifier" ≠ some id)

lemma isPaired_iff :
    IsPaired interaction declarations d ↔ declarationFor interaction declarations = some d := by
  unfold declarationFor
  dsimp only
  constructor
  · rintro (⟨hid, hdeclarations, hd, hbefore⟩ | ⟨hfirst, hnone⟩)
    · have hfind : declarations.find? (fun x => x.attribute? "identifier" == some _) = some d :=
        List.find?_eq_some_iff_append.mpr
          ⟨by simpa using hd, _, _, hdeclarations, by simpa using hbefore⟩
      rw [hid, Option.bind_some, hfind]
      rfl
    · rw [hfirst]
      cases hid : interaction.attribute? "responseIdentifier" with
      | none => rfl
      | some id =>
        have hfind : declarations.find? (fun x => x.attribute? "identifier" == some id) = none :=
          List.find?_eq_none.mpr fun x hx => by simpa using hnone id hid x hx
        rw [Option.bind_some, hfind]
        rfl
  · intro h
    cases hid : interaction.attribute? "responseIdentifier" with
    | none =>
      rw [hid] at h
      exact .first h fun id hmem => by simp [hid] at hmem
    | some id =>
      rw [hid, Option.bind_some] at h
      cases hfind : declarations.find? (fun x => x.attribute? "identifier" == some id) with
      | none =>
        rw [hfind] at h
        refine .first h fun id' hmem x hx => ?_
        obtain rfl : id = id' := by simpa [hid] using hmem
        simpa using List.find?_eq_none.mp hfind x hx
      | some found =>
        rw [hfind] at h
        obtain rfl : found = d := by simpa using h
        obtain ⟨hd, before, after, hdeclarations, hbefore⟩ :=
          List.find?_eq_some_iff_append.mp hfind
        exact .named hid hdeclarations (by simpa using hd) (by simpa using hbefore)

/-- An interaction with a number of choices, written with some digits, that does not go with the
cardinality of its declaration. -/
inductive AtOdds (item interaction : Element) (digits : List Char) : Prop
  | single {d : Element} {maxChoices : String} {n : Int}
      (paired : IsPaired interaction (item.childrenNamed "responseDeclaration") d)
      (cardinality : d.attribute? "cardinality" = some "single")
      (choices : interaction.attribute? "maxChoices" = some maxChoices)
      (whole : WritesWhole maxChoices.toList digits n) (odd : n = 0 ∨ 1 < n)
  | multiple {d : Element} {maxChoices : String}
      (paired : IsPaired interaction (item.childrenNamed "responseDeclaration") d)
      (cardinality : d.attribute? "cardinality" = some "multiple")
      (choices : interaction.attribute? "maxChoices" = some maxChoices)
      (whole : WritesWhole maxChoices.toList digits 1)

/-- An interaction with a number of choices that is read and does not go with the cardinality of its
declaration. -/
def ReadAtOdds (item interaction : Element) : Prop :=
  ∃ digits, AtOdds item interaction digits ∧ digits.length ≤ maxDigits

/-- Whether the number of choices is one that does not go with the cardinality. -/
def isReadAtOdds (item interaction : Element) : Bool :=
  match declarationFor interaction (item.childrenNamed "responseDeclaration"),
      interaction.attribute? "maxChoices" with
  | some d, some maxChoices =>
    match readInt maxChoices.toList with
    | .error _ => false
    | .ok n => (d.attribute? "cardinality" = some "single" && (n = 0 || 1 < n)) ||
      (d.attribute? "cardinality" = some "multiple" && n = 1)
  | _, _ => false

lemma isReadAtOdds_iff : isReadAtOdds item interaction = true ↔ ReadAtOdds item interaction := by
  unfold isReadAtOdds
  constructor
  · intro h
    split at h
    · next d maxChoices hpaired hchoices =>
      split at h
      · cases h
      · next n hread =>
        obtain ⟨digits, hwhole, hlength⟩ := readInt_eq_ok_iff.mp hread
        simp only [Bool.or_eq_true, Bool.and_eq_true, decide_eq_true_eq] at h
        rcases h with ⟨hcardinality, hodd⟩ | ⟨hcardinality, rfl⟩
        · exact ⟨digits, .single (isPaired_iff.mpr hpaired) hcardinality hchoices hwhole hodd,
            hlength⟩
        · exact ⟨digits, .multiple (isPaired_iff.mpr hpaired) hcardinality hchoices hwhole, hlength⟩
    · cases h
  · rintro ⟨digits, hodds, hlength⟩
    cases hodds with
    | single paired cardinality choices whole odd =>
      rw [isPaired_iff.mp paired, choices]
      simp [readInt_eq_ok_iff.mpr ⟨digits, whole, hlength⟩, cardinality, odd]
    | multiple paired cardinality choices whole =>
      rw [isPaired_iff.mp paired, choices]
      simp [readInt_eq_ok_iff.mpr ⟨digits, whole, hlength⟩, cardinality]

instance : Decidable (ReadAtOdds item interaction) := decidable_of_iff _ isReadAtOdds_iff

lemma errorCount_cardinalityFindings (item interaction : Element) (href : String) :
    errorCount (cardinalityFindings (item.childrenNamed "responseDeclaration") href interaction) =
      (isReadAtOdds item interaction).toNat := by
  unfold cardinalityFindings isReadAtOdds
  cases declarationFor interaction (item.childrenNamed "responseDeclaration") with
  | none => rfl
  | some d =>
    cases interaction.attribute? "maxChoices" with
    | none => rfl
    | some maxChoices =>
      dsimp only
      cases readInt maxChoices.toList with
      | error f => rfl
      | ok n =>
        dsimp only
        generalize (decide (d.attribute? "cardinality" = some "single") &&
          (decide (n = 0) || decide (1 < n))) = isSingle
        generalize (decide (d.attribute? "cardinality" = some "multiple") && decide (n = 1)) =
          isMultiple
        cases isSingle <;> cases isMultiple <;> rfl

/-! ### Images that the package lacks -/

/-- An address with a scheme, or one on the network. -/
inductive IsAbsolute (src : List Char) : Prop
  | network {rest : List Char} (h : src = '/' :: '/' :: rest)
  | scheme {letter : Char} {scheme rest : List Char} (h : src = letter :: (scheme ++ ':' :: rest))
      (hletter : isLatinLetter letter = true)
      (hscheme : ∀ c ∈ scheme, isLatinLetter c = true ∨ c.isDigit = true ∨ c ∈ ['+', '.', '-'])

/-- The characters of a scheme. -/
def inScheme (c : Char) : Bool :=
  isLatinLetter c || c.isDigit || c == '+' || c == '.' || c == '-'

lemma inScheme_iff {c : Char} : inScheme c = true ↔
    isLatinLetter c = true ∨ c.isDigit = true ∨ c ∈ ['+', '.', '-'] := by
  simp [inScheme, or_assoc]

lemma isAbsolute_iff {src : String} : IsAbsolute src.toList ↔ isAbsoluteAddress src = true := by
  have hnamed : (fun c => isLatinLetter c || c.isDigit || c == '+' || c == '.' || c == '-') =
      inScheme := rfl
  unfold isAbsoluteAddress
  dsimp only
  rw [hnamed]
  generalize src.toList = s
  constructor
  · rintro (⟨rfl⟩ | ⟨rfl, hletter, hscheme⟩)
    · rfl
    · have hall : ∀ c ∈ _, inScheme c = true := fun c hc => inScheme_iff.mpr (hscheme c hc)
      split
      · rfl
      · next heq =>
        obtain ⟨rfl, rfl⟩ := List.cons.inj heq
        rw [hletter, dropWhile_append_cons (by decide), List.dropWhile_eq_nil_iff.mpr hall]
        rfl
      · next heq => cases heq
  · intro h
    split at h
    · exact .network rfl
    · next c rest _ =>
      rw [Bool.and_eq_true, beq_iff_eq, List.head?_eq_some_iff] at h
      obtain ⟨hletter, after, hafter⟩ := h
      have hsplit := List.takeWhile_append_dropWhile (p := inScheme) (l := rest)
      rw [hafter] at hsplit
      exact .scheme (congrArg (c :: ·) hsplit.symm) hletter fun d hd =>
        inScheme_iff.mp (List.mem_takeWhile_imp hd)
    · cases h

/-- A path with the extension of an image, whatever the case of its letters; one newline may
follow. -/
def EndsInImage (path : List Char) : Prop :=
  ∃ extension ∈ imageExtensions, ∃ before found after, path = before ++ (found ++ after) ∧
    List.Forall₂ (fun letter c => sameLetter letter c = true) extension.toList found ∧
    (after = [] ∨ after = ['\n'])

lemma endsInImage_iff : EndsInImage path ↔ hasImageExtension path = true := by
  rw [hasImageExtension, List.any_eq_true]
  refine exists_congr fun extension => and_congr_right fun _ => ?_
  rw [occurs_iff]
  constructor
  · rintro ⟨before, found, after, rfl, hfound, hafter⟩
    refine ⟨before, found ++ after, rfl, ?_⟩
    have hword : word extension.toList (found ++ after) = some after :=
      word_eq_some_iff.mpr ⟨found, rfl, hfound⟩
    have hend : atEnd after = true := by
      rcases hafter with rfl | rfl <;> rfl
    rw [hword, Option.bind_eq_bind, Option.bind_some, if_pos hend]
    rfl
  · rintro ⟨before, rest, rfl, hrest⟩
    cases hword : word extension.toList rest with
    | none => simp [hword] at hrest
    | some after =>
      obtain ⟨found, rfl, hfound⟩ := word_eq_some_iff.mp hword
      refine ⟨before, found, after, rfl, hfound, ?_⟩
      by_contra hafter
      simp [hword, atEnd, hafter] at hrest

/-- A reference to an image that the package has to hold and does not: it is no absolute address,
the extension stands before a query and a fragment, and nothing is found from either folder. -/
structure IsMissingImage (site : Site) (src : String) : Prop where
  relative : ¬IsAbsolute src.toList
  image : EndsInImage (upTo '#' (upTo '?' src.toList))
  notInItems : ¬∃ e, site.files.lookup (resolve (site.root.append ["items"]) src) = .ok e
  notInRoot : ¬∃ e, site.files.lookup (resolve site.root src) = .ok e

lemma isMissingImage_iff {src : String} : IsMissingImage site src ↔
    (isLocalImage src && isLost site (site.root.append ["items"]) site.root src) = true := by
  simp only [isLocalImage, isLost, Bool.and_eq_true, Bool.not_eq_true', ← Bool.not_eq_true,
    leadsFrom_iff, ← isAbsolute_iff, ← endsInImage_iff]
  constructor
  · exact fun h => ⟨⟨h.relative, h.image⟩, h.notInItems, h.notInRoot⟩
  · rintro ⟨⟨hrelative, himage⟩, hitems, hroot⟩
    exact ⟨hrelative, himage, hitems, hroot⟩

instance {src : String} : Decidable (IsMissingImage site src) :=
  decidable_of_iff _ isMissingImage_iff.symm

/-! ### The five kinds -/

instance {text w : List Char} : Decidable (Mentions text w) := decidable_of_iff _ occurs_word_iff

/-- A declaration of the item has a correct value. -/
def IsAnswered (item : Element) : Prop :=
  ∃ d ∈ item.childrenNamed "responseDeclaration", ∃ c ∈ d.childrenNamed "correctResponse",
    ∃ value ∈ c.children, value.tag = "value"

instance : Decidable (IsAnswered item) := by unfold IsAnswered; infer_instance

/-- How much is wrong with an item, by kinds. -/
structure Shortcomings where
  dangers : Nat
  mismatches : Nat
  unanswered : Nat
  unsupported : Nat
  missingImages : Nat
  deriving DecidableEq, Repr

def Shortcomings.total (s : Shortcomings) : Nat :=
  s.dangers + s.mismatches + s.unanswered + s.unsupported + s.missingImages

/-- The shortcomings of an item: constructs that its body mentions, interactions at odds with their
declarations, choices without any correct answer, interactions that cannot be imported, and images
that the package lacks. -/
def shortcomings (site : Site) (item : Element) : Shortcomings where
  dangers := dangerousConstructs.countP fun w => Mentions (bodyHtml item).toList w.toList
  mismatches := (bodyElements item).countP fun e =>
    e.tag = "choiceInteraction" ∧ ReadAtOdds item e
  unanswered :=
    if (∃ e ∈ bodyElements item, e.tag = "choiceInteraction") ∧ ¬IsAnswered item then 1 else 0
  unsupported := (bodyElements item).countP fun e => e.tag ∈ unsupportedInteractions
  missingImages := (imageSources (bodyHtml item)).countP fun src => IsMissingImage site src

/-! ### The count -/

lemma inBody_eq (tag : String) :
    inBody (item.first? ["itemBody"]) tag = (bodyElements item).filter (·.tag == tag) := by
  unfold inBody bodyElements
  cases item.first? ["itemBody"] <;> rfl

lemma isAnswered_iff : IsAnswered item ↔ ((item.childrenNamed "responseDeclaration").any fun d =>
    (d.first? ["correctResponse", "value"]).isSome) = true := by
  unfold IsAnswered
  rw [List.any_eq_true]
  refine exists_congr fun d => and_congr_right fun _ => ?_
  rw [Element.first?, List.isSome_head?, Element.select]
  simp [Element.select, Element.childrenNamed, and_assoc]

/-- The elements with one of several tags, tag by tag. -/
lemma length_flatMap_filter {tags : List String} (h : tags.Nodup) (es : List Element) :
    (tags.flatMap fun tag => es.filter (·.tag == tag)).length =
      es.countP fun e => e.tag ∈ tags := by
  induction tags with
  | nil => simp
  | cons tag tags ih =>
    obtain ⟨hnew, htags⟩ := List.nodup_cons.mp h
    rw [List.flatMap_cons, List.length_append, ih htags, ← List.countP_eq_length_filter]
    clear ih
    induction es with
    | nil => rfl
    | cons e es ih =>
      rw [List.countP_cons, List.countP_cons, List.countP_cons, ← ih]
      by_cases he : e.tag = tag
      · simp [he, hnew]
        omega
      · simp [he]
        omega

lemma errorCount_gradingFindings (item : Element) (href : String) :
    errorCount (gradingFindings item (item.childrenNamed "responseDeclaration") href) =
      if IsAnswered item then 0 else 1 := by
  unfold gradingFindings
  rw [errorCount_append, errorCount_when_warning, Nat.add_zero, errorCount_when_error]
  by_cases h : IsAnswered item
  · rw [isAnswered_iff.mp h, if_pos h]
    rfl
  · rw [Bool.eq_false_iff.mpr (mt isAnswered_iff.mpr h), if_neg h]
    rfl

lemma errorCount_contentFindings (text item option : String) :
    errorCount (contentFindings securityRules text item option) =
      dangerousConstructs.countP fun w => Mentions text.toList w.toList := by
  rw [contentFindings_securityRules, errorCount_map_error, mentioned,
    ← List.countP_eq_length_filter]
  refine List.countP_congr fun w _ => ?_
  rw [decide_eq_true_eq, occurs_word_iff]

lemma errorCount_unsupported (es : String → List Element) (message : String → String)
    (tags : List String) :
    errorCount (tags.flatMap fun tag => (es tag).map fun _ => .error (message tag)) =
      (tags.flatMap es).length := by
  induction tags with
  | nil => rfl
  | cons tag tags ih =>
    rw [List.flatMap_cons, List.flatMap_cons, errorCount_append, ih, List.length_append,
      errorCount_map_error]

lemma errorCount_mismatches (site : Site) (item : Element) (href : String) :
    errorCount ((inBody (item.first? ["itemBody"]) "choiceInteraction").flatMap
      (cardinalityFindings (item.childrenNamed "responseDeclaration") href)) =
        (shortcomings site item).mismatches := by
  have heach (e : Element) : errorCount (cardinalityFindings
      (item.childrenNamed "responseDeclaration") href e) =
        if isReadAtOdds item e then 1 else 0 := by
    rw [errorCount_cardinalityFindings]
    cases isReadAtOdds item e <;> rfl
  rw [errorCount_flatMap fun e _ => heach e, inBody_eq, List.countP_filter, shortcomings]
  refine List.countP_congr fun e _ => ?_
  simp [isReadAtOdds_iff, and_comm]

lemma errorCount_unanswered (site : Site) (item : Element) (href : String) :
    errorCount (if (inBody (item.first? ["itemBody"]) "choiceInteraction").isEmpty then []
      else gradingFindings item (item.childrenNamed "responseDeclaration") href) =
        (shortcomings site item).unanswered := by
  have hchoices : (inBody (item.first? ["itemBody"]) "choiceInteraction").isEmpty = true ↔
      ¬∃ e ∈ bodyElements item, e.tag = "choiceInteraction" := by
    rw [inBody_eq, List.isEmpty_iff, List.filter_eq_nil_iff]
    simp
  rw [shortcomings]
  by_cases h : ∃ e ∈ bodyElements item, e.tag = "choiceInteraction"
  · rw [if_neg (mt hchoices.mp (not_not.mpr h)), errorCount_gradingFindings]
    by_cases hanswered : IsAnswered item
    · rw [if_pos hanswered, if_neg (fun hboth => hboth.2 hanswered)]
    · rw [if_neg hanswered, if_pos ⟨h, hanswered⟩]
  · rw [if_pos (hchoices.mpr h), if_neg (fun hboth => h hboth.1)]
    rfl

lemma errorCount_limited (item : Element) (href : String) :
    errorCount (limitedInteractions.flatMap fun tag =>
      Finding.when (!(inBody (item.first? ["itemBody"]) tag).isEmpty)
        (.warning s!"{tag} has limited Canvas support: {href}")) = 0 := by
  rw [limitedInteractions, List.flatMap_singleton, errorCount_when_warning]

/-- The errors of an item itself: each of the other findings is a warning. -/
theorem errorCount_itemFindings (site : Site) (item : Element) (href : String) :
    errorCount (itemFindings item href) = (shortcomings site item).dangers +
      (shortcomings site item).mismatches + (shortcomings site item).unanswered +
        (shortcomings site item).unsupported := by
  have hnodup : unsupportedInteractions.Nodup := by decide
  have hunsupported : errorCount (unsupportedInteractions.flatMap fun tag =>
      (inBody (item.first? ["itemBody"]) tag).map fun _ =>
        .error s!"Unsupported Canvas interaction '{tag}' in {href}") =
        (shortcomings site item).unsupported := by
    rw [errorCount_unsupported, funext inBody_eq, length_flatMap_filter hnodup, shortcomings]
  unfold itemFindings
  dsimp only
  rw [errorCount_append, errorCount_append, errorCount_append, errorCount_append, errorCount_append,
    errorCount_append, errorCount_mismatches site, errorCount_unanswered site, hunsupported,
    errorCount_limited, errorCount_when_warning, errorCount_when_warning,
    errorCount_contentFindings]
  simp only [Nat.zero_add, Nat.add_zero]
  rfl

/-- What is found of an image. -/
def imageRecord (site : Site) (href src : String) : List Finding :=
  Finding.when (isLocalImage src && isLost site (site.root.append ["items"]) site.root src)
    (.error s!"Missing image file '{src}' referenced in {href}")

lemma checkImage_eq {src : String} (h : isLocalImage src = true →
    AnswersEither site (site.root.append ["items"]) site.root src) :
    checkImage site href src = ⟨imageRecord site href src, .ok ()⟩ := by
  unfold checkImage imageRecord
  by_cases hlocal : isLocalImage src = true
  · rw [if_pos hlocal, complain_eq (h hlocal), hlocal, Bool.true_and]
  · rw [if_neg hlocal, Bool.eq_false_iff.mpr hlocal]
    rfl

lemma errorCount_imageRecord (src : String) :
    errorCount (imageRecord site href src) = if decide (IsMissingImage site src) then 1 else 0 := by
  rw [imageRecord, errorCount_when_error]
  simp only [decide_eq_true_eq, isMissingImage_iff]

lemma checkItem_eq (href : String) (h : Traceable site p item .item) :
    checkItem site item href = ⟨itemFindings item href ++
      (imageSources (bodyHtml item)).flatMap (imageRecord site href), .ok ()⟩ := by
  have himages : Check.each (checkImage site href) (imageSources (bodyHtml item)) =
      ⟨(imageSources (bodyHtml item)).flatMap (imageRecord site href), .ok ()⟩ :=
    Check.each_eq fun src hsrc => checkImage_eq (h src hsrc)
  have hcheck : checkItem site item href = (Check.report (itemFindings item href) >>= fun _ =>
      Check.each (checkImage site href) (imageSources (bodyHtml item))) := rfl
  rw [hcheck, Check.report_bind, himages]

theorem errorCount_checkItem (href : String) (h : Traceable site p item .item) :
    errorCount (checkItem site item href).findings = (shortcomings site item).total := by
  rw [checkItem_eq href h, errorCount_append, errorCount_itemFindings site,
    errorCount_flatMap fun src _ => errorCount_imageRecord src]
  rfl

lemma Shortcomings.total_eq_zero_iff {s : Shortcomings} : s.total = 0 ↔ s = ⟨0, 0, 0, 0, 0⟩ := by
  obtain ⟨dangers, mismatches, unanswered, unsupported, missingImages⟩ := s
  simp [Shortcomings.total, and_assoc]

/-- The check of an item whose images can be looked for comes to its end. It adds to a report one
error for each shortcoming of the item, where a number of choices with more digits than are read
counts for nothing, and it adds none exactly if there is no shortcoming of any kind. -/
theorem checkItem_adds (href : String) (h : Traceable site p item .item) :
    (checkItem site item href).result = .ok () ∧ ∀ g : Registry,
      (g.takeAll (checkItem site item href).findings).report.errors.length =
        g.report.errors.length + (shortcomings site item).total ∧
      ((g.takeAll (checkItem site item href).findings).report.errors = g.report.errors ↔
        shortcomings site item = ⟨0, 0, 0, 0, 0⟩) := by
  have hresult : (checkItem site item href).result = .ok () := by rw [checkItem_eq href h]
  have hidentifiers := brings_checkItem site item href () hresult
  refine ⟨hresult, fun g => ?_⟩
  have herrors := errors_takeAll_of_identifiers hidentifiers g
  have hcount := errorCount_checkItem href h
  refine ⟨?_, ?_⟩
  · rw [herrors, List.length_append, ← hcount]
    rfl
  · rw [herrors, List.append_right_eq_self, ← Shortcomings.total_eq_zero_iff, ← hcount, errorCount,
      List.length_eq_zero_iff]

/-- The body of an item with one shortcoming of each kind. -/
def faultyBody : Element :=
  .mk "itemBody" [] "javascript:" [.mk "choiceInteraction" [("maxChoices", "2")] "" [] "",
    .mk "orderInteraction" [] "" [] "", .mk "img" [("src", "a.png")] "" [] ""] ""

def faultyItem : Element :=
  .mk "assessmentItem" [] "" [.mk "responseDeclaration" [("cardinality", "single")] "" [] "",
    faultyBody] ""

lemma toList_bodyHtml_faultyItem : (bodyHtml faultyItem).toList =
    ("javascript:<choiceInteraction maxChoices=\"2\"/><orderInteraction/>" ++
      "<img src=\"a.png\"/>").toList := by
  have hbody : bodyHtml faultyItem = faultyBody.innerHtml := rfl
  rw [hbody, Element.innerHtml, String.toList_ofList]
  simp only [faultyBody, Element.innerChars, writeAll]
  decide +kernel

lemma imageSources_faultyItem : imageSources (bodyHtml faultyItem) = ["a.png"] := by
  rw [imageSources, toList_bodyHtml_faultyItem]
  decide +kernel

lemma lookup_faultyItem :
    (packageSite []).files.lookup (resolve ((packageSite []).root.append ["items"]) "a.png") =
      .error .notFound ∧
    (packageSite []).files.lookup (resolve (packageSite []).root "a.png") = .error .notFound := by
  have hitems : resolve ((packageSite []).root.append ["items"]) "a.png" =
      ⟨0, ["q", "items", "a.png"]⟩ := by decide +kernel
  have hroot : resolve (packageSite []).root "a.png" = ⟨0, ["q", "a.png"]⟩ := by decide +kernel
  rw [hitems, hroot]
  exact ⟨rfl, rfl⟩

lemma shortcomings_faultyItem : shortcomings (packageSite []) faultyItem = ⟨1, 1, 1, 1, 1⟩ := by
  have hdangers : dangerousConstructs.countP
      (fun w => Mentions (bodyHtml faultyItem).toList w.toList) = 1 := by
    rw [toList_bodyHtml_faultyItem]
    decide +kernel
  have hmismatches : (shortcomings (packageSite []) faultyItem).mismatches = 1 := by
    decide +kernel
  have hunanswered : (shortcomings (packageSite []) faultyItem).unanswered = 1 := by
    decide +kernel
  have hunsupported : (shortcomings (packageSite []) faultyItem).unsupported = 1 := by
    decide +kernel
  have hmissing : IsMissingImage (packageSite []) "a.png" := by
    have hlocal : isLocalImage "a.png" = true := by decide +kernel
    rw [isMissingImage_iff, hlocal, isLost, leadsFrom, leadsFrom, lookup_faultyItem.1,
      lookup_faultyItem.2]
    rfl
  have himages : (imageSources (bodyHtml faultyItem)).countP
      (fun src => IsMissingImage (packageSite []) src) = 1 := by
    rw [imageSources_faultyItem, List.countP_singleton, if_pos (decide_eq_true hmissing)]
  exact Shortcomings.mk.injEq .. |>.mpr ⟨hdangers, hmismatches, hunanswered, hunsupported, himages⟩

theorem checkItem_adds_faultyItem :
    Traceable (packageSite []) ⟨0, []⟩ faultyItem .item ∧
      (Registry.empty.takeAll
        (checkItem (packageSite []) faultyItem "a.xml").findings).report.errors.length = 5 := by
  have htraceable : Traceable (packageSite []) ⟨0, []⟩ faultyItem .item := by
    intro src hsrc _
    rw [imageSources_faultyItem, List.mem_singleton] at hsrc
    subst hsrc
    unfold AnswersEither Answers
    rw [lookup_faultyItem.1, lookup_faultyItem.2]
    simp
  obtain ⟨-, hadds⟩ := checkItem_adds "a.xml" htraceable
  refine ⟨htraceable, ?_⟩
  rw [(hadds Registry.empty).1, shortcomings_faultyItem]
  rfl

/-! ### Numbers that are not read -/

lemma numberOf_append_singleton (ds : List Char) (c : Char) :
    numberOf (ds ++ [c]) = digitOf c + 10 * numberOf ds := by
  simp [numberOf, Nat.ofDigits_cons]

lemma writesDigits_replicate (n : Nat) :
    WritesDigits (List.replicate (n + 1) '2') (List.replicate (n + 1) '2') := by
  have hdigit : isDigit '2' = true := rfl
  induction n with
  | zero => exact .last hdigit
  | succ n ih => exact .next hdigit ih

/-- A number with many digits. -/
def twos (n : Nat) : String := String.ofList (List.replicate (n + 1) '2')

lemma writesWhole_twos (n : Nat) : ∃ m, 1 < m ∧
    WritesWhole (twos n).toList (List.replicate (n + 1) '2') m := by
  have htext : (twos n).toList = [] ++ ([] ++ List.replicate (n + 1) '2') ++ [] := by
    rw [twos, String.toList_ofList, List.nil_append, List.nil_append, List.append_nil]
  refine ⟨_, ?_, .positive htext (List.forall_mem_nil _) (List.forall_mem_nil _) (.inl rfl)
    (writesDigits_replicate n)⟩
  have htwo : digitOf '2' = 2 := rfl
  rw [List.replicate_succ', numberOf_append_singleton]
  omega

lemma trim_twos (n : Nat) : trim (twos n) = twos n := by
  have hplain : ∀ c ∈ List.replicate (n + 1) '2', isBlank c = false := by
    intro c hc
    rw [List.eq_of_mem_replicate hc]
    rfl
  have hstrip : strip (List.replicate (n + 1) '2') = List.replicate (n + 1) '2' :=
    strip_eq_self_iff.mpr ⟨fun c hc => hplain c (List.mem_of_mem_head? hc),
      fun c hc => hplain c (List.mem_of_mem_getLast? hc)⟩
  rw [trim, twos, String.toList_ofList, hstrip]

/-- A choice for which a number of choices is named. -/
def choice (maxChoices : String) : Element :=
  .mk "choiceInteraction" [("maxChoices", maxChoices)] "" [] ""

/-- An item with a single choice and a correct answer. -/
def choiceItem (maxChoices : String) : Element :=
  .mk "assessmentItem" [] "" [.mk "responseDeclaration" [("cardinality", "single")] ""
    [.mk "correctResponse" [] "" [.mk "value" [] "" [] ""] ""] "",
      .mk "itemBody" [] "" [choice maxChoices] ""] ""

lemma attribute?_choice_twos (n : Nat) :
    (choice (twos n)).attribute? "maxChoices" = some (twos n) := by
  have hlookup : (choice (twos n)).attributes.lookup "maxChoices" = some (twos n) := rfl
  have hsome : ¬(twos n).isEmpty = true := by
    rw [String.isEmpty_iff, ← String.toList_inj, twos, String.toList_ofList]
    exact List.cons_ne_nil _ _
  rw [Element.attribute?, hlookup]
  dsimp only
  rw [trim_twos, if_neg hsome]

lemma atOdds_twos (n : Nat) :
    AtOdds (choiceItem (twos n)) (choice (twos n)) (List.replicate (n + 1) '2') := by
  obtain ⟨m, hm, hwhole⟩ := writesWhole_twos n
  exact .single (isPaired_iff.mpr rfl) rfl (attribute?_choice_twos n) hwhole (.inr hm)

/-- Too many digits are not read. -/
lemma not_readAtOdds_twos {n : Nat} (h : maxDigits ≤ n) :
    ¬ReadAtOdds (choiceItem (twos n)) (choice (twos n)) := by
  obtain ⟨m, -, hwhole⟩ := writesWhole_twos n
  have hmany : maxDigits < (List.replicate (n + 1) '2').length := by
    rw [List.length_replicate]
    omega
  have hfault := readInt_of_writesWhole hwhole
  rw [if_pos hmany] at hfault
  have hunread (k : Int) (digits : List Char) (hdigits : digits.length ≤ maxDigits) :
      ¬WritesWhole (twos n).toList digits k := by
    intro hread
    have hok := readInt_of_writesWhole hread
    rw [hfault, if_neg (Nat.not_lt.mpr hdigits)] at hok
    cases hok
  rintro ⟨digits, hodds, hdigits⟩
  cases hodds with
  | single _ _ choices whole _ | multiple _ _ choices whole =>
    rw [attribute?_choice_twos, Option.some_inj] at choices
    exact hunread _ digits hdigits (choices ▸ whole)

lemma imageSources_choiceItem (maxChoices : String) :
    imageSources (bodyHtml (choiceItem maxChoices)) = [] := by
  have hbody : bodyHtml (choiceItem maxChoices) =
      (Element.mk "itemBody" [] "" [choice maxChoices] "").innerHtml := rfl
  have hbelow : ∀ y ∈ Element.subtrees [choice maxChoices], y = choice maxChoices := by
    intro y hy
    exact List.mem_singleton.mp hy
  have htag : looksLikeImage "choiceInteraction" = false := by decide
  rw [hbody, imageSources_eq_shown, List.filterMap_eq_nil_iff]
  · intro y hy
    rw [hbelow y hy]
    exact if_neg (by rw [choice, Element.tag, htag]; exact Bool.false_ne_true)
  · intro child hchild y hy
    rw [hbelow y (Element.subset_subtrees hchild hy)]
    have hname : "choiceInteraction".toList.all isTokenChar = true := rfl
    have hattribute : "maxChoices".toList.all isTokenChar = true := rfl
    exact ⟨List.all_eq_true.mp hname,
      List.forall_mem_singleton.mpr (List.all_eq_true.mp hattribute)⟩
  · exact List.not_mem_nil
  · intro y hy
    rw [hbelow y hy]
    exact ⟨List.not_mem_nil, List.not_mem_nil⟩
  · intro y hy hlooks
    rw [hbelow y hy] at hlooks
    exact absurd (htag.symm.trans hlooks) Bool.false_ne_true

open Classical in
theorem checkItem_unread : ¬∀ (site : Site) (p : Path) (item : Element) (href : String),
    Traceable site p item .item →
      errorCount (checkItem site item href).findings = (shortcomings site item).dangers +
        ((bodyElements item).countP fun e =>
          e.tag = "choiceInteraction" ∧ ∃ digits, AtOdds item e digits) +
        (shortcomings site item).unanswered + (shortcomings site item).unsupported +
          (shortcomings site item).missingImages := by
  intro h
  -- the number of digits is not computed with
  obtain ⟨n, hn⟩ : ∃ n, maxDigits ≤ n := ⟨maxDigits, Nat.le_refl _⟩
  have htraceable : Traceable (packageSite []) ⟨0, []⟩ (choiceItem (twos n)) .item := by
    intro src hsrc
    rw [imageSources_choiceItem] at hsrc
    cases hsrc
  have hcount := errorCount_checkItem "a.xml" htraceable
  have hbody : bodyElements (choiceItem (twos n)) = [choice (twos n)] := rfl
  have hread : (shortcomings (packageSite []) (choiceItem (twos n))).mismatches = 0 := by
    rw [shortcomings, hbody, List.countP_singleton, if_neg]
    rw [decide_eq_true_eq]
    exact fun hboth => not_readAtOdds_twos hn hboth.2
  have hwritten : ((bodyElements (choiceItem (twos n))).countP fun e =>
      e.tag = "choiceInteraction" ∧ ∃ digits, AtOdds (choiceItem (twos n)) e digits) = 1 := by
    rw [hbody, List.countP_singleton, if_pos (decide_eq_true ⟨rfl, _, atOdds_twos n⟩)]
  have hsame := h _ _ _ "a.xml" htraceable
  rw [hwritten, hcount, Shortcomings.total, hread] at hsame
  omega

end Manifest

end QuizPreflight.Package
