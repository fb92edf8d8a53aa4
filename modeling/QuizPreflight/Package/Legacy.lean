import QuizPreflight.Decimal.Literal
import QuizPreflight.Decimal.Notation
import QuizPreflight.Markup.Html
import QuizPreflight.Package.ContentRule
import QuizPreflight.Package.Pattern

/-!
# Legacy documents

A legacy package is one document with an assessment of sections and items. Each item is checked
on its own; strictness adds checks of metadata and scoring.
-/
namespace QuizPreflight.Package.Legacy

open QuizPreflight.Markup
open QuizPreflight.Text

def rootTag : String := "questestinterop"

def minStemLength : Nat := 3

/-- Question types answered in free text. -/
def freeTextTypes : List String := ["essay_question", "short_answer_question"]

def knownTypes : List String :=
  ["multiple_choice_question", "true_false_question", "multiple_answers_question",
   "short_answer_question", "essay_question", "numerical_question", "matching_question",
   "fill_in_multiple_blanks_question", "multiple_dropdowns_question", "calculated_question",
   "file_upload_question", "text_only_question"]

mutual

/-- The items of a section, those of the sections inside it included, in document order. -/
def itemsOf : Element → List Element
  | .mk _ _ _ children _ => itemsAmong children

/-- The items among the children of a section and in its own sections. -/
def itemsAmong : List Element → List Element
  | [] => []
  | .mk tag attributes text children tail :: rest =>
    let e : Element := .mk tag attributes text children tail
    (if tag == "item" then [e] else if tag == "section" then itemsAmong children else []) ++
      itemsAmong rest

end

def collectItems (sections : List Element) : List Element := sections.flatMap itemsOf

/-- Labels and entries of an item, without blanks around them; empty labels are left out. -/
def metadataOf (item : Element) : List (String × String) :=
  let trimmed (field : Element) (tag : String) : String :=
    trim (((field.first? [tag]).map Element.textContent).getD "")
  match item.first? ["itemmetadata"] with
  | none => []
  | some m =>
    ((m.descendantsNamed "qtimetadatafield").map fun f =>
      (trimmed f "fieldlabel", trimmed f "fieldentry")).filter fun e => !e.1.isEmpty

/-- The last entry under a label. -/
def valueUnder (metadata : List (String × String)) (label : String) : Option String :=
  metadata.reverse.lookup label

/-- The points of an item, where they are a number. -/
def points? (metadata : List (String × String)) : Option Float :=
  match (valueUnder metadata "points_possible").bind fun s => Decimal.readFloat? s.toList with
  | none => none
  | some x => if x.isNaN then none else some x

/-- The text that an item asks: inner content of its first material text, or else the plain
text of its first material. -/
def stemOf (presentation : Element) : String :=
  match presentation.first? ["material", "mattext"] with
  | some stem => stem.innerHtml
  | none => ((presentation.first? ["material"]).map Element.textContent).getD ""

/-- One of the two names an attribute goes by carries a value. -/
def hasEither (e : Element) (a b : String) : Bool :=
  (e.attribute? a).isSome || (e.attribute? b).isSome

/-- An assignment names a variable or an action; a misspelling in use counts as an action. -/
def isCompleteAssignment (e : Element) : Bool :=
  hasEither e "varname" "respident" || hasEither e "action" "actoin"

def pointsFindings (id : String) (points : Option Float) : List Finding :=
  match points with
  | none => [.error s!"Strict: Item {id} missing \"points_possible\" metadata"]
  | some x =>
    Finding.when (x <= 0.0)
      (.warning s!"Strict: Item {id} has zero or negative points ({Decimal.writeGeneral x})")

def typeFindings (id : String) (type : Option String) : List Finding :=
  match type with
  | none => [.error s!"Strict: Item {id} missing \"question_type\" metadata"]
  | some t =>
    if t.isEmpty then [.error s!"Strict: Item {id} missing \"question_type\" metadata"]
    else Finding.when (!knownTypes.contains t)
      (.warning s!"Strict: Item {id} has unrecognized question_type '{t}'")

def identFindings (ident : Option String) : List Finding :=
  match ident with
  | none => [.error "Strict: Item missing required \"ident\" attribute"]
  | some i =>
    Finding.when (!isIdentifier i)
      (.error s!"Strict: Item identifier \"{i}\" contains invalid characters")

/-- What only strict checking asks of an item. -/
def strictFindings (item : Element) (id : String) (metadata : List (String × String)) :
    List Finding :=
  let ident := item.attribute? "ident"
  Finding.when (item.first? ["itemmetadata", "qtimetadata"]).isNone
    (.error s!"Strict: Item {id} missing <itemmetadata> with <qtimetadata>") ++
  pointsFindings id (points? metadata) ++
  typeFindings id (valueUnder metadata "question_type") ++
  identFindings ident ++
  Finding.when (item.attribute? "title").isNone
    (.warning s!"Strict: Item {id} missing \"title\" attribute (recommended)")

/-- The labels that a choice is made from: those of the first list of choices, if there is one. -/
def labelsOf? (response : Element) : Option (List Element) :=
  ((response.descendantsNamed "render_choice").head?).map
    (·.descendantsNamed "response_label")

def labelHtml (label : Element) : String :=
  ((label.first? ["material", "mattext"]).map Element.innerHtml).getD ""

def labelFindings (id : String) (label : Element) : List Finding :=
  contentFindings optionRules (labelHtml label) id ((label.attribute? "ident").getD "?")

def choiceFindings (id : String) (labels : Option (List Element)) : List Finding :=
  match labels with
  | none => []
  | some labels =>
    Finding.when (labels.length < 2)
      (.error s!"Canvas import may fail: Less than 2 answer options for item {id}") ++
    labels.flatMap (labelFindings id)

/-- A condition that compares with an answer. -/
def hasAnswer (processing : Element) : Bool :=
  (processing.descendantsNamed "conditionvar").any fun c =>
    !(c.descendantsNamed "varequal").isEmpty

/-- What only strict checking asks of the scoring of an item. -/
def scoringFindings (processing : Element) (id : String) : List Finding :=
  let assignments := processing.descendantsNamed "setvar"
  (if assignments.isEmpty then
    [.warning s!"Strict: Item {id} resprocessing missing <setvar> for score assignment"]
  else Finding.when (assignments.any (!isCompleteAssignment ·))
    (.warning s!"Strict: Item {id} setvar missing varname/action attributes")) ++
  Finding.when (processing.first? ["outcomes", "decvar"]).isNone
    (.warning s!"Strict: Item {id} missing <outcomes><decvar> declaration")

/-- Answers in free text need no scoring. -/
def processingFindings (strict : Bool) (item : Element) (id : String) (isFreeText : Bool) :
    List Finding :=
  match item.first? ["resprocessing"] with
  | none =>
    if isFreeText then []
    else if strict then
      [.error s!"Strict: Item {id} missing required <resprocessing> element"]
    else [.warning s!"Item {id} missing <resprocessing> (may need manual grading)"]
  | some processing =>
    Finding.when (!hasAnswer processing && !isFreeText)
      (.error s!"Canvas import may fail: No correct answer defined for item {id}") ++
    (if strict then scoringFindings processing id else [])

def responseFindings (strict : Bool) (item presentation : Element) (id : String)
    (isFreeText : Bool) : List Finding :=
  match (presentation.descendantsNamed "response_lid").head? with
  | some response =>
    choiceFindings id (labelsOf? response) ++ processingFindings strict item id isFreeText
  | none =>
    Finding.when (presentation.descendantsNamed "response_str").isEmpty
      (.error
        s!"QTI 1.2: Item {id} missing response element (response_lid or response_str)")

/-- The texts of an item's options. -/
def optionTexts (presentation : Element) : List String :=
  match (presentation.descendantsNamed "response_lid").head? with
  | none => []
  | some response => ((labelsOf? response).getD []).map labelHtml

def hasRelativeImage (html : String) : Bool := (imageSources html).any (!isAbsoluteAddress ·)

def presentedFindings (strict : Bool) (item presentation : Element) (id : String) :
    List Finding :=
  let stem := stemOf presentation
  let metadata := metadataOf item
  let isFreeText := freeTextTypes.contains ((valueUnder metadata "question_type").getD "")
  Finding.when ((strip stem.toList).length < minStemLength)
    (.error
      s!"Canvas import may fail: Question stem appears empty or too short for item {id}") ++
  contentFindings securityRules stem id "" ++
  contentFindings stemRules stem id "" ++
  (if strict then strictFindings item id metadata else []) ++
  responseFindings strict item presentation id isFreeText ++
  Finding.when ((stem :: optionTexts presentation).any hasRelativeImage)
    (.warning s!"Item {id} has image with relative path - may not display in Canvas")

/-- The name of an item in messages; one without an identifier is named by its number. -/
def itemName (item : Element) (number : Nat) : String :=
  (item.attribute? "ident").getD s!"item_{number}"

def itemFindings (strict : Bool) (number : Nat) (item : Element) : List Finding :=
  let id := itemName item number
  .identifier (item.attribute? "ident") s!"Item {id}" ::
  match item.first? ["presentation"] with
  | none => [.error s!"QTI 1.2: Item {id} missing <presentation> element"]
  | some presentation => presentedFindings strict item presentation id

/-- The findings on items of which the first has the given number. -/
def eachItem (strict : Bool) : Nat → List Element → List Finding
  | _, [] => []
  | number, item :: items => itemFindings strict number item ++ eachItem strict (number + 1) items

def assessmentFindings (strict : Bool) (assessment : Element) : List Finding :=
  if strict then
    Finding.when (assessment.attribute? "ident").isNone
      (.error "Strict: Assessment missing required \"ident\" attribute") ++
    Finding.when (assessment.attribute? "title").isNone
      (.warning "Strict: Assessment missing \"title\" attribute (recommended)")
  else []

def sectionFindings (strict : Bool) (sections : List Element) : List Finding :=
  if sections.isEmpty then [.error "QTI 1.2: Missing <section> element"]
  else
    let items := collectItems sections
    if items.isEmpty then [.error "QTI 1.2: No <item> elements found"]
    else .items items.length :: eachItem strict 1 items

/-- The findings on a legacy document, which is its own manifest and test. -/
def findings (strict : Bool) (root : Element) : List Finding :=
  match root.first? ["assessment"] with
  | none => [.error "QTI 1.2: Missing <assessment> element"]
  | some assessment =>
    .manifest :: .test :: .identifier (assessment.attribute? "ident") "Assessment" ::
      (assessmentFindings strict assessment ++
        sectionFindings strict (assessment.childrenNamed "section"))

end QuizPreflight.Package.Legacy
