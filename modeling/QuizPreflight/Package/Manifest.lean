import QuizPreflight.Decimal.Literal
import QuizPreflight.Markup.Html
import QuizPreflight.Package.Check
import QuizPreflight.Package.ContentRule

/-!
# Manifest packages

A manifest lists resources with their files. Files of item and test resources are read and
checked; identifiers have to differ over the whole package.
-/
namespace QuizPreflight.Package.Manifest

open QuizPreflight.Markup
open QuizPreflight.Text

/-- The name that messages use, whatever the manifest is called. -/
def manifestName : String := "imsmanifest.xml"

/-- Interactions that cannot be imported. -/
def unsupportedInteractions : List String :=
  ["gapMatchInteraction", "orderInteraction", "associateInteraction",
   "graphicGapMatchInteraction", "hotspotInteraction"]

/-- Interactions that are imported with reduced function. -/
def limitedInteractions : List String := ["matchInteraction"]

/-- The declaration that an interaction answers to; the first one if none is named. -/
def declarationFor (interaction : Element) (declarations : List Element) : Option Element :=
  let named := (interaction.attribute? "responseIdentifier").bind fun id =>
    declarations.find? fun d => d.attribute? "identifier" == some id
  named.or declarations.head?

/-- The number of choices allowed has to go with the cardinality. -/
def cardinalityFindings (declarations : List Element) (href : String) (interaction : Element) :
    List Finding :=
  match declarationFor interaction declarations, interaction.attribute? "maxChoices" with
  | some declaration, some maxChoices =>
    match Decimal.readInt maxChoices.toList with
    | .error _ => []
    | .ok count =>
      let cardinality := declaration.attribute? "cardinality"
      if cardinality = some "single" && (count = 0 || 1 < count) then
        [.error s!"Mismatch: Cardinality 'single' but maxChoices '{maxChoices}' in {href}"]
      else Finding.when (cardinality = some "multiple" && count = 1)
        (.error s!"Mismatch: Cardinality 'multiple' but maxChoices '{maxChoices}' in {href}")
  | _, _ => []

def gradingFindings (item : Element) (declarations : List Element) (href : String) :
    List Finding :=
  Finding.when (!declarations.any fun d => (d.first? ["correctResponse", "value"]).isSome)
    (.error s!"Canvas import will fail: No correct answer defined in {href}") ++
  Finding.when (item.first? ["responseProcessing"]).isNone
    (.warning s!"Missing responseProcessing (may need manual grading): {href}")

/-- The elements with a tag below the body of an item, if it has one. -/
def inBody (body : Option Element) (tag : String) : List Element :=
  (body.map (·.descendantsNamed tag)).getD []

/-- The findings on an item that need no other file. -/
def itemFindings (item : Element) (href : String) : List Finding :=
  let identifier := item.attribute? "identifier"
  let name := identifier.getD href
  let body := item.first? ["itemBody"]
  let html := (body.map Element.innerHtml).getD ""
  let declarations := item.childrenNamed "responseDeclaration"
  let choices := inBody body "choiceInteraction"
  Finding.when (!(item.childrenNamed "outcomeDeclaration").any fun o =>
      o.attribute? "identifier" == some "SCORE")
    (.warning s!"Item missing SCORE outcomeDeclaration: {href}") ++
  contentFindings securityRules html name "" ++
  Finding.when (identifier.any (!isIdentifier ·))
    (.warning
      s!"Identifier '{name}' contains special characters, may cause issues: {href}") ++
  choices.flatMap (cardinalityFindings declarations href) ++
  (if choices.isEmpty then [] else gradingFindings item declarations href) ++
  unsupportedInteractions.flatMap (fun tag => (inBody body tag).map fun _ =>
    .error s!"Unsupported Canvas interaction '{tag}' in {href}") ++
  limitedInteractions.flatMap (fun tag => Finding.when (!(inBody body tag).isEmpty)
    (.warning s!"{tag} has limited Canvas support: {href}"))

/-- An image that the package has to hold. -/
def isLocalImage (src : String) : Bool :=
  !isAbsoluteAddress src && hasImageExtension (upTo '#' (upTo '?' src.toList))

/-- A reference may be seen from either of two folders. -/
def existsUnder (site : Site) (first second : Path) (href : String) : Check Bool := do
  if ← Check.look (site.exists? first href) then return true
  Check.look (site.exists? second href)

def checkImage (site : Site) (href src : String) : Check Unit := do
  if isLocalImage src then
    if !(← existsUnder site (site.root.append ["items"]) site.root src) then
      Check.report [.error s!"Missing image file '{src}' referenced in {href}"]

def checkItem (site : Site) (item : Element) (href : String) : Check Unit := do
  Check.report (itemFindings item href)
  let html := ((item.first? ["itemBody"]).map Element.innerHtml).getD ""
  Check.each (checkImage site href) (imageSources html)

def checkItemReference (site : Site) (folder : Path) (ref : Element) : Check Unit :=
  match ref.attribute? "href" with
  | none => Check.done ()
  | some href => do
    if !(← existsUnder site site.root folder href) then
      Check.report [.error s!"Test references missing item file: {href}"]

mutual

/-- Checks a section of a test and then the sections inside it. -/
def checkSection (site : Site) (href : String) (folder : Path) : Element → Check Unit
  | .mk tag attributes text children tail => do
    let e : Element := .mk tag attributes text children tail
    Check.report [.identifier (e.attribute? "identifier") s!"Section in {href}"]
    Check.each (checkItemReference site folder) (e.childrenNamed "assessmentItemRef")
    checkSections site href folder children

/-- Checks the sections among a list of elements. -/
def checkSections (site : Site) (href : String) (folder : Path) : List Element → Check Unit
  | [] => Check.done ()
  | .mk tag attributes text children tail :: rest => do
    if tag == "assessmentSection" then
      checkSection site href folder (.mk tag attributes text children tail)
    checkSections site href folder rest

end

def checkTest (site : Site) (test : Element) (href : String) : Check Unit :=
  let folder := (resolve site.root href).parent
  Check.each (fun part => checkSections site href folder part.children)
    (test.childrenNamed "testPart")

/-- Reads a file of a resource; a malformed one is reported. -/
def readResource (site : Site) (href : String) : Check (Option Element) := do
  match ← Check.look (site.readDocument (resolve site.root href)) with
  | .ok e => return some e
  | .error f =>
    Check.report [.error s!"Invalid XML content in {href}: {f.message}"]
    return none

inductive ResourceKind where
  | item
  | test
  deriving DecidableEq, Repr

def ResourceKind.rootTag : ResourceKind → String
  | .item => "assessmentItem"
  | .test => "assessmentTest"

def ResourceKind.name : ResourceKind → String
  | .item => "Item"
  | .test => "Test"

def kindOf? (type : String) : Option ResourceKind :=
  if isItemType type then some .item else if isTestType type then some .test else none

/-- Reads and checks a file of an item or test resource. -/
def checkFile (site : Site) (kind : ResourceKind) (href : String) : Check Unit := do
  match ← readResource site href with
  | none => return
  | some root =>
    if root.tag != kind.rootTag then
      Check.report
        [.error s!"Invalid {kind.name} XML (missing {kind.rootTag}): {href}"]
    else
      Check.report [.identifier (root.attribute? "identifier") s!"{kind.name} {href}"]
      match kind with
      | .item => checkItem site root href
      | .test => checkTest site root href

def isDocumentName (href : String) : Bool :=
  ".xml".toList.isSuffixOf (lower href.toList)

/-- The references to documents, each path once. -/
def distinctDocuments (root : Path) : List Path → List String → List String
  | _, [] => []
  | seen, href :: rest =>
    let path := resolve root href
    if !isDocumentName href || seen.contains path then distinctDocuments root seen rest
    else href :: distinctDocuments root (path :: seen) rest

/-- A reference of a resource that leads somewhere; one that does not is reported. -/
def present (site : Site) (complaint : String) (href : String) : Check Bool := do
  if ← Check.look (site.exists? site.root href) then return true
  Check.report [.error s!"{complaint}: {href}"]
  return false

def checkResource (site : Site) (resource : Element) : Check Unit := do
  let kind := kindOf? ((resource.attribute? "type").getD "")
  Check.report (.identifier (resource.attribute? "identifier") "Resource" ::
    (match kind with
    | some .item => [.items 1]
    | some .test => [.test]
    | none => []))
  let main ← Check.filter (present site "Resource main file not found")
    (resource.attribute? "href").toList
  let files ← Check.filter (present site "Missing resource file")
    ((resource.childrenNamed "file").filterMap (·.attribute? "href"))
  match kind with
  | none => return
  | some kind => Check.each (checkFile site kind) (distinctDocuments site.root [] (main ++ files))

def resourcesOf (manifest : Element) : List Element :=
  ((manifest.first? ["resources"]).map (·.childrenNamed "resource")).getD []

def isTestResource (resource : Element) : Bool :=
  kindOf? ((resource.attribute? "type").getD "") = some .test

/-- Checks a package by its manifest. -/
def check (site : Site) (manifestPath : Path) : Check Unit := do
  Check.report [.manifest]
  match ← Check.look (site.readDocument manifestPath) with
  | .error f => Check.report [.error s!"Invalid XML in {manifestName}: {f.message}"]
  | .ok manifest =>
    if manifest.tag != "manifest" then
      Check.report [.error s!"{manifestName} missing root <manifest> element"]
    else
      let resources := resourcesOf manifest
      Check.report
        [.identifier (manifest.attribute? "identifier") "Manifest", .resources resources.length]
      Check.each (checkResource site) resources
      if !resources.any isTestResource then
        Check.report [.warning ("No assessmentTest resource found (imsqti_test_xmlv2p1). " ++
          "This may just be an item bank.")]

end QuizPreflight.Package.Manifest
