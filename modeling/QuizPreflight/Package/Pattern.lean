import QuizPreflight.Text.Match
import QuizPreflight.Text.Word

/-!
# Patterns of names and references

Identifiers, resource types, image references and addresses.
-/
namespace QuizPreflight.Package

open QuizPreflight.Text

/-- The end of a text, or the newline that ends it. -/
def atEnd (s : List Char) : Bool := s.isEmpty || s == ['\n']

/-- A letter or an underscore, then letters, digits and underscores, all of ASCII. -/
def isIdentifier (s : String) : Bool :=
  match s.toList with
  | [] => false
  | c :: rest => (c.isAlpha || c == '_') && atEnd (rest.dropWhile isAsciiWord)

/-- A resource type: a fixed beginning and a version number of two parts. -/
def isResourceType (beginning : String) (type : String) : Bool :=
  let after : Option (List Char) := do
    let s ← many isDigit (← literal beginning.toList type.toList)
    many isDigit (← literal ['p'] s)
  after.any atEnd

def isItemType (type : String) : Bool := isResourceType "imsqti_item_xmlv" type

def isTestType (type : String) : Bool := isResourceType "imsqti_test_xmlv" type

/-- The value of a source attribute: the text between two quotes of either kind. -/
def sourceValue? (s : List Char) : Option (List Char × List Char) := do
  let isQuote (c : Char) : Bool := c == '"' || c == '\''
  let s := dropBlanks (← word "src".toList s)
  let s ← one isQuote (dropBlanks (← literal ['='] s))
  let value := s.takeWhile (!isQuote ·)
  let rest ← one isQuote (s.dropWhile (!isQuote ·))
  if value.isEmpty then none else some (value, rest)

/-- The first source attribute in a tag, and what follows it. The attribute's name follows a
character that is not part of a word. -/
def findSource? (before : Char) : List Char → Option (List Char × List Char)
  | [] => none
  | c :: s =>
    let here := if isWord before then none else sourceValue? (c :: s)
    here.or (if c = '>' then none else findSource? c s)

/-- The source of an image tag at the front of a text, and what follows it. -/
def imageSource? (s : List Char) : Option (List Char × List Char) := do
  let rest ← word "<img".toList s
  if rest.head?.any isWord then none else findSource? 'g' rest

/-- The sources of all images in a text, without blanks around them; each is searched for after
the one before. -/
def imageSourcesFrom : Nat → List Char → List String
  | 0, _ => []
  | _ + 1, [] => []
  | fuel + 1, c :: s =>
    match imageSource? (c :: s) with
    | some (value, rest) => String.ofList (strip value) :: imageSourcesFrom fuel rest
    | none => imageSourcesFrom fuel s

def imageSources (html : String) : List String :=
  imageSourcesFrom html.toList.length html.toList

def imageExtensions : List String := [".png", ".jpg", ".jpeg", ".gif", ".svg", ".webp"]

def hasImageExtension (s : List Char) : Bool :=
  imageExtensions.any fun e => occurs (fun s => do
    let rest ← word e.toList s
    if atEnd rest then some rest else none) s

/-- A scheme with its colon, or two slashes. -/
def isAbsoluteAddress (s : String) : Bool :=
  let inScheme (c : Char) : Bool :=
    isLatinLetter c || c.isDigit || c == '+' || c == '.' || c == '-'
  match s.toList with
  | '/' :: '/' :: _ => true
  | c :: rest => isLatinLetter c && (rest.dropWhile inScheme).head? == some ':'
  | [] => false

/-- The text before the first of a character. -/
def upTo (c : Char) (s : List Char) : List Char := s.takeWhile (· != c)

end QuizPreflight.Package
