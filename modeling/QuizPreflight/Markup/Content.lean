import QuizPreflight.Markup.Attribute
import QuizPreflight.Markup.Element

/-!
# Content of a document

The tags of the root element and all below it, with the elements that are still open kept on
a stack.
-/
namespace QuizPreflight.Markup

/-- An element that is not closed yet: its children so far, latest first, and the characters
after them, latest first. -/
structure OpenElement where
  rawName : List Char
  tag : Tag
  text : String
  children : List Element
  pending : List Char

/-- Puts the pending characters where they belong: after the last child or before the first. -/
def OpenElement.flush (o : OpenElement) : OpenElement :=
  let text := String.ofList o.pending.reverse
  match o.children with
  | [] => { o with text := text, pending := [] }
  | e :: es => { o with children := e.withTail text :: es, pending := [] }

def OpenElement.append (o : OpenElement) (c : Char) : OpenElement :=
  { o with pending := c :: o.pending }

def OpenElement.addChild (o : OpenElement) (e : Element) : OpenElement :=
  { o.flush with children := e :: o.flush.children }

def OpenElement.close (o : OpenElement) : Element :=
  .mk (String.ofList o.tag.name) o.tag.attributes o.flush.text o.flush.children.reverse ""

/-- The innermost open element and those around it. -/
structure Stack where
  top : OpenElement
  below : List OpenElement

/-- Where reading stands after a token: inside the root, or past its end. -/
inductive Progress where
  | inside (stack : Stack)
  | done (root : Element)

def Stack.append (k : Stack) (c : Char) : Stack := { k with top := k.top.append c }

def Stack.push (k : Stack) (rawName : List Char) (tag : Tag) : Stack :=
  ⟨⟨rawName, tag, "", [], []⟩, k.top :: k.below⟩

def Stack.addChild (k : Stack) (e : Element) : Stack := { k with top := k.top.addChild e }

def Stack.pop (k : Stack) : Progress :=
  match k.below with
  | [] => .done k.top.close
  | o :: below => .inside ⟨o.addChild k.top.close, below⟩

/-- The characters of a section, latest first, and the text after its end. -/
def readSection (k : Stack) : List Char → Except Fault (Stack × List Char)
  | [] => .error (.at .unclosedSection [])
  | ']' :: ']' :: '>' :: s => .ok (k, s)
  | ']' :: ']' :: [] => .error (.at .unclosedSection [']', ']'])
  | ']' :: [] => .error (.at .unclosedSection [']'])
  | '\r' :: [] => .error (.at .unclosedSection ['\r'])
  | '\r' :: '\n' :: s => readSection (k.append '\n') s
  | c :: s =>
    if !isAllowed c then .error (.at .invalidToken (c :: s))
    else readSection (k.append (if c = '\r' then '\n' else c)) s

/-- The character that a reference in content stands for; one to an entity that may be declared
elsewhere is not resolved. -/
def resolve (d : Declarations) (start : List Char) : Reference → Except Fault Char
  | .character none => .error (.at .invalidCharacterNumber start)
  | .character (some c) => .ok c
  | .entity name =>
    match predefinedEntities.lookup name with
    | some c => .ok c
    | none =>
      .error (.at (if d.decidesEntities then .undefinedEntity else .skippedEntity name) start)

/-- Takes in one token that begins at a place; the text after it follows. -/
def Stack.step (d : Declarations) (k : Stack) (start : List Char) :
    Token × List Char → Except Fault (Progress × List Char)
  | (.character c, s) => .ok (.inside (k.append c), s)
  | (.reference r, s) => do return (.inside (k.append (← resolve d start r)), s)
  | (.opening name raws isEmpty, s) => do
    let tag ← readTag d k.top.tag.scope start name raws
    let opened := k.push name tag
    return (if isEmpty then opened.pop else .inside opened, s)
  | (.closing name place, s) =>
    if name = k.top.rawName then .ok (k.pop, s) else .error (.at .mismatchedTag place)
  | (.sectionOpening, s) => do
    let (k, s) ← readSection k s
    return (.inside k, s)
  | (.instruction .declaration, _) => .error (.at .misplacedDeclaration start)
  | (.instruction .other, s) => .ok (.inside k, s)
  | (.comment, s) => .ok (.inside k, s)

/-- The fault that ends a text whose next token begins at a place. -/
def Stop.fault (start : List Char) : Stop → Fault
  | .invalid rest => .at .invalidToken rest
  | .cut => .at .unclosedToken start

/-- Nothing is left but a line ending that could still be continued. -/
def isExhausted (s : List Char) : Bool := s.isEmpty || s == ['\r']

/-- Reads up to the end of the root element; each token takes one unit of fuel at most. -/
def readContent (d : Declarations) : Nat → Stack → List Char → Except Fault (Element × List Char)
  | 0, _, s => .error (.at .noElement s)
  | fuel + 1, k, s =>
    if isExhausted s then .error (.at .noElement s)
    else match scanContent s with
      | .error e => .error (e.fault s)
      | .ok t =>
        match k.step d s t with
        | .error f => .error f
        | .ok (.done root, rest) => .ok (root, rest)
        | .ok (.inside k', rest) => readContent d fuel k' rest

/-- Reads the root element, whose tag begins the text. -/
def readRoot (d : Declarations) (s : List Char) : Except Fault (Element × List Char) :=
  match scanContent s with
  | .error e => .error (e.fault s)
  | .ok (.opening name raws isEmpty, rest) => do
    let tag ← readTag d Scope.initial s name raws
    let opened : Stack := ⟨⟨name, tag, "", [], []⟩, []⟩
    if isEmpty then return (opened.top.close, rest)
    else readContent d rest.length opened rest
  | .ok (_, rest) => .error (.at .invalidToken rest)

end QuizPreflight.Markup
