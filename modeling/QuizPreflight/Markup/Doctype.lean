import QuizPreflight.Markup.Attribute

/-!
# Before and after the root element

The markup declaration, comments, instructions and the document type come before the root
element; only comments and instructions come after it. Declared entities are refused, declared
attributes are kept.
-/
namespace QuizPreflight.Markup

/-- The marks that say how often an element may occur. -/
inductive Occurrence where
  | optional
  | any
  | some
  deriving DecidableEq

inductive OuterToken where
  | space
  | instruction (i : Instruction)
  | comment
  | root
  | declaration (keyword : String)
  | declarationEnd
  | sectionStart
  | sectionEnd
  | name (text : List Char) (hasPrefix : Bool)
  | nameToken
  | countedName
  | poundName (text : List Char)
  | literal (quote : Char) (value : List Char)
  | percent
  | parameter
  | comma
  | bar
  | openBracket
  | closeBracket
  | openParen
  | closeParen (occurrence : Option Occurrence)
  deriving DecidableEq

def occurrenceOf? (c : Char) : Option Occurrence :=
  if c = '?' then some .optional
  else if c = '*' then some .any
  else if c = '+' then some .some
  else none

/-- A token may end the text; otherwise one of some characters has to follow it. -/
def mustPrecede (followers : List Char) (t : OuterToken) (s : List Char) :
    Except Stop (OuterToken × List Char) :=
  if s.head?.all fun c => isSpace c || followers.contains c then .ok (t, s)
  else .error (.invalid s)

def isKeywordChar (c : Char) : Bool := c.isAlpha || c == '_'

/-- A declaration after its opening. -/
def scanDeclaration : List Char → Except Stop (OuterToken × List Char)
  | [] => .error .cut
  | '-' :: s => do
    let s ← expect '-' s
    return (.comment, ← scanComment s)
  | '[' :: s => .ok (.sectionStart, s)
  | s =>
    let keyword := s.takeWhile isKeywordChar
    if keyword.isEmpty then .error (.invalid s)
    else match s.dropWhile isKeywordChar with
      | [] => .error .cut
      | '%' :: [] => .error .cut
      | '%' :: c :: rest =>
        if isSpace c || c = '%' then .error (.invalid ('%' :: c :: rest))
        else .ok (.declaration (String.ofList keyword), '%' :: c :: rest)
      | c :: rest =>
        if isSpace c then .ok (.declaration (String.ofList keyword), c :: rest)
        else .error (.invalid (c :: rest))

/-- A literal after its quote. It keeps the text after it; its value ends at the next quote. -/
def scanLiteral (quote : Char) (value : List Char) : Except Stop (OuterToken × List Char) :=
  match value.dropWhile fun c => c != quote && isAllowed c with
  | [] => .error .cut
  | c :: s =>
    if c = quote then mustPrecede ['>', '%', '['] (.literal quote value) s
    else .error (.invalid (c :: s))

/-- What follows a percent sign: nothing of its own, or the name of a parameter entity. -/
def scanPercent (s : List Char) : Except Stop (OuterToken × List Char) :=
  match s with
  | [] => .error .cut
  | c :: _ =>
    if isSpace c || c = '%' then .ok (.percent, s)
    else do
      let (_, s) ← scanName s
      return (.parameter, ← expect ';' s)

/-- Characters of which words in declarations consist. -/
def isTokenChar (c : Char) : Bool := isNameChar c || c == ':'

/-- A colon counts as a prefix only once, after a name and in front of a name character. -/
def wordKind (word : List Char) : OuterToken :=
  match splitName word with
  | (none, _) => if word.head?.any isNameStart then .name word false else .nameToken
  | (some first, part) =>
    if first.head?.any isNameStart && !part.isEmpty && part.all isNameChar then .name word true
    else .nameToken

/-- A name or another word, or a name with a mark of how often it occurs. -/
def scanWord (s : List Char) : Except Stop (OuterToken × List Char) :=
  let word := s.takeWhile isTokenChar
  let rest := s.dropWhile isTokenChar
  match rest with
  | [] =>
    if word.getLast? = some ':' && wordKind (word.dropLast) = .name word.dropLast false then
      .error .cut
    else .ok (wordKind word, [])
  | c :: after =>
    if (occurrenceOf? c).isSome then
      if wordKind word = .nameToken then .error (.invalid rest) else .ok (.countedName, after)
    else mustPrecede ['>', ')', ',', '|', '[', '%'] (wordKind word) rest

def scanOuter : List Char → Except Stop (OuterToken × List Char)
  | [] => .error .cut
  | '"' :: s => scanLiteral '"' s
  | '\'' :: s => scanLiteral '\'' s
  | '<' :: [] => .error .cut
  | '<' :: '!' :: s => scanDeclaration s
  | '<' :: '?' :: s => do
    let (i, s) ← scanInstruction s
    return (.instruction i, s)
  | '<' :: c :: s =>
    if isKeywordChar c || 128 ≤ c.toNat then .ok (.root, '<' :: c :: s)
    else .error (.invalid (c :: s))
  | '%' :: s => scanPercent s
  | ',' :: s => .ok (.comma, s)
  | '[' :: s => .ok (.openBracket, s)
  | ']' :: ']' :: [] => .error .cut
  | ']' :: ']' :: '>' :: s => .ok (.sectionEnd, s)
  | ']' :: s => .ok (.closeBracket, s)
  | '(' :: s => .ok (.openParen, s)
  | ')' :: c :: s =>
    match occurrenceOf? c with
    | some o => .ok (.closeParen (some o), s)
    | none => mustPrecede ['>', ',', '|', ')'] (.closeParen none) (c :: s)
  | ')' :: [] => .ok (.closeParen none, [])
  | '|' :: s => .ok (.bar, s)
  | '>' :: s => .ok (.declarationEnd, s)
  | '#' :: s => do
    let (name, s) ← scanName s
    mustPrecede [')', '>', '%', '|'] (.poundName name) s
  | c :: s =>
    if isSpace c then .ok (.space, dropSpaces s)
    else if isTokenChar c then scanWord (c :: s)
    else .error (.invalid (c :: s))

/-- What the declaration of an external entity or of a document type expects next. -/
inductive External where
  | publicId
  | systemId
  | done
  deriving DecidableEq

/-- What may come next in front of the root element. A flag on an entity tells whether declaring
it is refused. -/
inductive Stage where
  | start
  | beforeDoctype
  | afterDoctype
  | doctypeName
  | doctypeBody
  | doctypeExternal (e : External)
  | doctypeEnd
  | subset
  | declarationEnd
  | entityKind
  | parameterName
  | entityBody (isParameter counts : Bool)
  | entityExternal (isParameter counts : Bool) (e : External)
  | unparsedName (counts : Bool)
  | notationOf
  | notationBody
  | notationPublic
  | notationSystem (isOptional : Bool)
  | attlistName
  | attribute (element : List Char)
  | attributeType (element name : List Char)
  | enumeration (element name : List Char) (words : Bool)
  | enumerationNext (element name : List Char) (words : Bool)
  | enumerationOpening (element name : List Char)
  | defaultKind (element name : List Char) (isTokenised isId : Bool)
  | defaultValue (element name : List Char) (isTokenised : Bool)
  | elementName
  | elementBody
  | firstParticle
  | mixed
  | mixedName
  | mixedNext
  | particle (groups : List (Option Char))
  | particleNext (groups : List (Option Char))
  deriving DecidableEq

/-- Characters of public identifiers. -/
def isPublicChar (c : Char) : Bool :=
  c.isAlphanum || c == ' ' || c == '\r' || c == '\n' ||
    ("-'()+,./:=?;!*#@$_%".toList).contains c

/-- A public identifier is checked up to its closing quote. -/
def checkPublic (quote : Char) (value : List Char) : Except Fault Unit :=
  let rest := value.dropWhile fun c => c != quote && isPublicChar c
  if rest.head? == some quote then .ok () else .error (.at .publicIdentifier rest)

/-- The value of an entity up to its closing quote; references in it have to be well-formed. -/
def checkEntityValue (quote : Char) : Nat → List Char → Except Fault Unit
  | 0, _ => .ok ()
  | _ + 1, [] => .ok ()
  | fuel + 1, c :: s =>
    let broken (e : Stop) : Fault :=
      match e with
      | .invalid rest => .at .invalidToken (if rest.head? == some quote then c :: s else rest)
      | .cut => .at .invalidToken (c :: s)
    if c = quote then .ok ()
    else if c = '%' then
      match scanPercent s with
      | .error e => .error (broken e)
      | .ok (.percent, rest) => .error (.at .invalidToken rest)
      | .ok _ => .error (.at .parameterReference (c :: s))
    else if c = '&' then
      match scanReference s with
      | .error e => .error (broken e)
      | .ok (.character none, _) => .error (.at .invalidCharacterNumber (c :: s))
      | .ok (_, rest) => checkEntityValue quote fuel rest
    else checkEntityValue quote fuel s

def tokenisedTypes : List String :=
  ["ID", "IDREF", "IDREFS", "ENTITY", "ENTITIES", "NMTOKEN", "NMTOKENS"]

/-- Takes in the declaration of an attribute. A second value is not taken in, nor is an
identifier declared twice. -/
def Declarations.declare (d : Declarations) (a : DeclaredAttribute) (isId : Bool) :
    Declarations :=
  if d.isAbandoned then d
  else if (a.value.isSome || isId) && (d.attributesOf a.element).any (·.name == a.name) then d
  else { d with attributes := d.attributes ++ [a] }

/-- A token at a place, as the stages see it. -/
structure Outer where
  token : OuterToken
  start : List Char

/-- A token that does not fit. -/
def Outer.misfit {α : Type} (o : Outer) : Except Fault α :=
  match o.token with
  | .parameter => .error (.at .parameterReference o.start)
  | .instruction .declaration => .error (.at .misplacedDeclaration o.start)
  | _ => .error (.at .grammar o.start)

abbrev Outcome := Except Fault (Stage × Declarations)

/-- Declaring an entity that counts ends the reading. -/
def declareEntity (counts : Bool) (next : Stage) (d : Declarations) : Outcome :=
  if counts then .error .entityDeclared else .ok (next, d)

/-- An entity's value is looked at unless declarations are no longer taken in. -/
def stepEntityValue (counts : Bool) (quote : Char) (value : List Char) (d : Declarations) :
    Outcome :=
  if counts then .error .entityDeclared
  else if d.isAbandoned then .ok (.declarationEnd, d)
  else do
    checkEntityValue quote value.length value
    return (.declarationEnd, d)

def stepEntity (o : Outer) (d : Declarations) : Stage → Outcome
  | .entityKind =>
    match o.token with
    | .percent => .ok (.parameterName, d)
    | .name text false =>
      let isPredefined := (predefinedEntities.lookup text).isSome
      .ok (.entityBody false (!isPredefined && !d.isAbandoned), d)
    | _ => o.misfit
  | .parameterName =>
    match o.token with
    | .name _ false => .ok (.entityBody true (!d.isAbandoned), d)
    | _ => o.misfit
  | .entityBody isParameter counts =>
    match o.token with
    | .name text false =>
      if text = "SYSTEM".toList then .ok (.entityExternal isParameter counts .systemId, d)
      else if text = "PUBLIC".toList then .ok (.entityExternal isParameter counts .publicId, d)
      else o.misfit
    | .literal quote value => stepEntityValue counts quote value d
    | _ => o.misfit
  | .entityExternal isParameter counts e =>
    match e, o.token with
    | .publicId, .literal quote value => do
      checkPublic quote value
      return (.entityExternal isParameter counts .systemId, d)
    | .systemId, .literal _ _ => .ok (.entityExternal isParameter counts .done, d)
    | .done, .declarationEnd => declareEntity counts .subset d
    | .done, .name text false =>
      if text = "NDATA".toList && !isParameter then .ok (.unparsedName counts, d) else o.misfit
    | _, _ => o.misfit
  | .unparsedName counts =>
    match o.token with
    | .name _ false => declareEntity counts .declarationEnd d
    | _ => o.misfit
  | _ => o.misfit

def stepNotation (o : Outer) (d : Declarations) : Stage → Outcome
  | .notationOf =>
    match o.token with
    | .name _ false => .ok (.notationBody, d)
    | _ => o.misfit
  | .notationBody =>
    match o.token with
    | .name text false =>
      if text = "SYSTEM".toList then .ok (.notationSystem false, d)
      else if text = "PUBLIC".toList then .ok (.notationPublic, d)
      else o.misfit
    | _ => o.misfit
  | .notationPublic =>
    match o.token with
    | .literal quote value => do
      checkPublic quote value
      return (.notationSystem true, d)
    | _ => o.misfit
  | .notationSystem isOptional =>
    match o.token with
    | .literal _ _ => .ok (.declarationEnd, d)
    | .declarationEnd => if isOptional then .ok (.subset, d) else o.misfit
    | _ => o.misfit
  | _ => o.misfit

/-- Takes in a default value, normalised as its type asks. -/
def stepDefault (o : Outer) (d : Declarations) (element name : List Char) (isTokenised isId : Bool)
    (quote : Char) (value : List Char) : Outcome :=
  if d.isAbandoned then .ok (.attribute element, d)
  else do
    let ctx : ValueContext := ⟨quote, isTokenised, d.decidesEntities, o.start⟩
    let value ← ctx.read [] value
    return (.attribute element, d.declare ⟨element, name, some value, isTokenised⟩ isId)

def stepAttlist (o : Outer) (d : Declarations) : Stage → Outcome
  | .attlistName =>
    match o.token with
    | .name text _ => .ok (.attribute text, d)
    | _ => o.misfit
  | .attribute element =>
    match o.token with
    | .declarationEnd => .ok (.subset, d)
    | .name text _ => .ok (.attributeType element text, d)
    | _ => o.misfit
  | .attributeType element name =>
    match o.token with
    | .name text false =>
      if text = "CDATA".toList then .ok (.defaultKind element name false false, d)
      else if text = "NOTATION".toList then .ok (.enumerationOpening element name, d)
      else if tokenisedTypes.contains (String.ofList text) then
        .ok (.defaultKind element name true (text = "ID".toList), d)
      else o.misfit
    | .openParen => .ok (.enumeration element name true, d)
    | _ => o.misfit
  | .enumerationOpening element name =>
    match o.token with
    | .openParen => .ok (.enumeration element name false, d)
    | _ => o.misfit
  | .enumeration element name words =>
    match o.token with
    | .name _ false => .ok (.enumerationNext element name words, d)
    | .name _ true | .nameToken =>
      if words then .ok (.enumerationNext element name words, d) else o.misfit
    | _ => o.misfit
  | .enumerationNext element name words =>
    match o.token with
    | .closeParen none => .ok (.defaultKind element name true false, d)
    | .bar => .ok (.enumeration element name words, d)
    | _ => o.misfit
  | .defaultKind element name isTokenised isId =>
    match o.token with
    | .poundName text =>
      if text = "IMPLIED".toList || text = "REQUIRED".toList then
        .ok (.attribute element, d.declare ⟨element, name, none, isTokenised⟩ isId)
      else if text = "FIXED".toList then .ok (.defaultValue element name isTokenised, d)
      else o.misfit
    | .literal quote value => stepDefault o d element name isTokenised isId quote value
    | _ => o.misfit
  | .defaultValue element name isTokenised =>
    match o.token with
    | .literal quote value => stepDefault o d element name isTokenised false quote value
    | _ => o.misfit
  | _ => o.misfit

/-- The connector of the innermost group is one and the same throughout. -/
def connect (o : Outer) (d : Declarations) (c : Char) : List (Option Char) → Outcome
  | [] => o.misfit
  | g :: groups =>
    if g = none || g = some c then .ok (.particle (some c :: groups), d)
    else .error (.at .grammar o.start)

def stepElement (o : Outer) (d : Declarations) : Stage → Outcome
  | .elementName =>
    match o.token with
    | .name _ _ => .ok (.elementBody, d)
    | _ => o.misfit
  | .elementBody =>
    match o.token with
    | .name text false =>
      if text = "EMPTY".toList || text = "ANY".toList then .ok (.declarationEnd, d)
      else o.misfit
    | .openParen => .ok (.firstParticle, d)
    | _ => o.misfit
  | .firstParticle =>
    match o.token with
    | .poundName text => if text = "PCDATA".toList then .ok (.mixed, d) else o.misfit
    | .openParen => .ok (.particle [none, none], d)
    | .name _ _ | .countedName => .ok (.particleNext [none], d)
    | _ => o.misfit
  | .mixed =>
    match o.token with
    | .closeParen none | .closeParen (some .any) => .ok (.declarationEnd, d)
    | .bar => .ok (.mixedName, d)
    | _ => o.misfit
  | .mixedName =>
    match o.token with
    | .name _ _ => .ok (.mixedNext, d)
    | _ => o.misfit
  | .mixedNext =>
    match o.token with
    | .closeParen (some .any) => .ok (.declarationEnd, d)
    | .bar => .ok (.mixedName, d)
    | _ => o.misfit
  | .particle groups =>
    match o.token with
    | .openParen => .ok (.particle (none :: groups), d)
    | .name _ _ | .countedName => .ok (.particleNext groups, d)
    | _ => o.misfit
  | .particleNext groups =>
    match o.token with
    | .closeParen _ =>
      .ok (if groups.length ≤ 1 then .declarationEnd else .particleNext groups.tail, d)
    | .comma => connect o d ',' groups
    | .bar => connect o d '|' groups
    | _ => o.misfit
  | _ => o.misfit

def stepDoctype (o : Outer) (d : Declarations) : Stage → Outcome
  | .doctypeName =>
    match o.token with
    | .name _ _ => .ok (.doctypeBody, d)
    | _ => o.misfit
  | .doctypeBody =>
    match o.token with
    | .openBracket => .ok (.subset, d)
    | .declarationEnd => .ok (.afterDoctype, d)
    | .name text false =>
      if text = "SYSTEM".toList then .ok (.doctypeExternal .systemId, d)
      else if text = "PUBLIC".toList then .ok (.doctypeExternal .publicId, d)
      else o.misfit
    | _ => o.misfit
  | .doctypeExternal e =>
    match e, o.token with
    | .publicId, .literal quote value => do
      checkPublic quote value
      return (.doctypeExternal .systemId, { d with hasExternal := true })
    | .systemId, .literal _ _ => .ok (.doctypeExternal .done, { d with hasExternal := true })
    | .done, .openBracket => .ok (.subset, d)
    | .done, .declarationEnd => .ok (.afterDoctype, d)
    | _, _ => o.misfit
  | .doctypeEnd =>
    match o.token with
    | .declarationEnd => .ok (.afterDoctype, d)
    | _ => o.misfit
  | .subset =>
    match o.token with
    | .declaration keyword =>
      if keyword = "ENTITY" then .ok (.entityKind, d)
      else if keyword = "ATTLIST" then .ok (.attlistName, d)
      else if keyword = "ELEMENT" then .ok (.elementName, d)
      else if keyword = "NOTATION" then .ok (.notationOf, d)
      else o.misfit
    | .instruction .other | .comment => .ok (.subset, d)
    | .parameter =>
      .ok (.subset, { d with hasExternal := true, isAbandoned := !d.isStandalone })
    | .closeBracket => .ok (.doctypeEnd, d)
    | _ => o.misfit
  | .declarationEnd =>
    match o.token with
    | .declarationEnd => .ok (.subset, d)
    | _ => o.misfit
  | _ => o.misfit

/-- A pseudo-attribute of the declaration, with the text from its name on, the text from its
value on and the text after it. -/
structure PseudoAttribute where
  name : List Char
  start : List Char
  value : List Char
  valueStart : List Char
  rest : List Char

def isDeclaredChar (c : Char) : Bool := c.isAlphanum || c == '.' || c == '-' || c == '_'

def isPseudoNameChar (c : Char) : Bool := c.toNat < 128 && c != '=' && !isSpace c

/-- The next pseudo-attribute, unless the declaration ends before it; the error is the text from
the first character that does not fit. -/
def nextPseudo (s : List Char) : Except (List Char) (Option PseudoAttribute) :=
  let start := dropSpaces s
  if start.isEmpty then .ok none
  else if !s.head?.any isSpace then .error s
  else
    let name := start.takeWhile isPseudoNameChar
    match dropSpaces (start.dropWhile isPseudoNameChar) with
    | '=' :: s =>
      if name.isEmpty then .error start
      else match dropSpaces s with
        | quote :: value =>
          let rest := value.dropWhile isDeclaredChar
          if quote != '"' && quote != '\'' then .error (quote :: value)
          else if rest.head? == some quote then
            .ok (some ⟨name, start, value.takeWhile isDeclaredChar, value, rest.tail⟩)
          else .error rest
        | [] => .error []
    | s => .error s

/-- Whether a declaration, given without its delimiters, says that the document stands alone. -/
def readDeclaration (s : List Char) : Except (List Char) Bool := do
  match ← nextPseudo s with
  | none => .error s
  | some version =>
    if version.name != "version".toList then .error version.start
    else match ← nextPseudo version.rest with
      | none => return false
      | some second =>
        let third ←
          if second.name = "encoding".toList then
            if second.value.head?.any Char.isAlpha then nextPseudo second.rest
            else .error second.valueStart
          else pure (some second)
        match third with
        | none => return false
        | some alone =>
          if alone.name != "standalone".toList then .error alone.start
          else if alone.value != "yes".toList && alone.value != "no".toList then
            .error alone.valueStart
          else if (dropSpaces alone.rest).isEmpty then return alone.value = "yes".toList
          else .error (dropSpaces alone.rest)

/-- The text in front of the end of an instruction, and from there on. -/
def splitInstruction : List Char → List Char × List Char
  | [] => ([], [])
  | '?' :: '>' :: s => ([], '?' :: '>' :: s)
  | c :: s =>
    let (body, rest) := splitInstruction s
    (c :: body, rest)

def stepDeclaration (o : Outer) (d : Declarations) : Outcome :=
  let (body, rest) := splitInstruction (o.start.drop 5)
  match readDeclaration body with
  | .ok isStandalone => .ok (.beforeDoctype, { d with isStandalone := isStandalone })
  | .error misfit => .error (.at .malformedDeclaration (misfit ++ rest))

/-- What a token in front of the root element leads to; white space only ends the very start. -/
def Stage.step (stage : Stage) (o : Outer) (d : Declarations) : Outcome :=
  match stage with
  | .start =>
    match o.token with
    | .instruction .declaration => stepDeclaration o d
    | .space | .instruction .other | .comment => .ok (.beforeDoctype, d)
    | .declaration keyword =>
      if keyword = "DOCTYPE" then .ok (.doctypeName, d) else o.misfit
    | _ => o.misfit
  | .beforeDoctype =>
    match o.token with
    | .space | .instruction .other | .comment => .ok (.beforeDoctype, d)
    | .declaration keyword =>
      if keyword = "DOCTYPE" then .ok (.doctypeName, d) else o.misfit
    | _ => o.misfit
  | .afterDoctype =>
    match o.token with
    | .space | .instruction .other | .comment => .ok (.afterDoctype, d)
    | _ => o.misfit
  | stage =>
    if o.token = .space then .ok (stage, d)
    else match stage with
      | .entityKind | .parameterName | .entityBody .. | .entityExternal .. | .unparsedName _ =>
        stepEntity o d stage
      | .notationOf | .notationBody | .notationPublic | .notationSystem _ => stepNotation o d stage
      | .attlistName | .attribute _ | .attributeType .. | .enumeration .. | .enumerationNext ..
      | .enumerationOpening .. | .defaultKind .. | .defaultValue .. => stepAttlist o d stage
      | .elementName | .elementBody | .firstParticle | .mixed | .mixedName | .mixedNext
      | .particle _ | .particleNext _ => stepElement o d stage
      | _ => stepDoctype o d stage

/-- The stages at which the root element may begin. -/
def Stage.admitsRoot : Stage → Bool
  | .start | .beforeDoctype | .afterDoctype => true
  | _ => false

end QuizPreflight.Markup
