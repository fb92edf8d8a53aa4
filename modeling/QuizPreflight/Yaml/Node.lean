import QuizPreflight.Yaml.Token

/-!
# Nodes

The tree that the tokens of a document describe: tagged scalars, sequences and mappings, with
aliases replaced by what they name. An alias inside the collection it names stands for the
collection itself.
-/
namespace QuizPreflight.Yaml

inductive Node where
  | scalar (tag : Tag) (text : List Char)
  | sequence (tag : Tag) (items : List Node)
  | mapping (tag : Tag) (entries : List (Node × Node))
  | enclosing
  deriving Inhabited

def emptyNode : Node := .scalar .null []

/-- The tokens to come, the fault behind them, the anchors met and the tag handles in force. -/
structure Reader where
  tokens : List Token
  fault : Fault
  /-- An anchor stands for nothing while the node it names is still being read. -/
  anchors : List (List Char × Option Node)
  handles : List (List Char × List Char)

def defaultHandles : List (List Char × List Char) :=
  [(['!'], ['!']), (['!', '!'], corePrefix.toList)]

abbrev ReadM := StateT Reader (Except Fault)

def malformed {α : Type} : ReadM α := fun _ => .error .malformed

def peekToken : ReadM Token := fun r =>
  match r.tokens with
  | t :: _ => .ok (t, r)
  | [] => .error r.fault

def skipToken : ReadM Unit := fun r => .ok ((), { r with tokens := r.tokens.drop 1 })

/-- Takes the next token if it is the given one. -/
def takeToken (t : Token) : ReadM Bool := do
  if (← peekToken) == t then
    skipToken
    return true
  else return false

def expectToken (t : Token) : ReadM Unit := do
  if !(← takeToken t) then malformed

def defineAnchor (name : List Char) (node : Option Node) : ReadM Unit :=
  modify fun r => { r with anchors := (name, node) :: r.anchors }

def lookUpAnchor (name : List Char) : ReadM (Option (Option Node)) := do
  return ((← get).anchors.find? (·.1 == name)).map Prod.snd

/-- A tag with its handle expanded. -/
def expandTag (handle : Option (List Char)) (suffix : List Char) : ReadM (List Char) := do
  match handle with
  | none => return suffix
  | some h =>
    match (← get).handles.find? (·.1 == h) with
    | some (_, meaning) => return meaning ++ suffix
    | none => malformed

/-- The anchor and the tag in front of a node, in either order. -/
structure Properties where
  anchor : Option (List Char)
  tag : Option (List Char)

def readAnchor : ReadM (Option (List Char)) := do
  match ← peekToken with
  | .anchor name => skipToken; return some name
  | _ => return none

def readTag : ReadM (Option (Option (List Char) × List Char)) := do
  match ← peekToken with
  | .tag handle suffix => skipToken; return some (handle, suffix)
  | _ => return none

def readProperties : ReadM Properties := do
  let first ← readAnchor
  let tag ← readTag
  let anchor ← if first.isNone && tag.isSome then readAnchor else pure first
  match tag with
  | none => return ⟨anchor, none⟩
  | some (handle, suffix) => return ⟨anchor, some (← expandTag handle suffix)⟩

/-- A tag that was written out, a lone exclamation mark counting as none. -/
def Properties.ownTag (p : Properties) : Option Tag :=
  match p.tag with
  | none => none
  | some t => if t == ['!'] then none else some (Tag.ofName (String.ofList t))

/-- The tag of a scalar: a plain one or one marked `!` goes by its form, a quoted one is text. -/
def Properties.scalarTag (p : Properties) (text : List Char) (plain : Bool) : Tag :=
  match p.ownTag with
  | some t => t
  | none => if plain || p.tag.isSome then plainTag text else .str

def readScalar (p : Properties) (text : List Char) (plain : Bool) : Node :=
  .scalar (p.scalarTag text plain) text

/-- Whether a token ends a place where a node could stand. -/
def endsSlot (stops : List Token) : ReadM Bool := do return stops.contains (← peekToken)

/-- A node of properties alone is an empty scalar. -/
def emptyContent (p : Properties) : ReadM Node :=
  if p.anchor.isSome || p.tag.isSome then return readScalar p [] true else malformed

mutual

/-- A node; in a block, collections may start on it, and a sequence may stand unindented where
`flush` allows it. -/
def readNode (block flush : Bool) : Nat → ReadM Node
  | 0 => malformed
  | fuel + 1 => do
    match ← peekToken with
    | .alias name =>
      skipToken
      match ← lookUpAnchor name with
      | none => malformed
      | some none => return .enclosing
      | some (some node) => return node
    | _ =>
      let p ← readProperties
      if let some name := p.anchor then
        if (← lookUpAnchor name).isSome then malformed
        defineAnchor name none
      let node ← readContent p block flush fuel
      if let some name := p.anchor then defineAnchor name (some node)
      return node

/-- What stands behind the properties of a node. -/
def readContent (p : Properties) (block flush : Bool) : Nat → ReadM Node
  | 0 => malformed
  | fuel + 1 => do
    match ← peekToken with
    | .entry =>
      if flush then return .sequence (p.ownTag.getD .seq) (← readFlushItems fuel)
      else emptyContent p
    | .scalar text plain => skipToken; return readScalar p text plain
    | .openSequence => skipToken; return .sequence (p.ownTag.getD .seq) (← readFlowItems true fuel)
    | .openMapping => skipToken; return .mapping (p.ownTag.getD .map) (← readFlowEntries true fuel)
    | .blockSequence =>
      if block then
        skipToken
        return .sequence (p.ownTag.getD .seq) (← readBlockItems fuel)
      else emptyContent p
    | .blockMapping =>
      if block then
        skipToken
        return .mapping (p.ownTag.getD .map) (← readBlockEntries fuel)
      else emptyContent p
    | _ => emptyContent p

/-- A node, or an empty one where the slot ends at once. -/
def readSlot (block flush : Bool) (stops : List Token) : Nat → ReadM Node
  | 0 => malformed
  | fuel + 1 => do
    if ← endsSlot stops then return emptyNode else readNode block flush fuel

def readFlushItems : Nat → ReadM (List Node)
  | 0 => malformed
  | fuel + 1 => do
    if ← takeToken .entry then
      let item ← readSlot true false [.entry, .key, .value, .blockEnd] fuel
      return item :: (← readFlushItems fuel)
    else return []

def readBlockItems : Nat → ReadM (List Node)
  | 0 => malformed
  | fuel + 1 => do
    if ← takeToken .entry then
      let item ← readSlot true false [.entry, .blockEnd] fuel
      return item :: (← readBlockItems fuel)
    else
      expectToken .blockEnd
      return []

/-- The value of an entry, empty where no colon stands. -/
def readEntryValue (block flush : Bool) (stops : List Token) : Nat → ReadM Node
  | 0 => malformed
  | fuel + 1 => do
    if ← takeToken .value then readSlot block flush stops fuel else return emptyNode

def readBlockEntries : Nat → ReadM (List (Node × Node))
  | 0 => malformed
  | fuel + 1 => do
    match ← peekToken with
    | .blockEnd => skipToken; return []
    | .key =>
      skipToken
      let key ← readSlot true true [.key, .value, .blockEnd] fuel
      let value ← readEntryValue true true [.key, .value, .blockEnd] fuel
      return (key, value) :: (← readBlockEntries fuel)
    | _ => malformed

def readFlowItems (first : Bool) : Nat → ReadM (List Node)
  | 0 => malformed
  | fuel + 1 => do
    if ← takeToken .closeSequence then return []
    if !first then expectToken .comma
    match ← peekToken with
    | .key =>
      skipToken
      let key ← readSlot false false [.value, .comma, .closeSequence] fuel
      let value ← readEntryValue false false [.comma, .closeSequence] fuel
      return .mapping .map [(key, value)] :: (← readFlowItems false fuel)
    | .closeSequence => skipToken; return []
    | _ =>
      let item ← readNode false false fuel
      return item :: (← readFlowItems false fuel)

def readFlowEntries (first : Bool) : Nat → ReadM (List (Node × Node))
  | 0 => malformed
  | fuel + 1 => do
    if ← takeToken .closeMapping then return []
    if !first then expectToken .comma
    match ← peekToken with
    | .key =>
      skipToken
      let key ← readSlot false false [.value, .comma, .closeMapping] fuel
      let value ← readEntryValue false false [.comma, .closeMapping] fuel
      return (key, value) :: (← readFlowEntries false fuel)
    | .closeMapping => skipToken; return []
    | _ =>
      let key ← readNode false false fuel
      return (key, emptyNode) :: (← readFlowEntries false fuel)

end

def isStructural (t : Token) : Bool :=
  match t with
  | .versionDirective _ | .tagDirective _ _ | .otherDirective => true
  | .documentStart | .documentEnd | .streamEnd => true
  | _ => false

/-- The directives in front of a document; a version has to be one, and given once. -/
def readDirectives (versioned : Bool) (handles : List (List Char × List Char)) :
    Nat → ReadM Unit
  | 0 => malformed
  | fuel + 1 => do
    match ← peekToken with
    | .versionDirective major =>
      if versioned || major != 1 then malformed
      skipToken
      readDirectives true handles fuel
    | .tagDirective handle meaning =>
      if handles.any (·.1 == handle) then malformed
      skipToken
      readDirectives versioned ((handle, meaning) :: handles) fuel
    | .otherDirective =>
      skipToken
      readDirectives versioned handles fuel
    | _ => modify fun r => { r with handles := handles ++ defaultHandles }

def skipDocumentEnds : Nat → ReadM Unit
  | 0 => malformed
  | fuel + 1 => do if ← takeToken .documentEnd then skipDocumentEnds fuel

/-- The single document of a stream, if the stream has one. -/
def readStream (fuel : Nat) : ReadM (Option Node) := do
  let node ← match ← peekToken with
    | .streamEnd => pure none
    | t =>
      if isStructural t && t != .documentEnd then do
        readDirectives false [] fuel
        expectToken .documentStart
        if isStructural (← peekToken) then pure (some emptyNode)
        else some <$> readNode true false fuel
      else some <$> readNode true false fuel
  skipDocumentEnds fuel
  expectToken .streamEnd
  return node

/-- The node of a document, if the text is not empty. -/
def Node.ofText (s : List Char) : Except Fault (Option Node) := do
  let (tokens, fault) := tokens s
  let reader : Reader := ⟨tokens, fault.getD .malformed, [], defaultHandles⟩
  let (node, _) ← (readStream (4 * tokens.length + 8)).run reader
  return node

end QuizPreflight.Yaml
