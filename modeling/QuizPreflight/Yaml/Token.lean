import QuizPreflight.Text.Utf8
import QuizPreflight.Yaml.Quotation

/-!
# Tokens

The text of a document cut into tokens. Indentation opens and closes collections, and a colon
turns the scalar or collection before it on the same line into a key. A fault ends the list of
tokens, so that a reader of the list meets it only behind the tokens before it; a token that may
still turn out to be a key is not given out before that is known.
-/
namespace QuizPreflight.Yaml

inductive Token where
  | versionDirective (major : Nat)
  | tagDirective (handle : List Char) (meaning : List Char)
  | otherDirective
  | documentStart
  | documentEnd
  | streamEnd
  | blockSequence
  | blockMapping
  | blockEnd
  | openSequence
  | closeSequence
  | openMapping
  | closeMapping
  | entry
  | comma
  | key
  | value
  | anchor (name : List Char)
  | alias (name : List Char)
  | tag (handle : Option (List Char)) (suffix : List Char)
  | scalar (text : List Char) (plain : Bool)
  deriving DecidableEq, Repr

/-- A place where a key may turn out to start. -/
structure KeyPlace where
  flowLevel : Nat
  /-- Tokens before the key. -/
  tokens : Nat
  required : Bool
  index : Nat
  line : Nat
  column : Nat

structure Scan where
  cursor : Cursor
  tokens : Array Token
  flowLevel : Nat
  indent : Int
  outer : List Int
  keyAllowed : Bool
  places : List KeyPlace

def Scan.start (s : List Char) : Scan := ⟨Cursor.start s, #[], 0, -1, [], true, []⟩

def Scan.inFlow (s : Scan) : Bool := s.flowLevel != 0

def Scan.push (s : Scan) (t : Token) : Scan := { s with tokens := s.tokens.push t }

def Scan.place? (s : Scan) : Option KeyPlace := s.places.find? (·.flowLevel == s.flowLevel)

def Scan.forgetPlace (s : Scan) : Scan :=
  { s with places := s.places.filter (·.flowLevel != s.flowLevel) }

/-- Gives up the key of the present level, which may not be a required one. -/
def Scan.dropPlace (s : Scan) : Except Fault Scan :=
  if s.place?.any KeyPlace.required then .error .malformed else .ok s.forgetPlace

def maxKeyLength : Nat := 1024

def Scan.isStale (s : Scan) (p : KeyPlace) : Bool :=
  p.line != s.cursor.line || maxKeyLength < s.cursor.index - p.index

/-- Gives up keys that ran over the end of their line or grew too long. -/
def Scan.dropStale (s : Scan) : Except Fault Scan :=
  if s.places.any fun p => s.isStale p && p.required then .error .malformed
  else .ok { s with places := s.places.filter (!s.isStale ·) }

def Scan.savePlace (s : Scan) : Except Fault Scan :=
  if s.keyAllowed then do
    let required := !s.inFlow && s.indent == s.cursor.column
    let place : KeyPlace :=
      ⟨s.flowLevel, s.tokens.size, required, s.cursor.index, s.cursor.line, s.cursor.column⟩
    let s ← s.dropPlace
    .ok { s with places := place :: s.places }
  else .ok s

/-- Closes the block collections indented further than a column. -/
def Scan.unwindTo (s : Scan) (column : Int) : Scan :=
  if s.inFlow then s else close s.outer s
where
  close : List Int → Scan → Scan
    | [], s => s
    | i :: outer, s =>
      if column < s.indent then
        close outer { s.push .blockEnd with indent := i, outer := outer }
      else s

/-- Opens a block collection at a column, unless one is open there. -/
def Scan.indentTo (s : Scan) (column : Nat) (t : Token) : Scan :=
  if s.indent < column then
    { s.push t with indent := column, outer := s.indent :: s.outer }
  else s

/-- Spaces, comments and line breaks in front of a token. -/
def Scan.skipToToken : Nat → Scan → Scan
  | 0, s => s
  | fuel + 1, s =>
    let c := (s.cursor.skipWhile isSpace).skipComment
    match c.lineBreak? with
    | some (_, c) =>
      Scan.skipToToken fuel { s with cursor := c, keyAllowed := s.keyAllowed || !s.inFlow }
    | none => { s with cursor := c }

def isNameChar (c : Char) : Bool := c.isAlphanum || c == '-' || c == '_'

def isUriChar (c : Char) : Bool :=
  c.isAlphanum || "-;/?:@&=+$,_.!~*'()[]".toList.contains c

/-- The bytes of a run of percent escapes. -/
def uriBytes : List Char → Option (List UInt8 × List Char)
  | '%' :: a :: b :: rest => do
    let n ← digitsIn 16 [a, b]
    let (more, rest) ← uriBytes rest
    some (UInt8.ofNat n :: more, rest)
  | '%' :: _ => none
  | s => some ([], s)

/-- Characters of a tag, with percent escapes decoded. -/
def uriText : Nat → List Char → Except Fault (List Char × List Char)
  | 0, s => .ok ([], s)
  | fuel + 1, s =>
    match s with
    | '%' :: _ =>
      match uriBytes s with
      | none => .error .malformed
      | some (bytes, rest) =>
        match Text.Utf8.decode bytes with
        | .error _ => .error .malformed
        | .ok text => do
          let (more, rest) ← uriText fuel rest
          .ok (text ++ more, rest)
    | c :: rest =>
      if isUriChar c then do
        let (more, rest) ← uriText fuel rest
        .ok (c :: more, rest)
      else .ok ([], s)
    | [] => .ok ([], [])

def Cursor.moveTo (c : Cursor) (rest : List Char) : Cursor :=
  c.drop (c.rest.length - rest.length)

def Cursor.uri (c : Cursor) : Except Fault (List Char × Cursor) := do
  let (text, rest) ← uriText (c.rest.length + 1) c.rest
  if rest.length == c.rest.length then throw .malformed
  return (text, c.moveTo rest)

/-- A tag handle: one exclamation mark, or a name between two. -/
def Cursor.tagHandle (c : Cursor) : Except Fault (List Char × Cursor) :=
  match c.rest with
  | '!' :: rest =>
    let name := rest.takeWhile isNameChar
    match rest.drop name.length with
    | '!' :: _ => .ok ('!' :: (name ++ ['!']), c.drop (name.length + 2))
    | _ => if rest.head? == some ' ' then .ok (['!'], c.step) else .error .malformed
  | _ => .error .malformed

/-- Whether a tag that starts here names a handle: a second exclamation mark in its word. -/
def namesHandle (s : List Char) : Bool :=
  (s.takeWhile fun c => !(c == ' ' || isBreak c)).contains '!'

def Cursor.tag (c : Cursor) : Except Fault (Token × Cursor) := do
  let (token, c) ← match c.rest with
    | '!' :: '<' :: _ => do
      let (suffix, c) ← (c.drop 2).uri
      if c.peek? == some '>' then pure (Token.tag none suffix, c.step) else throw .malformed
    | '!' :: rest =>
      if endsToken rest then pure (Token.tag none ['!'], c.step)
      else do
        let (handle, c) ← if namesHandle rest then c.tagHandle else pure (['!'], c.step)
        let (suffix, c) ← c.uri
        pure (Token.tag (some handle) suffix, c)
    | _ => throw .malformed
  if endsWord c.rest then return (token, c) else throw .malformed

/-- The name behind the sign of an anchor or alias. -/
def Cursor.anchorName (c : Cursor) : Except Fault (List Char × Cursor) :=
  let (name, c) := c.step.span isNameChar
  if name.isEmpty then .error .malformed
  else if endsToken c.rest || c.peek?.any fun ch => "?:,]\x7d%@`".toList.contains ch then
    .ok (name, c)
  else .error .malformed

def Cursor.decimal (c : Cursor) : Except Fault (Nat × Cursor) :=
  let (ds, c) := c.span Char.isDigit
  if ds.isEmpty then .error .malformed
  else if Decimal.maxDigits < ds.length then .error (.tooManyDigits ds.length)
  else .ok (number ds, c)

/-- A directive behind its percent sign. -/
def Cursor.directive (c : Cursor) : Except Fault (Token × Cursor) := do
  let (name, c) := c.step.span isNameChar
  if name.isEmpty || !endsWord c.rest then throw .malformed
  let (token, c) ←
    if name == "YAML".toList then do
      let (major, c) ← (c.skipWhile isSpace).decimal
      if c.peek? != some '.' then throw .malformed
      let (_, c) ← c.step.decimal
      if endsWord c.rest then pure (Token.versionDirective major, c) else throw .malformed
    else if name == "TAG".toList then do
      let (handle, c) ← (c.skipWhile isSpace).tagHandle
      if c.peek? != some ' ' then throw .malformed
      let (meaning, c) ← (c.skipWhile isSpace).uri
      if endsWord c.rest then pure (Token.tagDirective handle meaning, c) else throw .malformed
    else pure (Token.otherDirective, c.skipWhile (!isBreak ·))
  return (token, ← c.finishLine)

/-- A token that may begin a key. -/
def Scan.nodeStart (s : Scan) (read : Scan → Except Fault (Token × Cursor)) :
    Except Fault Scan := do
  let s ← s.savePlace
  let (token, c) ← read s
  return { s.push token with cursor := c, keyAllowed := false }

def Scan.marker (s : Scan) (t : Token) : Except Fault Scan := do
  let s ← (s.unwindTo (-1)).dropPlace
  return { s.push t with cursor := s.cursor.drop 3, keyAllowed := false }

def Scan.openFlow (s : Scan) (t : Token) : Except Fault Scan := do
  let s ← s.savePlace
  return { s.push t with cursor := s.cursor.step, keyAllowed := true, flowLevel := s.flowLevel + 1 }

def Scan.closeFlow (s : Scan) (t : Token) : Except Fault Scan := do
  let s ← s.dropPlace
  return { s.push t with cursor := s.cursor.step, keyAllowed := false, flowLevel := s.flowLevel - 1 }

def Scan.comma (s : Scan) : Except Fault Scan := do
  let s ← s.dropPlace
  return { s.push .comma with cursor := s.cursor.step, keyAllowed := true }

def Scan.entry (s : Scan) : Except Fault Scan := do
  if !s.inFlow && !s.keyAllowed then throw .malformed
  let s := if s.inFlow then s else s.indentTo s.cursor.column .blockSequence
  let s ← s.dropPlace
  return { s.push .entry with cursor := s.cursor.step, keyAllowed := true }

def Scan.key (s : Scan) : Except Fault Scan := do
  if !s.inFlow && !s.keyAllowed then throw .malformed
  let s := if s.inFlow then s else s.indentTo s.cursor.column .blockMapping
  let s ← s.dropPlace
  return { s.push .key with cursor := s.cursor.step, keyAllowed := !s.inFlow }

/-- Puts tokens into the list at a place passed before. -/
def insertTokens (tokens : Array Token) (place : Nat) (new : List Token) : Array Token :=
  tokens.extract 0 place ++ new.toArray ++ tokens.extract place tokens.size

def Scan.value (s : Scan) : Except Fault Scan := do
  let s ← match s.place? with
    | some p =>
      let opens := !s.inFlow && s.indent < p.column
      let new := if opens then [Token.blockMapping, .key] else [.key]
      let s := { s.forgetPlace with
        tokens := insertTokens s.tokens p.tokens new, keyAllowed := false }
      pure (if opens then { s with indent := p.column, outer := s.indent :: s.outer } else s)
    | none => do
      if !s.inFlow && !s.keyAllowed then throw .malformed
      let s := if s.inFlow then s else s.indentTo s.cursor.column .blockMapping
      pure { (← s.dropPlace) with keyAllowed := !s.inFlow }
  return { s.push .value with cursor := s.cursor.step }

def Scan.block (s : Scan) (folded : Bool) : Except Fault Scan := do
  let s ← s.dropPlace
  let (text, c) ← blockScalar folded s.indent s.cursor
  return { s.push (.scalar text false) with cursor := c, keyAllowed := true }

def Scan.plain (s : Scan) : Except Fault Scan := do
  let s ← s.savePlace
  let (text, c, newLine) := plainScalar s.inFlow (s.indent + 1) s.cursor
  return { s.push (.scalar text true) with cursor := c, keyAllowed := newLine }

/-- Whether a plain scalar may start here. -/
def startsPlain (inFlow : Bool) (s : List Char) : Bool :=
  match s with
  | [] => false
  | c :: rest =>
    !(isSpaceOrTab c || isBreak c || "-?:,[]\x7b\x7d#&*!|>'\"%@`".toList.contains c) ||
    (!endsToken rest && (c == '-' || (!inFlow && (c == '?' || c == ':'))))

/-- Reads one token, and those that indentation closes before it. -/
def Scan.next (s : Scan) : Except Fault Scan := do
  let s ← s.dropStale
  let s := s.unwindTo s.cursor.column
  let c := s.cursor
  match c.rest with
  | [] =>
    let s ← (s.unwindTo (-1)).dropPlace
    return { s.push .streamEnd with keyAllowed := false, places := [] }
  | ch :: rest =>
    let own := endsToken rest
    if ch == '%' && c.column == 0 then do
      let s ← (s.unwindTo (-1)).dropPlace
      let (token, c) ← s.cursor.directive
      return { s.push token with cursor := c, keyAllowed := false }
    else if c.column == 0 && isMarker c.rest then
      s.marker (if ch == '-' then .documentStart else .documentEnd)
    else if ch == '[' then s.openFlow .openSequence
    else if ch == '{' then s.openFlow .openMapping
    else if ch == ']' then s.closeFlow .closeSequence
    else if ch == '}' then s.closeFlow .closeMapping
    else if ch == ',' then s.comma
    else if ch == '-' && own then s.entry
    else if ch == '?' && (s.inFlow || own) then s.key
    else if ch == ':' && (s.inFlow || own) then s.value
    else if ch == '*' then s.nodeStart fun s => do
      let (name, c) ← s.cursor.anchorName
      return (.alias name, c)
    else if ch == '&' then s.nodeStart fun s => do
      let (name, c) ← s.cursor.anchorName
      return (.anchor name, c)
    else if ch == '!' then s.nodeStart fun s => s.cursor.tag
    else if ch == '|' && !s.inFlow then s.block false
    else if ch == '>' && !s.inFlow then s.block true
    else if ch == '\'' || ch == '"' then s.nodeStart fun s => do
      let (text, c) ← quotedScalar (ch == '"') s.cursor
      return (.scalar text false, c)
    else if startsPlain s.inFlow c.rest then s.plain
    else throw .malformed

def Scan.isDone (s : Scan) : Bool := s.tokens.back? == some .streamEnd

/-- The tokens in front of the first one that may still be a key. -/
def Scan.settled (s : Scan) : List Token :=
  let places := s.places.filter (!s.isStale ·)
  s.tokens.toList.take ((places.map KeyPlace.tokens).foldl min s.tokens.size)

/-- The tokens of a document up to the first fault. -/
def Scan.run : Nat → Scan → List Token × Option Fault
  | 0, s => (s.settled, some .malformed)
  | fuel + 1, s =>
    match (Scan.skipToToken (s.cursor.rest.length + 1) s).next with
    | .error f => (s.settled, some f)
    | .ok s => if s.isDone then (s.tokens.toList, none) else Scan.run fuel s

/-- Characters that may stand in a document at all. -/
def isAllowed (c : Char) : Bool :=
  let n := c.toNat
  n == 0x9 || n == 0xa || n == 0xd || (0x20 ≤ n && n ≤ 0x7e) || n == 0x85 ||
  (0xa0 ≤ n && n ≤ 0xd7ff) || (0xe000 ≤ n && n ≤ 0xfffd) || 0x10000 ≤ n

/-- The tokens of a text; a byte order mark may stand at its very front. -/
def tokens (s : List Char) : List Token × Option Fault :=
  if s.all isAllowed then
    let start := Scan.start s
    let start := if s.head? == some '\ufeff' then { start with cursor := start.cursor.step }
      else start
    Scan.run (s.length + 1) start
  else ([], some .malformed)

end QuizPreflight.Yaml
