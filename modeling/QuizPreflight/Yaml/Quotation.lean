import QuizPreflight.Text.Match
import QuizPreflight.Yaml.Cursor
import QuizPreflight.Yaml.Scalar

/-!
# Written scalars

The three ways to write a scalar: quoted, plain, and as a block of lines. Line breaks inside a
quoted or plain scalar fold: a single one becomes a space and each further one is kept.
-/
namespace QuizPreflight.Yaml

/-- How the text of several lines is put together. -/
structure Fold where
  /-- The first break, if the line ended. -/
  first : Option Char
  /-- Breaks of the blank lines that follow. -/
  further : List Char

def Fold.text (f : Fold) : List Char :=
  match f.first with
  | none => []
  | some '\n' => if f.further.isEmpty then [' '] else f.further
  | some c => c :: f.further

/-- Blank lines inside a quoted scalar; a document marker may not stand among them. -/
def quotedBreaks : Nat → Cursor → Except Fault (List Char × Cursor)
  | 0, _ => .error .malformed
  | fuel + 1, c =>
    if isMarker c.rest then .error .malformed else
    let c := c.skipWhile isSpaceOrTab
    match c.lineBreak? with
    | none => .ok ([], c)
    | some (b, c) => do
      let (more, c) ← quotedBreaks fuel c
      .ok (b :: more, c)

/-- Blanks and line breaks between the words of a quoted scalar. -/
def quotedSpace (c : Cursor) : Except Fault (List Char × Cursor) :=
  let (gap, c) := c.span isSpaceOrTab
  match c.lineBreak? with
  | some (b, c) => do
    let (more, c) ← quotedBreaks (c.rest.length + 1) c
    .ok (Fold.text ⟨some b, more⟩, c)
  | none => if c.rest.isEmpty then .error .malformed else .ok (gap, c)

def simpleEscapes : List (Char × Char) :=
  [('0', '\x00'), ('a', '\x07'), ('b', '\x08'), ('t', '\t'), ('\t', '\t'), ('n', '\n'),
   ('v', '\x0b'), ('f', '\x0c'), ('r', '\r'), ('e', '\x1b'), (' ', ' '), ('"', '"'),
   ('\\', '\\'), ('/', '/'), ('N', '\u0085'), ('_', '\u00a0'), ('L', '\u2028'),
   ('P', '\u2029')]

def codeLength? (c : Char) : Option Nat :=
  if c == 'x' then some 2 else if c == 'u' then some 4 else if c == 'U' then some 8 else none

/-- A character from its code; half of a surrogate pair leaves a substitute. -/
def charOfCode (code : Nat) : Except Fault Char :=
  if 0x7fffffff < code then .error .codePointTooLarge
  else if 0x10ffff < code then .error .codePointRange
  else if 0xd800 ≤ code && code < 0xe000 then .ok '\ufffd'
  else .ok (Char.ofNat code)

/-- The code of so many hexadecimal digits at the front. -/
def hexCode? (n : Nat) (s : List Char) : Option Nat :=
  let ds := s.take n
  if ds.length == n then digitsIn 16 ds else none

/-- The second half of a surrogate pair, as an escape of its own. -/
def lowSurrogate? (s : List Char) : Option Nat := do
  let code ← hexCode? 4 (← Text.literal ['\\', 'u'] s)
  if 0xdc00 ≤ code && code < 0xe000 then some code else none

/-- An escape behind its backslash. -/
def escape (c : Cursor) : Except Fault (List Char × Cursor) :=
  match c.rest with
  | [] => .error .malformed
  | ch :: rest =>
    match simpleEscapes.find? fun e => e.1 == ch, codeLength? ch with
    | some (_, text), _ => .ok ([text], c.step)
    | none, some n =>
      match hexCode? n rest with
      | none => .error .malformed
      | some code =>
        match if 0xd800 ≤ code && code < 0xdc00 then lowSurrogate? (rest.drop n) else none with
        | some second =>
          .ok ([Char.ofNat (0x10000 + (code - 0xd800) * 0x400 + (second - 0xdc00))],
            c.drop (n + 7))
        | none => do
          let text ← charOfCode code
          .ok ([text], c.drop (n + 1))
    | none, none =>
      if isBreak ch then quotedBreaks (rest.length + 1) c.skipBreak else .error .malformed

def isQuotedStop (c : Char) : Bool :=
  c == '\'' || c == '"' || c == '\\' || isSpaceOrTab c || isBreak c

/-- The rest of a scalar inside quotes, up to and with the closing quote. -/
def quotedRest (double : Bool) : Nat → Cursor → Except Fault (List Char × Cursor)
  | 0, _ => .error .malformed
  | fuel + 1, c =>
    let (run, c) := c.span (!isQuotedStop ·)
    let continueWith (text : List Char) (c : Cursor) : Except Fault (List Char × Cursor) := do
      let (more, c) ← quotedRest double fuel c
      .ok (run ++ text ++ more, c)
    match c.rest with
    | '\'' :: '\'' :: _ =>
      if double then continueWith ['\''] c.step else continueWith ['\''] (c.drop 2)
    | '\'' :: _ => if double then continueWith ['\''] c.step else .ok (run, c.step)
    | '"' :: _ => if double then .ok (run, c.step) else continueWith ['"'] c.step
    | '\\' :: _ =>
      if double then do
        let (text, c) ← escape c.step
        continueWith text c
      else continueWith ['\\'] c.step
    | _ => do
      let (text, c) ← quotedSpace c
      continueWith text c

def quotedScalar (double : Bool) (c : Cursor) : Except Fault (List Char × Cursor) :=
  quotedRest double (2 * c.rest.length + 1) c.step

/-- Where a word of a plain scalar ends. -/
def endsPlain (inFlow : Bool) (s : List Char) : Bool :=
  match s with
  | [] => true
  | c :: rest =>
    isSpaceOrTab c || isBreak c ||
    (c == ':' && (endsToken rest ||
      (inFlow && rest.head?.any fun d => ",[]\x7b\x7d".toList.contains d))) ||
    (inFlow && ",?[]\x7b\x7d".toList.contains c)

def plainWord (inFlow : Bool) : List Char → List Char
  | [] => []
  | c :: s => if endsPlain inFlow (c :: s) then [] else c :: plainWord inFlow s

/-- What stands between two words of a plain scalar. -/
structure PlainGap where
  text : List Char
  cursor : Cursor
  /-- A line ended, so that a key may start. -/
  newLine : Bool
  /-- A document marker follows, which ends the scalar. -/
  atMarker : Bool

def plainBreaks : Nat → Cursor → List Char × Cursor × Bool
  | 0, c => ([], c, false)
  | fuel + 1, c =>
    if isMarker c.rest then ([], c, true) else
    let c := c.skipWhile isSpace
    match c.lineBreak? with
    | none => ([], c, false)
    | some (b, c) =>
      let (more, c, marker) := plainBreaks fuel c
      (b :: more, c, marker)

def plainGap (c : Cursor) : PlainGap :=
  let (gap, c) := c.span isSpace
  match c.lineBreak? with
  | some (b, c) =>
    let (more, c, marker) := plainBreaks (c.rest.length + 1) c
    ⟨Fold.text ⟨some b, more⟩, c, true, marker⟩
  | none => ⟨gap, c, false, false⟩

/-- The words of a plain scalar from a cursor on, and whether a line ended behind the last. -/
def plainRest (inFlow : Bool) (indent : Int) : Nat → List Char → Cursor →
    List Char × Cursor × Bool
  | 0, _, c => ([], c, false)
  | fuel + 1, gap, c =>
    if c.peek? == some '#' then ([], c, false) else
    match plainWord inFlow c.rest with
    | [] => ([], c, false)
    | w =>
      let g := plainGap (c.drop w.length)
      let stop := g.atMarker || g.text.isEmpty || g.cursor.peek? == some '#' ||
        (!inFlow && (g.cursor.column : Int) < indent)
      if stop then (gap ++ w, g.cursor, g.newLine)
      else
        let (more, c, newLine) := plainRest inFlow indent fuel g.text g.cursor
        (gap ++ w ++ more, c, if more.isEmpty then g.newLine else newLine)

def plainScalar (inFlow : Bool) (indent : Int) (c : Cursor) : List Char × Cursor × Bool :=
  plainRest inFlow indent (c.rest.length + 1) [] c

inductive Chomping where
  | strip
  | clip
  | keep
  deriving DecidableEq, Repr

def chomping? (c : Char) : Option Chomping :=
  if c == '+' then some .keep else if c == '-' then some .strip else none

def increment? (c : Char) : Option Nat :=
  if c.isDigit then some (c.toNat - '0'.toNat) else none

/-- The header of a block: its chomping and its indentation, in either order. -/
def blockHeader (c : Cursor) : Except Fault (Chomping × Option Nat × Cursor) := do
  let (chomp, indent, c) := match c.rest with
    | a :: rest =>
      match chomping? a, increment? a with
      | some k, _ =>
        match rest.head?.bind increment? with
        | some n => (k, some n, c.drop 2)
        | none => (k, none, c.step)
      | none, some n =>
        match rest.head?.bind chomping? with
        | some k => (k, some n, c.drop 2)
        | none => (.clip, some n, c.step)
      | none, none => (.clip, none, c)
    | [] => (.clip, none, c)
  if indent == some 0 then throw .malformed
  if !endsWord c.rest then throw .malformed
  return (chomp, indent, ← c.finishLine)

/-- Blank lines in front of a block, and the widest indentation among them and the first. -/
def blockLead : Nat → Nat → Cursor → List Char × Nat × Cursor
  | 0, widest, c => ([], widest, c)
  | fuel + 1, widest, c =>
    match c.lineBreak? with
    | some (b, c) =>
      let (more, widest, c) := blockLead fuel widest c
      (b :: more, widest, c)
    | none =>
      if c.peek? == some ' ' then blockLead fuel (max widest c.step.column) c.step
      else ([], widest, c)

/-- Spaces up to a column. -/
def indentTo (column : Nat) : Nat → Cursor → Cursor
  | 0, c => c
  | fuel + 1, c =>
    if c.column < column && c.peek? == some ' ' then indentTo column fuel c.step else c

/-- Blank lines inside a block. -/
def blockBreaks (column : Nat) : Nat → Cursor → List Char × Cursor
  | 0, c => ([], c)
  | fuel + 1, c =>
    let c := indentTo column column c
    match c.lineBreak? with
    | some (b, c) =>
      let (more, c) := blockBreaks column fuel c
      (b :: more, c)
    | none => ([], c)

def keptBreak (b : Option Char) : List Char := b.toList

/-- The lines of a block, given the blank lines in front of the next one. -/
def blockLines (folded : Bool) (chomp : Chomping) (column : Nat) :
    Nat → List Char → Cursor → List Char × Cursor
  | 0, _, c => ([], c)
  | fuel + 1, breaks, c =>
    if c.column == column && !c.rest.isEmpty then
      let leads := !(c.peek?.any isSpaceOrTab)
      let (line, c) := c.span (!isBreak ·)
      let lineBreak := c.lineBreak?.map Prod.fst
      let c := c.skipBreak
      let (next, c) := blockBreaks column (c.rest.length + 1) c
      if c.column == column && !c.rest.isEmpty then
        let joint :=
          if folded && lineBreak == some '\n' && leads && !(c.peek?.any isSpaceOrTab) then
            if next.isEmpty then [' '] else []
          else keptBreak lineBreak
        let (more, c) := blockLines folded chomp column fuel next c
        (breaks ++ line ++ joint ++ more, c)
      else
        let ending := if chomp == .strip then [] else keptBreak lineBreak
        let trailing := if chomp == .keep then next else []
        (breaks ++ line ++ ending ++ trailing, c)
    else (if chomp == .keep then breaks else [], c)

/-- A block scalar behind its indicator, inside a collection indented by `indent`. -/
def blockScalar (folded : Bool) (indent : Int) (c : Cursor) :
    Except Fault (List Char × Cursor) := do
  let (chomp, increment, c) ← blockHeader c.step
  let least := max (indent + 1) 1
  match increment with
  | some n =>
    let column := (least + n - 1).toNat
    let (breaks, c) := blockBreaks column (c.rest.length + 1) c
    return blockLines folded chomp column (c.rest.length + 1) breaks c
  | none =>
    let (breaks, widest, c) := blockLead (c.rest.length + 1) 0 c
    let column := max least.toNat widest
    return blockLines folded chomp column (c.rest.length + 1) breaks c

end QuizPreflight.Yaml
