import QuizPreflight.Command.Grammar
import QuizPreflight.Text.Character

/-!
# Usage and help texts

The usage names all options and the operand; the help adds what they mean. Both keep to the
width of the terminal, less a margin of two columns.
-/
namespace QuizPreflight.Command

open QuizPreflight.Text

/-- Whether a text goes on with two letters. -/
def beginsWithLetters : List Char → Bool
  | c :: d :: _ => c.isAlpha && d.isAlpha
  | _ => false

/-- The parts of a word, which may be broken after a hyphen between letters. The letters read so
far are given from the last one on. -/
def wordParts (before : List Char) : List Char → List (List Char)
  | [] => [before.reverse]
  | c :: s =>
    if c == '-' && beginsWithLetters before && beginsWithLetters s then
      (c :: before).reverse :: wordParts [] s
    else wordParts (c :: before) s

/-- The parts of words, and the single blanks between words. -/
def chunksOf (s : List Char) : List (List Char) :=
  (((splitOn ' ' s).filter (!·.isEmpty)).flatMap fun word => [' '] :: wordParts [] word).drop 1

/-- The chunks that fit on a line, and the others. -/
def takeFitting (room : Nat) : List (List Char) → List (List Char) × List (List Char)
  | [] => ([], [])
  | chunk :: rest =>
    if chunk.length ≤ room then
      let (line, others) := takeFitting (room - chunk.length) rest
      (chunk :: line, others)
    else ([], chunk :: rest)

/-- A chunk that is too long for any line is cut where the line ends. -/
def cutLong (limit : Nat) (line : List (List Char)) :
    List (List Char) → List (List Char) × List (List Char)
  | [] => (line, [])
  | chunk :: rest =>
    if limit < chunk.length then
      let room := limit - line.flatten.length
      (line ++ [chunk.take room], chunk.drop room :: rest)
    else (line, chunk :: rest)

def isBlankChunk (chunk : Option (List Char)) : Bool := chunk.any allBlank

def fillLines (limit : Nat) : Nat → Bool → List (List Char) → List (List Char)
  | 0, _, _ => []
  | _ + 1, _, [] => []
  | fuel + 1, isFirst, chunks =>
    let chunks := if !isFirst && isBlankChunk chunks.head? then chunks.drop 1 else chunks
    let (line, rest) := takeFitting limit chunks
    let (line, rest) := cutLong limit line rest
    let line := if isBlankChunk line.getLast? then line.dropLast else line
    if line.isEmpty then fillLines limit fuel isFirst rest
    else line.flatten :: fillLines limit fuel false rest

/-- The lines of a paragraph. -/
def fill (limit : Nat) (s : String) : List (List Char) :=
  fillLines limit (2 * s.length + 2) true (chunksOf s.toList)

def indent (n : Nat) : List Char := List.replicate n ' '

/-- Parts put on lines, the first of them on a line that is begun, if there is one. -/
def wrapParts (limit : Int) (margin : Nat) (begun : List (List Char))
    (parts : List (List Char)) : List (List Char) :=
  let step (lines : List (List Char)) (part : List Char) : List (List Char) :=
    match lines with
    | [] => [indent margin ++ part]
    | line :: finished =>
      if limit < line.length + 1 + part.length then (indent margin ++ part) :: line :: finished
      else (line ++ ' ' :: part) :: finished
  (parts.foldl step begun).reverse

def usageStart : List Char := "usage: ".toList

namespace CommandOption

def usagePart (o : CommandOption) : List Char :=
  ("[" ++ o.withValue (o.names.head?.getD "") ++ "]").toList

def invocation (o : CommandOption) : String := ", ".intercalate (o.names.map o.withValue)

end CommandOption

namespace Operand

def invocation : Operand → String
  | value name _ => name
  | command _ choices => "\x7b" ++ ",".intercalate (choices.map Prod.fst) ++ "\x7d"

def usageParts (o : Operand) : List (List Char) :=
  match o with
  | value _ _ => [o.invocation.toList]
  | command _ _ => [o.invocation.toList, "...".toList]

end Operand

namespace Grammar

def optionParts (g : Grammar) : List (List Char) := g.options.map CommandOption.usagePart

def operandParts (g : Grammar) : List (List Char) := (g.operand.map Operand.usageParts).getD []

/-- The lines of a usage that does not fit on one. -/
def usageLines (g : Grammar) (limit : Int) : List (List Char) :=
  let start := usageStart ++ g.program.toList
  if 4 * (start.length : Int) ≤ 3 * limit then
    let margin := start.length + 1
    wrapParts limit margin [start] g.optionParts ++ wrapParts limit margin [] g.operandParts
  else
    let margin := usageStart.length
    let lines := wrapParts limit margin [] (g.optionParts ++ g.operandParts)
    start :: (if lines.length ≤ 1 then lines
      else wrapParts limit margin [] g.optionParts ++ wrapParts limit margin [] g.operandParts)

/-- The usage of a grammar, without a line end. -/
def usageText (g : Grammar) (limit : Int) : List Char :=
  let short := joinWith [' '] ((usageStart ++ g.program.toList) :: (g.optionParts ++ g.operandParts))
  if (short.length : Int) ≤ limit then short else joinLines (g.usageLines limit)

/-- An entry of a help text: its indentation, its name and what it means. -/
structure Entry where
  depth : Nat
  name : String
  description : String

def operandEntries (g : Grammar) : List Entry :=
  match g.operand with
  | none => []
  | some (.value name description) => [⟨2, name, description⟩]
  | some (.command name choices) =>
    ⟨2, (Operand.command name choices).invocation, ""⟩ ::
      choices.map fun (name, description) => ⟨4, name, description⟩

def optionEntries (g : Grammar) : List Entry :=
  g.options.map fun o => ⟨2, o.invocation, o.description⟩

end Grammar

def minTextWidth : Nat := 11

/-- The lines of an entry whose description begins at a column. -/
def Grammar.Entry.lines (e : Grammar.Entry) (column : Nat) (limit : Int) : List (List Char) :=
  let heading := indent e.depth ++ e.name.toList
  if e.description.isEmpty then [heading]
  else
    let room := max (limit - column).toNat minTextWidth
    let described := fill room e.description
    if ((heading.length : Nat) : Int) ≤ (column : Int) - 2 then
      match described with
      | [] => [heading]
      | line :: rest =>
        (heading ++ indent (column - heading.length) ++ line) :: rest.map (indent column ++ ·)
    else heading :: described.map (indent column ++ ·)

/-- The column at which descriptions begin: right of all names, but not too far right. -/
def Grammar.column (g : Grammar) (limit : Int) : Nat :=
  let names := (g.operandEntries ++ g.optionEntries).map fun e => e.name.length + 2
  min (names.foldl max 0 + 2) (min 24 (max (limit - 20).toNat 4))

def section? (title : String) (lines : List (List Char)) : Option (List Char) :=
  if lines.isEmpty then none else some (joinLines (title.toList :: lines))

/-- A paragraph that is as wide as the limit allows. -/
def paragraph (limit : Int) (s : String) : List Char :=
  joinLines (fill (max limit.toNat minTextWidth) s)

/-- The help of a grammar, without a line end. -/
def Grammar.helpText (g : Grammar) (limit : Int) : List Char :=
  let column := g.column limit
  let describe (entries : List Grammar.Entry) : List (List Char) :=
    entries.flatMap fun e => e.lines column limit
  joinWith ['\n', '\n']
    (g.usageText limit ::
      ((g.description.map (paragraph limit)).toList ++
      (section? "positional arguments:" (describe g.operandEntries)).toList ++
      (section? "options:" (describe g.optionEntries)).toList))

end QuizPreflight.Command
