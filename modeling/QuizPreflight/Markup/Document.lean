import QuizPreflight.Markup.Content
import QuizPreflight.Markup.Doctype
import QuizPreflight.Markup.Encoding

/-!
# Documents

A document is a root element with declarations before it and comments and instructions around
it. Marks of byte order and white space in front of it are skipped.
-/
namespace QuizPreflight.Markup

/-- Reads up to the root element, whose text is returned; each token takes one unit of fuel at
most. -/
def readProlog : Nat → Stage → Declarations → List Char → Except Fault (Declarations × List Char)
  | 0, _, _, s => .error (.at .noElement s)
  | fuel + 1, stage, d, s =>
    if s.isEmpty then .error (.at .noElement s)
    else match scanOuter s with
      | .error e => .error (e.fault s)
      | .ok (token, rest) =>
        if token = .root && stage.admitsRoot then .ok (d, s)
        else match stage.step ⟨token, s⟩ d with
          | .error f => .error f
          | .ok (stage', d') => readProlog fuel stage' d' rest

/-- Reads what stands after the root element. -/
def readEpilog : Nat → List Char → Except Fault Unit
  | 0, _ => .ok ()
  | fuel + 1, s =>
    if s.isEmpty then .ok ()
    else match scanOuter s with
      | .error e => .error (e.fault s)
      | .ok (.space, rest) | .ok (.comment, rest) | .ok (.instruction .other, rest) =>
        readEpilog fuel rest
      | .ok _ => .error (.at .trailingJunk s)

def readDocument (s : List Char) : Except Fault Element := do
  let (d, s) ← readProlog s.length .start Declarations.none s
  let (root, s) ← readRoot d s
  readEpilog s.length s
  return root

def isLeading (c : Char) : Bool := c == '\ufeff' || isSpace c

/-- Reads a document whose last character may be incomplete. -/
def Source.read (source : Source) : Except Fault Element :=
  match readDocument source.chars with
  | .ok root => if source.isCut then .error (.at .unclosedToken []) else .ok root
  | .error (.at .noElement rest) =>
    .error (.at (if source.isCut then .unclosedToken else .noElement) rest)
  | .error f => .error f

/-- The tree of a document. -/
def parse (text : String) : Except ReadError Element :=
  let source := sourceOf (text.toList.dropWhile isLeading)
  source.read.mapError (Fault.locate source.chars)

end QuizPreflight.Markup
