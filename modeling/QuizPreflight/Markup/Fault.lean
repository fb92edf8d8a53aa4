import QuizPreflight.Markup.Name

/-!
# Faults of a document

A fault has a cause and a place. While a document is read the place is the text that is left
from it on; the reader turns that into a line and a column.
-/
namespace QuizPreflight.Markup

inductive Cause where
  | invalidToken
  | unclosedToken
  | noElement
  | mismatchedTag
  | duplicateAttribute
  | trailingJunk
  | undefinedEntity
  /-- Left undefined although declarations outside the document might define it. -/
  | skippedEntity (name : List Char)
  | parameterReference
  | invalidCharacterNumber
  | unclosedSection
  | misplacedDeclaration
  | malformedDeclaration
  | unboundPrefix
  | undeclaredPrefix
  | publicIdentifier
  | reservedXml
  | reservedXmlns
  | reservedNamespace
  | grammar
  deriving DecidableEq, Repr

def Cause.text : Cause → String
  | .invalidToken => "not well-formed (invalid token)"
  | .unclosedToken => "unclosed token"
  | .noElement => "no element found"
  | .mismatchedTag => "mismatched tag"
  | .duplicateAttribute => "duplicate attribute"
  | .trailingJunk => "junk after document element"
  | .undefinedEntity => "undefined entity"
  | .skippedEntity name => s!"undefined entity &{String.ofList name};"
  | .parameterReference => "illegal parameter entity reference"
  | .invalidCharacterNumber => "reference to invalid character number"
  | .unclosedSection => "unclosed CDATA section"
  | .misplacedDeclaration => "XML or text declaration not at start of entity"
  | .malformedDeclaration => "XML declaration not well-formed"
  | .unboundPrefix => "unbound prefix"
  | .undeclaredPrefix => "must not undeclare prefix"
  | .publicIdentifier => "illegal character(s) in public id"
  | .reservedXml =>
    "reserved prefix (xml) must not be undeclared or bound to another namespace name"
  | .reservedXmlns => "reserved prefix (xmlns) must not be declared or undeclared"
  | .reservedNamespace => "prefix must not be bound to one of the reserved namespace names"
  | .grammar => "syntax error"

/-- Why a document is refused: a cause at a place, or a declared entity. -/
inductive Fault where
  | at (cause : Cause) (rest : List Char)
  | entityDeclared

/-- A place in a text: lines count from one, columns from zero. -/
structure Position where
  line : Nat
  column : Nat
  deriving DecidableEq, Repr

/-- The place after a text that itself starts at a place. -/
def Position.after : Position → List Char → Position
  | p, [] => p
  | p, '\r' :: '\n' :: s => Position.after ⟨p.line + 1, 0⟩ s
  | p, c :: s =>
    Position.after (if c = '\n' ∨ c = '\r' then ⟨p.line + 1, 0⟩ else ⟨p.line, p.column + 1⟩) s

/-- The place in a text from which on the rest is left. -/
def Position.before (text rest : List Char) : Position :=
  Position.after ⟨1, 0⟩ (text.take (text.length - rest.length))

/-- Why reading a document failed. -/
inductive ReadError where
  | malformed (cause : Cause) (position : Position)
  | entitiesForbidden
  deriving DecidableEq, Repr

def ReadError.message : ReadError → String
  | .malformed cause p => s!"{cause.text}: line {p.line}, column {p.column}"
  | .entitiesForbidden => "forbidden XML construct (EntitiesForbidden)"

def Fault.locate (text : List Char) : Fault → ReadError
  | .at cause rest => .malformed cause (Position.before text rest)
  | .entityDeclared => .entitiesForbidden

end QuizPreflight.Markup
