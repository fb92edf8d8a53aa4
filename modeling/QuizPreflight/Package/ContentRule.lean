import QuizPreflight.Lint.Diagnostic
import QuizPreflight.Package.Registry
import QuizPreflight.Text.Match

/-!
# Content rules

Rules over the text of a stem or an option, in tables. A rule that matches gives one finding,
however often it does.
-/
namespace QuizPreflight.Package

open QuizPreflight.Text

/-- What a message names: the rule itself, an item or an option. -/
inductive Field where
  | construct
  | item
  | option
  deriving DecidableEq, Repr

def Field.name : Field → String
  | .construct => "construct"
  | .item => "item"
  | .option => "option"

inductive Piece where
  | text (s : String)
  | field (f : Field)
  deriving DecidableEq, Repr

abbrev Template := List Piece

/-- The text of a template; the error is the first field without a value. -/
def Template.fill (t : Template) (value : Field → Option String) : Except Field String :=
  match t with
  | [] => .ok ""
  | .text s :: rest => do return s ++ (← Template.fill rest value)
  | .field f :: rest =>
    match value f with
    | none => .error f
    | some s => do return s ++ (← Template.fill rest value)

structure ContentRule where
  name : String
  «matches» : List Char → Bool
  message : Template
  severity : Severity

/-- A comment, up to its first end. -/
def comment : Matcher := fun s => do
  let s ← literal "<!--".toList s
  let (_, rest) ← splitAtMatch (literal "-->".toList) s
  literal "-->".toList rest

/-- A tag holds no other angle bracket. -/
def tag : Matcher := fun s => do
  let s ← one isAsciiLetter (skip (literal ['/']) (← literal ['<'] s))
  literal ['>'] (s.dropWhile fun c => c != '<' && c != '>')

/-- A text without its comments and tags. -/
def withoutMarkup (s : List Char) : List Char := replaceAll (fun s => comment s <|> tag s) [] s

def hasEscapedAnchor (s : List Char) : Bool :=
  occurs (literal "&lt;a href=".toList) s || occurs (literal "&lt;a class=".toList) s

def hasComparison (s : List Char) : Bool :=
  (withoutMarkup s).any fun c => c == '<' || c == '>'

/-- A dollar sign where neither an escaped one nor a formula delimiter stands. -/
def hasDollarMath (s : List Char) : Bool :=
  s.contains '$' && !occurs (literal ['\\', '$']) s && !occurs (literal ['\\', '(']) s

/-- Content that may do harm, in lower case. -/
def dangerousConstructs : List String :=
  ["<script", "<iframe", "<object", "<embed", "javascript:"]

def securityRule (construct : String) : ContentRule where
  name := construct
  «matches» := occurs (word construct.toList)
  message :=
    [.text "Security Error: Potential malicious content (", .field .construct,
     .text ") detected in item ", .field .item]
  severity := .error

def securityRules : List ContentRule := dangerousConstructs.map securityRule

def stemRules : List ContentRule :=
  [⟨"escaped_anchor", hasEscapedAnchor,
    [.text "Item ", .field .item,
     .text (": Escaped HTML anchor tag detected - cross-references " ++
       "may not have been stripped properly")], .warning⟩,
   ⟨"raw_comparison_operator", hasComparison,
    [.text "Item ", .field .item,
     .text (": Unescaped comparison operator detected - may render " ++
       "incorrectly in Canvas")], .warning⟩]

def optionRules : List ContentRule :=
  [⟨"escaped_anchor", hasEscapedAnchor,
    [.text "Item ", .field .item, .text ", option ", .field .option,
     .text ": Escaped HTML anchor tag detected"], .warning⟩,
   ⟨"unconverted_math", hasDollarMath,
    [.text "Item ", .field .item, .text ", option ", .field .option,
     .text ": Dollar signs detected - LaTeX may not be converted"], .warning⟩]

def ContentRule.finding (r : ContentRule) (message : String) : Finding :=
  if r.severity = .error then .error message else .warning message

/-- What a message about one text names; the construct is the name of the rule. -/
def ContentRule.fill (r : ContentRule) (value : Field → Option String) : Except Field String :=
  r.message.fill fun f => if f = .construct then some r.name else value f

/-- The findings of the rules that match, each with the name of its rule. -/
def applyRules (rules : List ContentRule) (s : List Char) (value : Field → Option String) :
    Except Field (List (String × Finding)) :=
  (rules.filter (·.matches s)).mapM fun r => do return (r.name, r.finding (← r.fill value))

/-- The findings on the text of an item, or of one of its options. -/
def contentFindings (rules : List ContentRule) (text item option : String) : List Finding :=
  let value : Field → Option String
    | .construct => none
    | .item => some item
    | .option => some option
  match applyRules rules text.toList value with
  | .ok found => found.map Prod.snd
  | .error _ => []

end QuizPreflight.Package
