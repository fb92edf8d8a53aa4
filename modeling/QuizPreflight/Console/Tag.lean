import QuizPreflight.Console.Style

/-!
# Tagged text

Tags in brackets set the style of a text and are not shown. A tag that closes has to name an
open one or, naming none, close the latest. A backslash in front of a tag makes it text, and
`escape` puts one there. A name between colons stands for a picture; names that are not known are
left as they are.
-/
namespace QuizPreflight.Console

open QuizPreflight.Text

def emojiCodes : List (String × List Nat) :=
  [("smile", [0x1f604])]

/-- The characters of a name, at the end of which it may be said how to show the picture. -/
def emoji? (name : List Char) : Option (List Char) :=
  let name := String.ofList (lower name)
  (emojiCodes.lookup name).map (·.map Char.ofNat)

/-- Replaces names from left to right. -/
def replaceEmojiFrom : Nat → List Char → List Char
  | 0, s => s
  | _ + 1, [] => []
  | fuel + 1, ':' :: s =>
    let isNamePart (c : Char) : Bool := c != ':' && !isBlank c
    match s.dropWhile isNamePart with
    | ':' :: rest =>
      let name := s.takeWhile isNamePart
      (emoji? name).getD (':' :: name ++ [':']) ++ replaceEmojiFrom fuel rest
    | _ => ':' :: replaceEmojiFrom fuel s
  | fuel + 1, c :: s => c :: replaceEmojiFrom fuel s

def replaceEmoji (s : List Char) : List Char := replaceEmojiFrom s.length s

def isTagStart (c : Char) : Bool := ('a' ≤ c && c ≤ 'z') || c == '#' || c == '/' || c == '@'

/-- The tag that an opening bracket begins: what is between the brackets, and what follows. -/
def tagAt? : List Char → Option (List Char × List Char)
  | '[' :: c :: s =>
    let isInside (c : Char) : Bool := c != '[' && c != ']'
    match isTagStart c, s.dropWhile isInside with
    | true, ']' :: rest => some (c :: s.takeWhile isInside, rest)
    | _, _ => none
  | _ => none

/-- A tag, the text before it, the number of backslashes in front of it, and what follows. -/
structure TagPlace where
  before : List Char
  slashes : Nat
  body : List Char
  after : List Char

def isSlash (c : Char) : Bool := c == '\\'

def firstTag? : List Char → Option TagPlace
  | [] => none
  | c :: s =>
    match tagAt? ((c :: s).dropWhile isSlash) with
    | some (body, after) => some ⟨[], ((c :: s).takeWhile isSlash).length, body, after⟩
    | none => (firstTag? s).map fun p => { p with before := c :: p.before }

/-- Puts a backslash in front of every tag, doubling those that stand there. -/
def escapeTags : Nat → List Char → List Char
  | 0, s => s
  | fuel + 1, s =>
    match firstTag? s with
    | none => s
    | some p =>
      p.before ++ List.replicate (2 * p.slashes + 1) '\\' ++ '[' :: p.body ++
        ']' :: escapeTags fuel p.after

/-- The text as it has to be written to be shown. A single backslash at the end is doubled. -/
def escape (s : String) : String :=
  let escaped := escapeTags s.toList.length s.toList
  String.ofList (match escaped.reverse with
    | '\\' :: '\\' :: _ => escaped
    | '\\' :: _ => escaped ++ ['\\']
    | _ => escaped)

inductive TagFault where
  | unmatched (body : List Char) (position : Nat)
  | nothingOpen (position : Nat)
  deriving DecidableEq, Repr

def TagFault.message : TagFault → String
  | .unmatched body position =>
    s!"closing tag '[{String.ofList body}]' at position {position} doesn't match any open tag"
  | .nothingOpen position => s!"closing tag '[/]' at position {position} has nothing to close"

/-- Characters that only move the cursor are not shown. -/
def isControl (c : Char) : Bool := [7, 8, 11, 12, 13].contains c.toNat

/-- A backslash in front of a bracket that begins no tag is not shown either. -/
def unescapeBrackets : List Char → List Char
  | [] => []
  | '\\' :: '[' :: s => '[' :: unescapeBrackets s
  | c :: s => c :: unescapeBrackets s

def shownText (s : List Char) : List Char :=
  (replaceEmoji (unescapeBrackets s)).filter (!isControl ·)

/-- The tags left open by a tag at a position; the latest comes first. -/
def applyTag (opened : List String) (body : List Char) (position : Nat) :
    Except TagFault (List String) :=
  match body.takeWhile (· != '=') with
  | '/' :: name =>
    if allBlank name then
      match opened with
      | [] => .error (.nothingOpen position)
      | _ :: rest => .ok rest
    else
      let name := normalName (strip name)
      if opened.contains name then .ok (opened.erase name) else .error (.unmatched body position)
  | name => .ok (normalName name :: opened)

/-- The text that is shown of a tagged text from a position on. -/
def shownFrom : Nat → Nat → List String → List Char → Except TagFault (List Char)
  | 0, _, _, s => .ok (shownText s)
  | fuel + 1, position, opened, s =>
    match firstTag? s with
    | none => .ok (shownText s)
    | some p => do
      let tagStart := position + p.before.length + p.slashes / 2 * 2
      let next := position + p.before.length + p.slashes + p.body.length + 2
      let front := shownText p.before ++ List.replicate (p.slashes / 2) '\\'
      if p.slashes % 2 = 1 then
        return front ++ shownText ('[' :: p.body ++ [']']) ++
          (← shownFrom fuel next opened p.after)
      else
        let opened ← applyTag opened p.body tagStart
        return front ++ (← shownFrom fuel next opened p.after)

/-- The text that is shown of a tagged text. -/
def shown (s : String) : Except TagFault (List Char) := shownFrom s.toList.length 0 [] s.toList

end QuizPreflight.Console
