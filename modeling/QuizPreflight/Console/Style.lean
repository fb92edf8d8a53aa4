import QuizPreflight.Text.Character

/-!
# Names of styles

A style is named by attributes, some of which have a short name, and colours. Names that mean
the same style have one normal form; a name that means none is its own.
-/
namespace QuizPreflight.Console

open QuizPreflight.Text

/-- The attributes in their order of mention. -/
def styleAttributes : List String :=
  ["bold", "dim", "italic", "underline", "blink", "blink2", "reverse", "conceal", "strike",
   "underline2", "frame", "encircle", "overline"]

def shortAttributes : List (String × String) :=
  [("b", "bold"), ("d", "dim"), ("i", "italic"), ("u", "underline"), ("r", "reverse"),
   ("c", "conceal"), ("s", "strike"), ("uu", "underline2"), ("o", "overline")]

def attribute? (name : String) : Option String :=
  if styleAttributes.contains name then some name else shortAttributes.lookup name

def basicColours : List String :=
  ["black", "red", "green", "yellow", "blue", "magenta", "cyan", "white"]

def isHexDigit (c : Char) : Bool := c.isDigit || ('a' ≤ c && c ≤ 'f')

def isColour (name : String) : Bool :=
  name == "default" || basicColours.contains name ||
  basicColours.any (fun c => name == "bright_" ++ c) ||
  match name.toList with
  | '#' :: digits => digits.length == 6 && digits.all isHexDigit
  | _ => false

structure Style where
  attributes : List (String × Bool)
  colour : Option String
  background : Option String
  link : Option String

def Style.plain : Style := ⟨[], none, none, none⟩

/-- Takes in the words of a style, later ones counting before earlier ones. -/
def Style.ofWords? (style : Style) : List String → Option Style
  | [] => some style
  | word :: words =>
    match word, words with
    | "on", colour :: rest =>
      if isColour colour then Style.ofWords? { style with background := some colour } rest
      else none
    | "not", name :: rest =>
      match attribute? name with
      | some a => Style.ofWords? { style with attributes := (a, false) :: style.attributes } rest
      | none => none
    | "link", address :: rest => Style.ofWords? { style with link := some address } rest
    | word, rest =>
      match attribute? word with
      | some a => Style.ofWords? { style with attributes := (a, true) :: style.attributes } rest
      | none =>
        if isColour word then Style.ofWords? { style with colour := some word } rest else none

def Style.words (style : Style) : List String :=
  (styleAttributes.filterMap fun a => (style.attributes.lookup a).map fun on =>
    if on then a else "not " ++ a) ++
  style.colour.toList ++
  (style.background.map ("on " ++ ·)).toList ++
  (style.link.map ("link " ++ ·)).toList

/-- The pieces of a text between blanks. -/
def blankSeparated (s : List Char) : List (List Char) :=
  (splitOn ' ' (s.map fun c => if isBlank c then ' ' else c)).filter (!·.isEmpty)

/-- The normal form of a name. -/
def normalName (name : List Char) : String :=
  let own := String.ofList (lower (strip name))
  match Style.plain.ofWords? ((blankSeparated (lower name)).map String.ofList) with
  | none => own
  | some style => if style.words.isEmpty then "none" else " ".intercalate style.words

end QuizPreflight.Console
