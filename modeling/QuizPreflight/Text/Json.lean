import QuizPreflight.Text.Quoted

/-!
# JSON texts

Values written over several lines, each level indented by two blanks. Only what has to be is
escaped in strings.
-/
namespace QuizPreflight

open QuizPreflight.Text

inductive Json where
  | bool (b : Bool)
  | number (n : Int)
  | text (s : String)
  | list (items : List Json)
  /-- The fields are written in their order. -/
  | object (fields : List (String × Json))

namespace Json

def escapeChar (c : Char) : List Char :=
  if c == '"' || c == '\\' then ['\\', c]
  else if c == '\n' then ['\\', 'n']
  else if c == '\r' then ['\\', 'r']
  else if c == '\t' then ['\\', 't']
  else if c.toNat = 8 then ['\\', 'b']
  else if c.toNat = 12 then ['\\', 'f']
  else if c.toNat < 0x20 then '\\' :: 'u' :: hexDigits 4 c.toNat
  else [c]

def writeText (s : String) : List Char := '"' :: (s.toList.flatMap escapeChar ++ ['"'])

def indentSize : Nat := 2

def newLine (level : Nat) : List Char := '\n' :: List.replicate (level * indentSize) ' '

/-- Items between brackets, each on a line of its own. -/
def bracketed (level : Nat) (opening closing : Char) (items : List (List Char)) : List Char :=
  if items.isEmpty then [opening, closing]
  else
    opening :: (joinWith [','] (items.map (newLine (level + 1) ++ ·)) ++ newLine level ++ [closing])

mutual

def write (level : Nat) : Json → List Char
  | bool b => (if b then "true" else "false").toList
  | number n => (toString n).toList
  | text s => writeText s
  | list items => bracketed level '[' ']' (writeItems (level + 1) items)
  | object fields => bracketed level '\x7b' '\x7d' (writeFields (level + 1) fields)

def writeItems (level : Nat) : List Json → List (List Char)
  | [] => []
  | j :: js => write level j :: writeItems level js

def writeFields (level : Nat) : List (String × Json) → List (List Char)
  | [] => []
  | (name, j) :: fields =>
    (writeText name ++ ':' :: ' ' :: write level j) :: writeFields level fields

end

def toText (j : Json) : String := String.ofList (j.write 0)

end Json

end QuizPreflight
