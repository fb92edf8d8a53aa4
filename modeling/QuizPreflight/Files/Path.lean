import QuizPreflight.Text.Character

/-!
# Paths

A path is a list of names, below the root or below the current folder. Empty names and single
dots are dropped when a path is read; double dots stay.
-/
namespace QuizPreflight

structure Path where
  /-- The slashes in front: none of a relative path, one or exactly two of an absolute one. -/
  slashes : Nat
  names : List String
  deriving DecidableEq, Repr

namespace Path

open QuizPreflight.Text

/-- The names that slashes separate in a text. -/
def namesOf (s : List Char) : List String :=
  ((splitOn '/' s).filter fun n => !n.isEmpty && n != ['.']).map String.ofList

def slashesOf (s : List Char) : Nat :=
  let n := (s.takeWhile (· == '/')).length
  if n = 2 then 2 else min n 1

def ofString (s : String) : Path := ⟨slashesOf s.toList, namesOf s.toList⟩

def isAbsolute (p : Path) : Bool := p.slashes != 0

def toString (p : Path) : String :=
  if p.slashes = 0 && p.names.isEmpty then "."
  else String.ofList (List.replicate p.slashes '/') ++ "/".intercalate p.names

/-- The last name; a path without names has none. -/
def name (p : Path) : String := p.names.getLast?.getD ""

def parent (p : Path) : Path := { p with names := p.names.dropLast }

def append (p : Path) (names : List String) : Path := { p with names := p.names ++ names }

/-- The path seen from a folder, unless it is absolute. -/
def within (p folder : Path) : Path := if p.isAbsolute then p else folder.append p.names

/-- The last dot of a name and what follows it; the dot stands neither first nor last. -/
def suffixOf (name : List Char) : List Char :=
  let after := (name.reverse.takeWhile (· != '.')).reverse
  if after.isEmpty || name.length ≤ after.length + 1 then [] else '.' :: after

def suffix (p : Path) : String := String.ofList (suffixOf p.name.toList)

/-- A first name that begins with a tilde stands for a home folder. -/
def isHomed (p : Path) : Bool := !p.isAbsolute && (p.names.head?.any (·.startsWith "~"))

/-- A home folder without slashes at its end. -/
def trimHome (home : String) : String :=
  let home := String.ofList (home.toList.reverse.dropWhile (· == '/')).reverse
  if home.isEmpty then "/" else home

/-- Puts a home folder in the place of a first name that begins with a tilde, if there is one for
that name. A home folder may not begin with a tilde itself. -/
def expandHome (p : Path) (homeOf? : String → Option String) : Option Path :=
  match p.isHomed, p.names with
  | true, name :: names =>
    match homeOf? name with
    | none => none
    | some h => if h.startsWith "~" then none else some ((ofString h).append names)
  | _, _ => some p

/-- The names of the folder that a chain of names leads to, double dots going back. -/
def normalise (start : List String) (names : List String) : List String :=
  names.foldl (fun place n => if n = ".." then place.dropLast else place ++ [n]) start

end Path

end QuizPreflight
