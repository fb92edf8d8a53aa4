/-!
# Files and folders

A folder holds entries under names that differ; an entry is a file or a folder.
-/
namespace QuizPreflight

inductive Entry where
  | file (content : List UInt8)
  | folder (entries : List (String × Entry))

namespace Entry

def isFolder : Entry → Bool
  | file _ => false
  | folder _ => true

/-- The entry that names lead to. -/
def get? : Entry → List String → Option Entry
  | e, [] => some e
  | file _, _ :: _ => none
  | folder entries, name :: names =>
    match entries.lookup name with
    | none => none
    | some e => e.get? names

/-- Puts an entry under a name, where the old one stood or at the end. -/
def put (name : String) (e : Entry) : List (String × Entry) → List (String × Entry)
  | [] => [(name, e)]
  | (n, old) :: rest => if n = name then (name, e) :: rest else (n, old) :: put name e rest

def erase (name : String) (entries : List (String × Entry)) : List (String × Entry) :=
  entries.filter (·.1 != name)

/-- Changes the entries of the folder that names lead to. -/
def modify (e : Entry) (f : List (String × Entry) → List (String × Entry)) :
    List String → Entry
  | [] =>
    match e with
    | file content => file content
    | folder entries => folder (f entries)
  | name :: names =>
    match e with
    | file content => file content
    | folder entries =>
      match entries.lookup name with
      | none => folder entries
      | some child => folder (put name (child.modify f names) entries)

mutual

/-- Every entry below one, with the names that lead to it. -/
def listing (place : List String) : Entry → List (List String × Entry)
  | file _ => []
  | folder entries => listings place entries

def listings (place : List String) : List (String × Entry) → List (List String × Entry)
  | [] => []
  | (name, e) :: rest => (place ++ [name], e) :: listing (place ++ [name]) e ++ listings place rest

end

end Entry

end QuizPreflight
