import QuizPreflight.Files.Entry
import QuizPreflight.Files.Path
import QuizPreflight.Text.Quoted
import QuizPreflight.Text.Utf8

/-!
# A file system

Folders and files below one root, with a current folder and one for temporary use. Looking a
path up goes through its folders name by name, and double dots go back to the folder above.
-/
namespace QuizPreflight

inductive Problem where
  | notFound
  | exists
  | notFolder
  | isFolder
  | nameTooLong
  deriving DecidableEq, Repr

def Problem.number : Problem → Nat
  | .notFound => 2
  | .exists => 17
  | .notFolder => 20
  | .isFolder => 21
  | .nameTooLong => 36

def Problem.text : Problem → String
  | .notFound => "No such file or directory"
  | .exists => "File exists"
  | .notFolder => "Not a directory"
  | .isFolder => "Is a directory"
  | .nameTooLong => "File name too long"

structure FileError where
  problem : Problem
  path : Path
  deriving DecidableEq, Repr

def FileError.message (e : FileError) : String :=
  s!"[Errno {e.problem.number}] {e.problem.text}: {Text.quote e.path.toString}"

structure FileSystem where
  root : Entry
  current : List String
  temporary : Path

namespace FileSystem

def maxNameBytes : Nat := 255

def maxPathBytes : Nat := 4095

/-- The names from the root on at which a path starts. -/
def startOf (fs : FileSystem) (p : Path) : List String :=
  if p.isAbsolute then [] else fs.current

/-- A place below a folder, where a name need not exist yet. -/
def enter (fs : FileSystem) (place : List String) (name : String) :
    Except Problem (List String) :=
  match fs.root.get? place with
  | some (.folder _) =>
    if name = ".." then .ok place.dropLast
    else if maxNameBytes < name.utf8ByteSize then .error .nameTooLong
    else .ok (place ++ [name])
  | some (.file _) => .error .notFolder
  | none => .error .notFound

def enterAll (fs : FileSystem) (place : List String) (names : List String) :
    Except Problem (List String) :=
  names.foldlM fs.enter place

/-- Where a path leads; only its last name need not exist. A path with a zero character leads
nowhere. -/
def locate (fs : FileSystem) (p : Path) : Except Problem (List String) :=
  if p.toString.toList.contains '\x00' then .error .notFound
  else if maxPathBytes < p.toString.utf8ByteSize then .error .nameTooLong
  else fs.enterAll (fs.startOf p) p.names

def lookup (fs : FileSystem) (p : Path) : Except Problem Entry := do
  match fs.root.get? (← fs.locate p) with
  | some e => return e
  | none => .error .notFound

/-- Whether an entry satisfies a test. A path that leads nowhere has none; one that is too long
is an error. -/
def test (fs : FileSystem) (holds : Entry → Bool) (p : Path) : Except FileError Bool :=
  match fs.lookup p with
  | .ok e => .ok (holds e)
  | .error .nameTooLong => .error ⟨.nameTooLong, p⟩
  | .error _ => .ok false

def exists? (fs : FileSystem) (p : Path) : Except FileError Bool := fs.test (fun _ => true) p

def isFolder? (fs : FileSystem) (p : Path) : Except FileError Bool := fs.test Entry.isFolder p

def isFile? (fs : FileSystem) (p : Path) : Except FileError Bool := fs.test (!·.isFolder) p

def read (fs : FileSystem) (p : Path) : Except FileError (List UInt8) :=
  match fs.lookup p with
  | .ok (.file content) => .ok content
  | .ok (.folder _) => .error ⟨.isFolder, p⟩
  | .error problem => .error ⟨problem, p⟩

/-- The entries of the folder at a place change. -/
def modify (fs : FileSystem) (place : List String)
    (f : List (String × Entry) → List (String × Entry)) : FileSystem :=
  { fs with root := fs.root.modify f place }

/-- Puts an entry at a place other than the root. -/
def put (fs : FileSystem) (place : List String) (e : Entry) : FileSystem :=
  match place.getLast? with
  | none => fs
  | some name => fs.modify place.dropLast (Entry.put name e)

def erase (fs : FileSystem) (place : List String) : FileSystem :=
  match place.getLast? with
  | none => fs
  | some name => fs.modify place.dropLast (Entry.erase name)

/-- Makes a folder in an existing one. -/
def makeFolder (fs : FileSystem) (p : Path) : Except FileError FileSystem :=
  match fs.locate p with
  | .error problem => .error ⟨problem, p⟩
  | .ok place =>
    if (fs.root.get? place).isSome then .error ⟨.exists, p⟩
    else .ok (fs.put place (.folder []))

/-- Makes a folder unless there is one. -/
def ensureFolder (fs : FileSystem) (p : Path) : Except FileError FileSystem :=
  match fs.makeFolder p with
  | .ok fs => .ok fs
  | .error e => do
    if ← fs.isFolder? p then return fs else .error e

/-- Makes a folder with those above it, unless they exist; the names count from the last. -/
def ensureAll (fs : FileSystem) (slashes : Nat) : List String → Except FileError FileSystem
  | [] => fs.ensureFolder ⟨slashes, []⟩
  | name :: above =>
    let p : Path := ⟨slashes, (name :: above).reverse⟩
    match fs.makeFolder p with
    | .ok fs => .ok fs
    | .error ⟨.notFound, _⟩ => do (← fs.ensureAll slashes above).ensureFolder p
    | .error e => do
      if ← fs.isFolder? p then return fs else .error e

def ensureFolders (fs : FileSystem) (p : Path) : Except FileError FileSystem :=
  fs.ensureAll p.slashes p.names.reverse

/-- Writes a file anew. -/
def write (fs : FileSystem) (p : Path) (content : List UInt8) : Except FileError FileSystem :=
  match fs.locate p with
  | .error problem => .error ⟨problem, p⟩
  | .ok place =>
    match fs.root.get? place with
    | some (.folder _) => .error ⟨.isFolder, p⟩
    | _ => .ok (fs.put place (.file content))

/-- The names in a folder; none where there is no folder. -/
def namesIn (fs : FileSystem) (p : Path) : List String :=
  match fs.lookup p with
  | .ok (.folder entries) => entries.map Prod.fst
  | _ => []

/-- Looks at what is at some paths, which fails where a path is too long. -/
def lookAtAll (fs : FileSystem) : List Path → Except FileError Unit
  | [] => .ok ()
  | p :: ps => do
    let _ ← fs.isFile? p
    fs.lookAtAll ps

/-- The files right in a folder whose names have an ending, sorted by name. Every entry of such a
name is looked at. -/
def filesEnding (fs : FileSystem) (folder : Path) (ending : String) :
    Except FileError (List Path) :=
  match fs.lookup folder with
  | .ok (.folder entries) => do
    fs.lookAtAll ((entries.filter (·.1.endsWith ending)).map fun e => folder.append [e.1])
    let names := (entries.filter fun e => e.1.endsWith ending && !e.2.isFolder).map Prod.fst
    return (names.mergeSort fun a b => a ≤ b).map fun n => folder.append [n]
  | .error .nameTooLong => .error ⟨.nameTooLong, folder⟩
  | _ => .ok []

/-- Removes what is at a path. -/
def remove (fs : FileSystem) (p : Path) : FileSystem :=
  match fs.locate p with
  | .ok place => fs.erase place
  | .error _ => fs

/-- A path below a folder that is not taken; its name begins in a given way. -/
def freshPath (fs : FileSystem) (folder : Path) (beginning : String) : Path :=
  let candidate (n : Nat) : Path := (Path.ofString (beginning ++ toString n)).within folder
  let taken := fs.namesIn (candidate 0).parent
  (((List.range (taken.length + 1)).map candidate).find? fun p =>
    !taken.contains p.name).getD (candidate 0)

end FileSystem

/-- The text of a file cannot be had. -/
inductive TextError where
  | file (e : FileError)
  | encoding (f : Text.Utf8.Fault)

def TextError.message : TextError → String
  | .file e => e.message
  | .encoding f => f.message

/-- The text of a file, every line ending being one newline. -/
def FileSystem.readText (fs : FileSystem) (p : Path) : Except TextError String :=
  match fs.read p with
  | .error e => .error (.file e)
  | .ok bytes =>
    match Text.Utf8.decode bytes with
    | .error f => .error (.encoding f)
    | .ok s => .ok (String.ofList (Text.normaliseNewlines s))

/-- What the system refuses to do for a path, with what it says of it: to look at what is there, to
read it, or to make a folder of it. What may be read may be looked at. -/
structure Access where
  look : Path → Option String
  read : Path → Option String
  make : Path → Option String
  look_of_read : ∀ {p : Path}, read p = none → look p = none

/-- Nothing is refused. -/
def Access.full : Access := ⟨fun _ => none, fun _ => none, fun _ => none, fun _ => rfl⟩

end QuizPreflight
