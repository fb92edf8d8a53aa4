import QuizPreflight.Archive.Content
import QuizPreflight.Decimal.Rounding
import QuizPreflight.Files.FileSystem

/-!
# Extraction

All members are examined before the first one is written: their number, the sum of their sizes,
and whether their names stay below the destination. Members are then written in the order of
the directory; what was written before a fault stays.
-/
namespace QuizPreflight.Archive

open QuizPreflight.Text

def maxMembers : Nat := 10000

def megabyte : Nat := 1024 * 1024

def maxTotalSize : Nat := 500 * megabyte

/-- Why an archive is not extracted, or not to its end. -/
inductive ExtractFault where
  | archive (f : Fault)
  | file (e : FileError)
  | tooManyMembers (count : Nat)
  | tooLarge (size : Nat)
  | unsafePath (name : List Char)

/-- A size in megabytes with one decimal; a tie goes to the even digit. -/
def megabytes (size : Nat) : String :=
  let tenths := Decimal.roundDiv (size * 10) megabyte
  s!"{tenths / 10}.{tenths % 10}"

def ExtractFault.message : ExtractFault → String
  | .archive f => f.message
  | .file e => e.message
  | .tooManyMembers count => s!"Archive contains too many files: {count}"
  | .tooLarge size => s!"Archive too large: {megabytes size} MB"
  | .unsafePath name => s!"Unsafe path in archive: {String.ofList name}"

/-- The faults by which an archive is known to be unusable; the others come up unexpectedly. -/
def ExtractFault.isExpected : ExtractFault → Bool
  | .archive f => f.isExpected
  | _ => true

/-- Where a member would land if its name were taken as a path. -/
def Member.target (m : Member) (destination : List String) : List String :=
  let p := Path.ofString (String.ofList m.name)
  Path.normalise (if p.isAbsolute then [] else destination) p.names

def Member.staysBelow (m : Member) (destination : List String) : Bool :=
  destination.isPrefixOf (m.target destination)

def totalSize (ms : List Member) : Nat := ms.foldr (fun m size => m.size + size) 0

/-- Examines members for a destination given by its names from the root on. -/
def examine (ms : List Member) (destination : List String) : Except ExtractFault Unit :=
  if maxMembers < ms.length then .error (.tooManyMembers ms.length)
  else if maxTotalSize < totalSize ms then .error (.tooLarge (totalSize ms))
  else match ms.find? (!·.staysBelow destination) with
    | some m => .error (.unsafePath m.name)
    | none => .ok ()

/-- The names under which a member is written: those that lead downwards. -/
def Member.writtenNames (m : Member) : List String :=
  (Path.namesOf m.name).filter (· != "..")

/-- A file system after some writing, and the fault that ended it. -/
structure Progress where
  files : FileSystem
  fault : Option ExtractFault

/-- The folders above a path are made, the outermost missing one first; those made before a
failure stay. -/
def makeParents (fs : FileSystem) (slashes : Nat) : List String → FileSystem × Option FileError
  | [] => (fs, none)
  | name :: above =>
    let p : Path := ⟨slashes, (name :: above).reverse⟩
    match fs.lookup p with
    | .ok _ => (fs, none)
    | .error _ =>
      match makeParents fs slashes above with
      | (fs, some e) => (fs, some e)
      | (fs, none) =>
        match fs.makeFolder p with
        | .ok fs => (fs, none)
        | .error e => (fs, some e)

def lookupFolder (fs : FileSystem) (p : Path) : Bool :=
  match fs.lookup p with
  | .ok e => e.isFolder
  | .error _ => false

/-- Writes a member below a folder. -/
def extractMember (a : Bytes) (destination : Path) (fs : FileSystem) (m : Member) : Progress :=
  let p := destination.append m.writtenNames
  match makeParents fs p.slashes p.parent.names.reverse with
  | (fs, some e) => ⟨fs, some (.file e)⟩
  | (fs, none) =>
    if m.isFolder then
      if lookupFolder fs p then ⟨fs, none⟩
      else match fs.makeFolder p with
        | .ok fs => ⟨fs, none⟩
        | .error e => ⟨fs, some (.file e)⟩
    else
      match m.stored a with
      | .error f => ⟨fs, some (.archive f)⟩
      | .ok stored =>
        let written := m.unpack stored
        match fs.write p written.bytes with
        | .error e => ⟨fs, some (.file e)⟩
        | .ok fs => ⟨fs, written.fault.map .archive⟩

/-- The last member under the name of a member. -/
def latest (ms : List Member) (m : Member) : Member :=
  (ms.reverse.find? (·.name == m.name)).getD m

/-- Writes members in order until a fault. -/
def extractEach (a : Bytes) (destination : Path) (all : List Member) (fs : FileSystem) :
    List Member → Progress
  | [] => ⟨fs, none⟩
  | m :: ms =>
    match extractMember a destination fs (latest all m) with
    | ⟨fs, none⟩ => extractEach a destination all fs ms
    | stopped => stopped

/-- Extracts an archive into a folder. -/
def extract (fs : FileSystem) (archive destination : Path) : Progress :=
  match fs.read archive with
  | .error e => ⟨fs, some (.file e)⟩
  | .ok bytes =>
    let a := bytes.toArray
    match readMembers a with
    | .error f => ⟨fs, some (.archive f)⟩
    | .ok ms =>
      let place := Path.normalise (fs.startOf destination) destination.names
      match examine ms place with
      | .error f => ⟨fs, some f⟩
      | .ok () => extractEach a destination ms fs ms

end QuizPreflight.Archive
