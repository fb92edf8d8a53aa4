import QuizPreflight.Files.FileSystem
import QuizPreflight.Markup.Document
import QuizPreflight.Package.Pattern
import QuizPreflight.Package.Registry
import QuizPreflight.Text.Utf8

/-!
# Checks on a package

A check makes findings and may look at the files of the package. It stops where the file system
fails; what was found until then stays.
-/
namespace QuizPreflight.Package

open QuizPreflight.Text

/-- The findings of a check with its result. -/
structure Check (α : Type) where
  findings : List Finding
  result : Except FileError α

namespace Check

def done {α : Type} (a : α) : Check α := ⟨[], .ok a⟩

def andThen {α β : Type} (c : Check α) (f : α → Check β) : Check β :=
  match c.result with
  | .error e => ⟨c.findings, .error e⟩
  | .ok a => ⟨c.findings ++ (f a).findings, (f a).result⟩

instance : Monad Check where
  pure := done
  bind := andThen

/-- Makes findings. -/
def report (fs : List Finding) : Check Unit := ⟨fs, .ok ()⟩

/-- Looks at the file system. -/
def look {α : Type} (r : Except FileError α) : Check α := ⟨[], r⟩

/-- Runs a check on each of a list, in order. -/
def each {α : Type} (f : α → Check Unit) : List α → Check Unit
  | [] => done ()
  | a :: as => do
    f a
    each f as

/-- Those of a list that satisfy a test, in order. -/
def filter {α : Type} (test : α → Check Bool) : List α → Check (List α)
  | [] => done []
  | a :: as => do
    let keep ← test a
    let rest ← filter test as
    return if keep then a :: rest else rest

end Check

/-- The package that a check looks at. -/
structure Site where
  files : FileSystem
  root : Path

/-- The names that a reference stands for: its query and fragment are cut off, what is left is
decoded, and slashes in front do not make it absolute. -/
def referenceNames (href : String) : List String :=
  let path := percentDecode (upTo '?' (upTo '#' href.toList))
  Path.namesOf (path.dropWhile (· == '/'))

/-- The path of a reference seen from a folder. -/
def resolve (base : Path) (href : String) : Path := base.append (referenceNames href)

def Site.exists? (site : Site) (base : Path) (href : String) : Except FileError Bool :=
  site.files.exists? (resolve base href)

/-- Why a document of a package cannot be read. -/
inductive DocumentFault where
  | encoding (f : Utf8.Fault)
  | markup (e : Markup.ReadError)

def DocumentFault.message : DocumentFault → String
  | .encoding f => f.message
  | .markup e => e.message

/-- Reads a document; only a failure of the file system is an error. -/
def Site.readDocument (site : Site) (p : Path) :
    Except FileError (Except DocumentFault Markup.Element) :=
  match site.files.readText p with
  | .error (.file e) => .error e
  | .error (.encoding f) => .ok (.error (.encoding f))
  | .ok text => .ok ((Markup.parse text).mapError .markup)

end QuizPreflight.Package
