import QuizPreflight.Decimal.Literal
import QuizPreflight.Files.FileSystem
import QuizPreflight.Text.Capital

/-!
# Settings

What the checks go by. Variables of the environment change the defaults; a variable without a
value counts as unset. A tilde in front of a path stands for a home folder.
-/
namespace QuizPreflight

open QuizPreflight.Text

structure Settings where
  strict : Bool
  /-- Where working areas are made; if there is none, in the temporary folder. -/
  workFolder : Option Path
  /-- How the names of working areas begin. -/
  areaName : String
  manifestName : String
  contextWidth : Int
  logLevel : String
  version : String
  deriving DecidableEq, Repr

/-- What a run finds set, and what the system knows of users. -/
structure Environment where
  bindings : List (String × String)
  /-- The home folder of the user, which counts where `HOME` is not set. -/
  ownHome : Option String
  /-- The home folders of users by their names. -/
  accounts : List (String × String)
  deriving DecidableEq, Repr

/-- Why a path cannot be used. -/
inductive PathFault where
  | noHome
  /-- A zero character in the name of a user. -/
  | zeroInName
  | file (e : FileError)
  | refused (message : String)
  deriving DecidableEq, Repr

def PathFault.message : PathFault → String
  | .noHome => "Could not determine home directory."
  | .zeroInName => "embedded null byte"
  | .file e => e.message
  | .refused message => message

/-- What is found at a path, unless the system refuses to look. -/
def Access.guard (access : Access) (p : Path) (found : Except FileError Bool) :
    Except PathFault Bool :=
  match access.look p with
  | some message => .error (.refused message)
  | none => found.mapError .file

namespace Environment

/-- The value of a variable. -/
def lookup (env : Environment) (name : String) : Option String := env.bindings.lookup name

/-- The home folder that a name stands for which begins with a tilde: one's own for the tilde
alone, else that of the user who is named. -/
def homeOf? (env : Environment) (name : String) : Option String :=
  let home :=
    if name = "~" then (env.lookup "HOME").or env.ownHome
    else env.accounts.lookup (String.ofList name.toList.tail)
  home.map Path.trimHome

/-- The path with its home folder put in. -/
def expandHome (env : Environment) (p : Path) : Except PathFault Path :=
  if p.isHomed && (p.names.headD "").contains '\x00' then .error .zeroInName
  else match p.expandHome env.homeOf? with
    | some p => .ok p
    | none => .error .noHome

end Environment

namespace Settings

def programVersion : String := "0.4.0"

def default : Settings :=
  { strict := false
    workFolder := none
    areaName := "qti-validate-"
    manifestName := "imsmanifest.xml"
    contextWidth := 50
    logLevel := "INFO"
    version := programVersion }

/-- The words that turn strictness on, in lower case. -/
def strictWords : List String := ["true", "1", "yes"]

def isStrictWord (s : String) : Bool := strictWords.contains (String.ofList (lower s.toList))

/-- The width that a text stands for; a text that is no number leaves the width as it is. -/
def widthOf (s : String) (width : Int) : Int :=
  match Decimal.readInt s.toList with
  | .ok n => n
  | .error _ => width

/-- The value of a variable, if it is set to one. -/
def value? (env : Environment) (name : String) : Option String :=
  (env.lookup name).bind fun s => if s.isEmpty then none else some s

/-- The settings of an environment, apart from what they ask of the file system. -/
def ofEnvironment (env : Environment) : Except PathFault Settings := do
  let work ← (value? env "QUIZ_DIAGNOSTIC_WORK_DIR").mapM fun s =>
    env.expandHome (Path.ofString s)
  return { default with
    strict := ((value? env "QUIZ_DIAGNOSTIC_STRICT").map isStrictWord).getD default.strict
    workFolder := work
    logLevel := ((value? env "QUIZ_DIAGNOSTIC_LOG_LEVEL").map fun s =>
      String.ofList (upper s.toList)).getD default.logLevel
    contextWidth := ((value? env "QUIZ_DIAGNOSTIC_CONTEXT_WIDTH").map fun s =>
      widthOf s default.contextWidth).getD default.contextWidth }

/-- The settings of an environment. The folder of working areas is made if need be. -/
def load (access : Access) (env : Environment) (fs : FileSystem) :
    Except PathFault (Settings × FileSystem) := do
  let settings ← ofEnvironment env
  match settings.workFolder with
  | none => return (settings, fs)
  | some p =>
    if let some message := access.make p then throw (.refused message)
    return (settings, ← (fs.ensureFolders p).mapError .file)

end Settings

end QuizPreflight
