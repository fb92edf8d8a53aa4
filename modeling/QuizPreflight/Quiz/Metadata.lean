import QuizPreflight.Quiz.Frontmatter
import QuizPreflight.Yaml.Value

/-!
# Metadata

What the front matter says about a quiz. Front matter that is malformed or no mapping says
nothing; points that are no number leave the default in place, after a note that writes them out.
-/
namespace QuizPreflight.Quiz

open QuizPreflight.Text QuizPreflight.Yaml QuizPreflight.Decimal

abbrev Metadata := List (Value × Value)

/-- Why a document gives no quiz. -/
inductive Fault where
  /-- An error that is not the loader's own comes up in the front matter. -/
  | frontmatter (kind : ErrorKind) (message : String)
  /-- Points beyond the largest number with a fraction. -/
  | pointsTooLarge
  /-- Points that hold a whole number too long to be written out. -/
  | pointsTooLong
  deriving DecidableEq, Repr

def Fault.message : Fault → String
  | .frontmatter _ message => message
  | .pointsTooLarge => "int too large to convert to float"
  | .pointsTooLong =>
    "Exceeds the limit (4300 digits) for integer string conversion; " ++
      "use sys.set_int_max_str_digits() to increase the limit"

def readMetadata (loader : Loader) (inner : Option (List Char)) : Except Fault Metadata :=
  match inner.map loader with
  | none => .ok []
  | some (.ok (.map entries)) => .ok entries
  | some (.ok _) => .ok []
  | some (.error .malformed) => .ok []
  | some (.error (.raised kind message)) => .error (.frontmatter kind message)

def lookUp (key : String) (m : Metadata) : Option Value :=
  (m.find? fun e => match e.1 with
    | .text s => s == key
    | _ => false).map Prod.snd

def titleOf (m : Metadata) : String :=
  match lookUp "title" m with
  | some (.text s) => s
  | _ => ""

def defaultPoints : Float := 1.0

/-- The number that bytes spell in ASCII. -/
def readBytes? (data : List UInt8) : Option Float :=
  if data.all (· < 0x80) then readFloat? (data.map fun b => Char.ofNat b.toNat) else none

/-- The points of a question that names none. -/
def pointsOf (m : Metadata) : Except Fault Float :=
  match lookUp "points" m with
  | some (.bool b) => .ok (if b then 1.0 else 0.0)
  | some (.int n) =>
    match ofInt? n with
    | some x => .ok x
    | none => .error .pointsTooLarge
  | some (.float x) => .ok x
  | some (.text s) => .ok ((readFloat? s.toList).getD defaultPoints)
  | some (.bytes data) => .ok ((readBytes? data).getD defaultPoints)
  | some v => if v.isWritable then .ok defaultPoints else .error .pointsTooLong
  | none => .ok defaultPoints

end QuizPreflight.Quiz
