import QuizPreflight.Decimal.Literal

/-!
# Values of front matter

What a YAML document stands for: scalars, dates, byte strings and collections. A mapping keeps
the order in which its keys first appear. A loader makes a value of a text; besides the errors by
which it refuses a text, others may come up while it makes values.
-/
namespace QuizPreflight.Yaml

structure Date where
  year : Nat
  month : Nat
  day : Nat
  deriving DecidableEq, Repr

/-- A point in time; the offset from universal time is in minutes. -/
structure Timestamp where
  date : Date
  hour : Nat
  minute : Nat
  second : Nat
  microsecond : Nat
  offset : Option Int
  deriving DecidableEq, Repr

inductive Value where
  | null
  | bool (b : Bool)
  | int (n : Int)
  | float (x : Float)
  | text (s : String)
  | bytes (data : List UInt8)
  | date (d : Date)
  | timestamp (t : Timestamp)
  | list (items : List Value)
  | map (entries : List (Value × Value))
  | set (members : List Value)
  /-- A collection that contains itself, met again from inside. -/
  | enclosing
  deriving Inhabited

/-- Whether a value can be written out: no whole number in it has more than `maxDigits` digits. -/
def Value.isWritable : Value → Bool
  | .int n => n.natAbs < Nat.pow 10 Decimal.maxDigits
  | .list items => allWritable items
  | .map entries => entriesWritable entries
  | .set members => allWritable members
  | _ => true
where
  allWritable : List Value → Bool
    | [] => true
    | v :: vs => v.isWritable && allWritable vs
  entriesWritable : List (Value × Value) → Bool
    | [] => true
    | (k, v) :: es => k.isWritable && v.isWritable && entriesWritable es

/-- The kinds of errors that come up while values are made of a text. -/
inductive ErrorKind where
  | value
  | key
  | index
  | attribute
  | type
  | overflow
  | recursion
  | memory
  deriving DecidableEq, Repr

/-- Why a loader gives no value. -/
inductive LoadFault where
  /-- The loader refuses the text by an error of its own. -/
  | malformed
  | raised (kind : ErrorKind) (message : String)
  deriving DecidableEq, Repr

/-- What makes a value of the text of a document. -/
abbrev Loader := List Char → Except LoadFault Value

/-- Days before the first of March of year zero are counted as negative. -/
def Date.dayNumber (d : Date) : Int :=
  let y : Int := if d.month ≤ 2 then (d.year : Int) - 1 else d.year
  let m : Int := (d.month + 9) % 12
  365 * y + y / 4 - y / 100 + y / 400 + (153 * m + 2) / 5 + d.day

/-- Microseconds on a common clock, for comparing timestamps. -/
def Timestamp.instant (t : Timestamp) : Int :=
  let minutes : Int := (t.date.dayNumber * 24 + t.hour) * 60 + t.minute - t.offset.getD 0
  (minutes * 60 + t.second) * 1000000 + t.microsecond

/-- Two timestamps agree when both are local or both are placed in universal time. -/
def Timestamp.sameInstant (a b : Timestamp) : Bool :=
  a.offset.isSome == b.offset.isSome && a.instant == b.instant

end QuizPreflight.Yaml
