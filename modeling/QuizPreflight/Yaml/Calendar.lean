import QuizPreflight.Text.Match
import QuizPreflight.Yaml.Fault

/-!
# Dates and timestamps

A date alone is written with two digits for month and day; before a time of day one digit will
do. The written form is checked first, then the ranges of the fields from the offset inward.
-/
namespace QuizPreflight.Yaml

open QuizPreflight.Text

def isLeap (year : Nat) : Bool := year % 4 = 0 && (year % 100 ≠ 0 || year % 400 = 0)

def daysInMonth (year month : Nat) : Nat :=
  if month = 2 then if isLeap year then 29 else 28
  else if month = 4 ∨ month = 6 ∨ month = 9 ∨ month = 11 then 30 else 31

def Date.check (d : Date) : Except Fault Date :=
  if d.year = 0 then .error (.yearRange d.year)
  else if d.month = 0 ∨ 12 < d.month then .error .monthRange
  else if d.day = 0 ∨ daysInMonth d.year d.month < d.day then .error .dayRange
  else .ok d

def Timestamp.check (t : Timestamp) : Except Fault Timestamp := do
  if let some minutes := t.offset then
    if 1440 ≤ minutes.natAbs then throw (.offsetRange minutes)
  let _ ← t.date.check
  if 23 < t.hour then throw .hourRange
  if 59 < t.minute then throw .minuteRange
  if 59 < t.second then throw .secondRange
  return t

def number (ds : List Char) : Nat := ds.foldl (fun n c => 10 * n + (c.toNat - '0'.toNat)) 0

/-- Between `least` and `most` ASCII digits, as many as there are. -/
def digits? (least most : Nat) (s : List Char) : Option (Nat × List Char) :=
  let ds := (s.take most).takeWhile Char.isDigit
  if least ≤ ds.length then some (number ds, s.drop ds.length) else none

def symbol? (c : Char) (s : List Char) : Option (List Char) := literal [c] s

def isGapChar (c : Char) : Bool := c == ' ' || c == '\t'

/-- The microseconds of a fraction, cut at six digits. -/
def microseconds (ds : List Char) : Nat := number ((ds ++ List.replicate 6 '0').take 6)

def fraction (s : List Char) : Nat × List Char :=
  match s with
  | '.' :: rest => (microseconds (rest.takeWhile Char.isDigit), rest.dropWhile Char.isDigit)
  | _ => (0, s)

/-- An offset from universal time that ends the text. -/
def offset? (s : List Char) : Option (Option Int) :=
  match s with
  | [] => some none
  | _ =>
    match s.dropWhile isGapChar with
    | ['Z'] => some (some 0)
    | c :: rest =>
      if c == '+' || c == '-' then do
        let (hours, rest) ← digits? 1 2 rest
        let (minutes, rest) ← match rest with
          | ':' :: rest => digits? 2 2 rest
          | _ => some (0, rest)
        if rest.isEmpty then
          let total : Int := hours * 60 + minutes
          some (some (if c == '-' then -total else total))
        else none
      else none
    | [] => none

inductive Moment where
  | date (d : Date)
  | timestamp (t : Timestamp)
  deriving DecidableEq, Repr

def time? (date : Date) (s : List Char) : Option Timestamp := do
  let s ← match s with
    | c :: rest =>
      if c == 'T' || c == 't' then some rest
      else if isGapChar c then some (rest.dropWhile isGapChar) else none
    | [] => none
  let (hour, s) ← digits? 1 2 s
  let (minute, s) ← digits? 2 2 (← symbol? ':' s)
  let (second, s) ← digits? 2 2 (← symbol? ':' s)
  let (micro, s) := fraction s
  some ⟨date, hour, minute, second, micro, ← offset? s⟩

/-- A text without a newline at its end, which does not count to the form of a scalar. -/
def dropFinalBreak (s : List Char) : List Char :=
  if s.getLast? == some '\n' then s.dropLast else s

/-- The written form of a date, or of a date and a time of day. -/
def moment? (s : List Char) : Option Moment := do
  let (year, s) ← digits? 4 4 (dropFinalBreak s)
  let (month, s) ← digits? 1 2 (← symbol? '-' s)
  let (day, s) ← digits? 1 2 (← symbol? '-' s)
  let date : Date := ⟨year, month, day⟩
  if s.isEmpty then some (.date date) else (time? date s).map .timestamp

/-- A plain scalar that reads as a moment: a date alone needs two digits for month and day. -/
def isMoment (s : List Char) : Bool :=
  match moment? s with
  | some (.date _) => (dropFinalBreak s).length = 10
  | some (.timestamp _) => true
  | none => false

def Moment.check : Moment → Except Fault Value
  | .date d => d.check.map .date
  | .timestamp t => t.check.map .timestamp

def padded (places n : Nat) : String :=
  let ds := (toString n).toList
  String.ofList (List.replicate (places - ds.length) '0' ++ ds)

def Date.text (d : Date) : String := s!"{padded 4 d.year}-{padded 2 d.month}-{padded 2 d.day}"

def offsetText (minutes : Int) : String :=
  let m := minutes.natAbs
  (if minutes < 0 then "-" else "+") ++ s!"{padded 2 (m / 60)}:{padded 2 (m % 60)}"

def Timestamp.text (t : Timestamp) : String :=
  s!"{t.date.text}T{padded 2 t.hour}:{padded 2 t.minute}:{padded 2 t.second}" ++
    (if t.microsecond = 0 then "" else s!".{padded 6 t.microsecond}") ++
    (t.offset.map offsetText).getD ""

end QuizPreflight.Yaml
