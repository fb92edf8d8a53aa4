import QuizPreflight.Text.Quoted
import QuizPreflight.Yaml.Value

/-!
# Faults of front matter

A document that breaks the rules of the format is `malformed`; the other faults are scalars
that have the form of a number, a date or a character but no such value.
-/
namespace QuizPreflight.Yaml

open QuizPreflight.Text

inductive Fault where
  | malformed
  | yearRange (year : Nat)
  | monthRange
  | dayRange
  | hourRange
  | minuteRange
  | secondRange
  /-- An offset of a day or more, in minutes. -/
  | offsetRange (minutes : Int)
  | notTimestamp
  /-- A collection in the place of the text of a timestamp. -/
  | notText
  | notInteger (base : Nat) (text : List Char)
  | tooManyDigits (digits : Nat)
  | notFloat (text : List Char)
  | noNumber
  | notBoolean (text : List Char)
  | integerTooLarge
  | codePointRange
  | codePointTooLarge
  deriving DecidableEq, Repr

/-- A span of minutes in days and seconds, the seconds never negative. -/
def spanText (minutes : Int) : String :=
  let days := minutes.fdiv 1440
  let seconds := minutes.fmod 1440 * 60
  let parts := (if days = 0 then [] else [s!"days={days}"]) ++
    (if seconds = 0 then [] else [s!"seconds={seconds}"])
  "datetime.timedelta(" ++ ", ".intercalate parts ++ ")"

def Fault.message : Fault → String
  | .malformed => "malformed document"
  | .yearRange year => s!"year {year} is out of range"
  | .monthRange => "month must be in 1..12"
  | .dayRange => "day is out of range for month"
  | .hourRange => "hour must be in 0..23"
  | .minuteRange => "minute must be in 0..59"
  | .secondRange => "second must be in 0..59"
  | .offsetRange minutes =>
    "offset must be a timedelta strictly between -timedelta(hours=24) and " ++
      "timedelta(hours=24), not " ++ spanText minutes ++ "."
  | .notTimestamp => "'NoneType' object has no attribute 'groupdict'"
  | .notText => "expected string or bytes-like object, got 'list'"
  | .notInteger base text =>
    s!"invalid literal for int() with base {base}: " ++ String.ofList ((quoted text).take 200)
  | .tooManyDigits digits =>
    s!"Exceeds the limit (4300 digits) for integer string conversion: value has {digits} " ++
      "digits; use sys.set_int_max_str_digits() to increase the limit"
  | .notFloat text => "could not convert string to float: " ++ String.ofList (quoted text)
  | .noNumber => "string index out of range"
  | .notBoolean text => String.ofList (quoted text)
  | .integerTooLarge => "int too large to convert to float"
  | .codePointRange => "chr() arg not in range(0x110000)"
  | .codePointTooLarge => "Python int too large to convert to C int"

/-- The kind of error that a fault comes up as; malformed documents are refused. -/
def Fault.kind? : Fault → Option ErrorKind
  | .malformed => none
  | .notTimestamp => some .attribute
  | .notText => some .type
  | .noNumber => some .index
  | .notBoolean _ => some .key
  | .integerTooLarge | .codePointTooLarge => some .overflow
  | _ => some .value

def Fault.reported (f : Fault) : LoadFault :=
  match f.kind? with
  | none => .malformed
  | some kind => .raised kind f.message

end QuizPreflight.Yaml
