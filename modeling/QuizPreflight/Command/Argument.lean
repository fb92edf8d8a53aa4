import QuizPreflight.Command.Grammar
import QuizPreflight.Text.Character
import QuizPreflight.Text.Quoted

/-!
# Arguments of a command line

Each argument is an option, a plain argument, or the two dashes after which all arguments are
plain. Long options may be cut short where that leaves no doubt, and short ones run together.
Arguments that fit nowhere are kept apart.
-/
namespace QuizPreflight.Command

open QuizPreflight.Text

inductive UsageFault where
  | ambiguous (given : String) (candidates : List String)
  | ignoredValue (o : CommandOption) (value : String)
  | noValue (o : CommandOption)
  | badChoice (operand : String) (given : String) (choices : List String)
  | missing (operand : String)
  | unrecognised (arguments : List String)
  deriving DecidableEq, Repr

def UsageFault.message : UsageFault → String
  | .ambiguous given candidates =>
    s!"ambiguous option: {given} could match " ++ ", ".intercalate candidates
  | .ignoredValue o value => s!"argument {o.fullName}: ignored explicit argument {quote value}"
  | .noValue o => s!"argument {o.fullName}: expected one argument"
  | .badChoice operand given choices =>
    s!"argument {operand}: invalid choice: {quote given} (choose from " ++
      ", ".intercalate (choices.map quote) ++ ")"
  | .missing operand => s!"the following arguments are required: {operand}"
  | .unrecognised arguments => "unrecognized arguments: " ++ " ".intercalate arguments

/-- What ends the reading of a command line. -/
inductive Halt where
  | help
  | version
  | fault (f : UsageFault)
  deriving DecidableEq, Repr

/-- A value written in one argument with its option, and whether an equals sign stands before
it. -/
structure Attached where
  hasSign : Bool
  value : List Char
  deriving DecidableEq, Repr

/-- An option as it is given, by a name and perhaps with a value; one that the grammar does not
know is not told apart further. -/
structure GivenOption where
  option : Option CommandOption
  name : List Char
  attached : Option Attached
  deriving DecidableEq, Repr

inductive Kind where
  | option (o : GivenOption)
  | plain
  | dashes
  deriving DecidableEq, Repr

structure Argument where
  text : String
  kind : Kind
  deriving DecidableEq, Repr

def atTextEnd (s : List Char) : Bool := s.isEmpty || s == ['\n']

/-- A number below zero, which is no option. -/
def isNegativeNumber : List Char → Bool
  | '-' :: s =>
    let fraction := s.dropWhile isDigit
    (s.head?.any isDigit && atTextEnd fraction) ||
    match fraction with
    | '.' :: t => t.head?.any isDigit && atTextEnd (t.dropWhile isDigit)
    | _ => false
  | _ => false

/-- The text before the first equals sign, and the value after it. -/
def splitValue (s : List Char) : List Char × Option Attached :=
  match s.dropWhile (· != '=') with
  | [] => (s, none)
  | _ :: value => (s.takeWhile (· != '='), some ⟨true, value⟩)

/-- The options that an argument may be short for. -/
def candidates (g : Grammar) (s : List Char) : List GivenOption :=
  match s with
  | '-' :: '-' :: _ =>
    let (start, attached) := splitValue s
    g.namedOptions.filterMap fun (name, o) =>
      if start.isPrefixOf name.toList then some ⟨some o, name.toList, attached⟩ else none
  | '-' :: c :: rest =>
    g.namedOptions.filterMap fun (name, o) =>
      if name.toList == ['-', c] then some ⟨some o, name.toList, some ⟨false, rest⟩⟩
      else if s.isPrefixOf name.toList then some ⟨some o, name.toList, none⟩
      else none
  | _ => []

/-- The kind of an argument in front of which no two dashes stand. -/
def kindOf (g : Grammar) (text : String) : Except UsageFault Kind :=
  let s := text.toList
  match s with
  | '-' :: _ :: _ =>
    let (name, attached) := splitValue s
    match g.find? text, attached, g.find? (String.ofList name) with
    | some o, _, _ => .ok (.option ⟨some o, s, none⟩)
    | none, some a, some o => .ok (.option ⟨some o, name, some a⟩)
    | _, _, _ =>
      match candidates g s with
      | [o] => .ok (.option o)
      | [] =>
        if isNegativeNumber s || s.contains ' ' then .ok .plain
        else .ok (.option ⟨none, s, none⟩)
      | os => .error (.ambiguous text (os.map fun o => String.ofList o.name))
  | _ => .ok .plain

/-- Tells the kinds of all arguments. -/
def classify (g : Grammar) : List String → Except UsageFault (List Argument)
  | [] => .ok []
  | "--" :: rest => .ok (⟨"--", .dashes⟩ :: rest.map fun s => ⟨s, .plain⟩)
  | s :: rest => do
    let kind ← kindOf g s
    return ⟨s, kind⟩ :: (← classify g rest)

/-- What is found on a command line: options in order, the arguments that the operand takes,
and arguments that fit nowhere. -/
structure Found where
  options : List (CommandOption × Option String)
  operand : Option (List String)
  extras : List String
  deriving DecidableEq, Repr

def Found.empty : Found := ⟨[], none, []⟩

/-- Takes in an option. Help and version end the reading. -/
def Found.take (f : Found) (o : CommandOption) (value : Option String) : Except Halt Found :=
  match o.kind with
  | .help => .error .help
  | .version => .error .version
  | _ => .ok { f with options := f.options ++ [(o, value)] }

def Found.takeAll (f : Found) : List (CommandOption × Option String) → Except Halt Found
  | [] => .ok f
  | (o, value) :: rest => do (← f.take o value).takeAll rest

def Found.addExtras (f : Found) (extras : List String) : Found :=
  { f with extras := f.extras ++ extras }

/-- The options that run together in one argument. -/
structure Run where
  options : List (CommandOption × Option String)
  /-- Whether the last option still lacks its value. -/
  isOpen : Bool
  extras : List String

/-- The value attached to an option in a run, after what an equals sign announces. -/
def attachedTo : List Char → Option Attached
  | [] => none
  | '=' :: rest => some ⟨true, rest⟩
  | rest => some ⟨false, rest⟩

/-- Takes a run of options apart, the given one being the first. -/
def readRun (g : Grammar) : Nat → CommandOption → List Char → Option Attached →
    Except UsageFault Run
  | 0, _, _, _ => .ok ⟨[], false, []⟩
  | _ + 1, o, _, none => .ok ⟨[(o, none)], o.takesValue, []⟩
  | fuel + 1, o, name, some a =>
    if o.takesValue then .ok ⟨[(o, some (String.ofList a.value))], false, []⟩
    else
      let isLong := name[1]? == some '-'
      match a.value with
      | c :: rest =>
        if isLong || a.hasSign || c == '-' then
          .error (.ignoredValue o (String.ofList a.value))
        else
          match g.find? (String.ofList ['-', c]) with
          | none => .ok ⟨[(o, none)], false, [String.ofList ('-' :: a.value)]⟩
          | some next => do
            let run ← readRun g fuel next ['-', c] (attachedTo rest)
            return { run with options := (o, none) :: run.options }
      | [] => .error (.ignoredValue o "")

/-- The options of an argument, the last one with the value that follows. -/
def readOption (g : Grammar) (o : GivenOption) (text : String) (rest : List Argument)
    (f : Found) : Except Halt (Found × Bool) :=
  match o.option with
  | none => .ok (f.addExtras [text], false)
  | some first =>
    match readRun g (text.length + 1) first o.name o.attached with
    | .error e => .error (.fault e)
    | .ok run =>
      match run.isOpen, run.options.getLast?, rest with
      | true, some (last, _), next :: _ =>
        if next.kind = .plain then do
          let f ← f.takeAll (run.options.dropLast ++ [(last, some next.text)])
          return (f.addExtras run.extras, true)
        else .error (.fault (.noValue last))
      | true, some (last, _), [] => .error (.fault (.noValue last))
      | _, _, _ => do return ((← f.takeAll run.options).addExtras run.extras, false)

/-- The arguments that an operand takes at the front of a list, and how many there are. The two
dashes may stand around a value and before a command; of a value they are no part. -/
def operandAt (operand : Operand) (args : List Argument) : Option (List String × Nat) :=
  let lead := (args.takeWhile (·.kind = .dashes)).length
  match args.drop lead with
  | [] => none
  | a :: rest =>
    if a.kind ≠ .plain then none
    else match operand with
      | .command _ _ => some (args.map Argument.text, args.length)
      | .value _ _ =>
        some ([a.text], lead + 1 + (rest.takeWhile (·.kind = .dashes)).length)

/-- Reads classified arguments; the flag tells whether the operand is still to come. -/
def readArguments (g : Grammar) : Nat → Found → List Argument → Except Halt Found
  | 0, f, args => .ok (f.addExtras (args.map Argument.text))
  | _ + 1, f, [] => .ok f
  | fuel + 1, f, a :: rest =>
    match a.kind with
    | .option o => do
      let (f, tookNext) ← readOption g o a.text rest f
      readArguments g fuel f (if tookNext then rest.drop 1 else rest)
    | _ =>
      let taken := if f.operand.isSome then none else g.operand.bind (operandAt · (a :: rest))
      match taken with
      | some (values, n) =>
        readArguments g fuel { f with operand := some values } ((a :: rest).drop n)
      | none => readArguments g fuel (f.addExtras [a.text]) rest

/-- What the arguments of a grammar give. -/
def Grammar.read (g : Grammar) (args : List String) : Except Halt Found :=
  match classify g args with
  | .error e => .error (.fault e)
  | .ok classified => readArguments g (args.length + 1) Found.empty classified

end QuizPreflight.Command
