import QuizPreflight.Command.Argument
import QuizPreflight.Command.Help

/-!
# The command line of the program

Its grammar and those of its commands, and what a command line asks for.
-/
namespace QuizPreflight.Command

def programName : String := "quiz-diagnostic"

def helpOption : CommandOption := ⟨["-h", "--help"], .help, "show this help message and exit"⟩

def versionOption : CommandOption :=
  ⟨["--version"], .version, "show program's version number and exit"⟩

def verboseOption : CommandOption := ⟨["-v", "--verbose"], .mark, "Log progress to stderr"⟩

def ruleOption : CommandOption :=
  ⟨["--rule"], .collect "RULES", "Run only this rule (repeatable)"⟩

def jsonOption : CommandOption := ⟨["--json"], .mark, "Print the report as JSON"⟩

def strictOption : CommandOption :=
  ⟨["--strict"], .mark, "Apply strict metadata/identifier rules"⟩

inductive CommandName where
  | lint
  | validate
  | rules
  | check
  deriving DecidableEq, Repr

namespace CommandName

def all : List CommandName := [lint, validate, rules, check]

def text : CommandName → String
  | lint => "lint"
  | validate => "validate"
  | rules => "rules"
  | check => "check"

def description : CommandName → String
  | lint => "Lint a Markdown quiz file"
  | validate => "Validate a QTI package (directory or .zip)"
  | rules => "List available lint rules"
  | check => "Health check (config, work dir)"

def options : CommandName → List CommandOption
  | lint => [helpOption, ruleOption, jsonOption]
  | validate => [helpOption, strictOption, jsonOption]
  | rules | check => [helpOption]

def operand : CommandName → Option Operand
  | lint => some (.value "quiz_path" "Path to .md quiz file")
  | validate => some (.value "package_path" "Package directory or .zip archive")
  | rules | check => none

def grammar (c : CommandName) : Grammar :=
  ⟨s!"{programName} {c.text}", none, c.options, c.operand⟩

def ofText? (s : String) : Option CommandName := all.find? (·.text == s)

end CommandName

def commandOperand : Operand :=
  .command "command" (CommandName.all.map fun c => (c.text, c.description))

def programGrammar : Grammar where
  program := programName
  description := some "Check Markdown quizzes and QTI packages before LMS import"
  options := [helpOption, versionOption, verboseOption]
  operand := some commandOperand

inductive Request where
  | lint (path : String) (rules : Option (List String)) (asJson : Bool)
  | validate (path : String) (strict : Option Bool) (asJson : Bool)
  | rules
  | check
  deriving DecidableEq, Repr

structure Invocation where
  isVerbose : Bool
  request : Request
  deriving DecidableEq, Repr

/-- Why a command line asks for nothing, and the grammar that this is about. -/
structure Refusal where
  grammar : Grammar
  halt : Halt
  deriving DecidableEq, Repr

def refuse {α : Type} (g : Grammar) (f : UsageFault) : Except Refusal α := .error ⟨g, .fault f⟩

/-- What is found, with the arguments of the operand, which must not be missing. -/
def Grammar.readWhole (g : Grammar) (args : List String) : Except Refusal (Found × List String) :=
  match g.read args with
  | .error halt => .error ⟨g, halt⟩
  | .ok found =>
    match g.operand, found.operand with
    | some o, none => refuse g (.missing o.name)
    | _, values => .ok (found, values.getD [])

def Found.has (f : Found) (o : CommandOption) : Bool := f.options.any (·.1 = o)

def Found.values (f : Found) (o : CommandOption) : List String :=
  f.options.filterMap fun (p, value) => if p = o then value else none

/-- What a command asks for. -/
def CommandName.request (c : CommandName) (f : Found) (path : String) : Request :=
  match c with
  | lint =>
    let rules := f.values ruleOption
    .lint path (if rules.isEmpty then none else some rules) (f.has jsonOption)
  | validate =>
    .validate path (if f.has strictOption then some true else none) (f.has jsonOption)
  | rules => .rules
  | check => .check

/-- Reads the arguments of the program. Those that fit nowhere are told of last. -/
def readInvocation (args : List String) : Except Refusal Invocation := do
  let (found, values) ← programGrammar.readWhole args
  let given := values.head?.getD ""
  match CommandName.ofText? given with
  | none =>
    refuse programGrammar
      (.badChoice commandOperand.name given (CommandName.all.map CommandName.text))
  | some c =>
    let (inner, operand) ← c.grammar.readWhole values.tail
    let extras := found.extras ++ inner.extras
    if !extras.isEmpty then refuse programGrammar (.unrecognised extras)
    return ⟨found.has verboseOption, c.request inner (operand.head?.getD "")⟩

end QuizPreflight.Command
