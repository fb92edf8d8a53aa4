/-!
# Grammars of command lines

A grammar lists the options of a program or of one of its commands, and what it takes besides:
nothing, one value, or a command with everything after it.
-/
namespace QuizPreflight.Command

inductive OptionKind where
  | help
  | version
  /-- Being given is all that matters. -/
  | mark
  /-- Takes a value, which goes by a name in messages, and may be repeated. -/
  | collect (valueName : String)
  deriving DecidableEq, Repr

structure CommandOption where
  names : List String
  kind : OptionKind
  description : String
  deriving DecidableEq, Repr

namespace CommandOption

def takesValue (o : CommandOption) : Bool :=
  match o.kind with
  | .collect _ => true
  | _ => false

/-- What messages call an option. -/
def fullName (o : CommandOption) : String := "/".intercalate o.names

/-- A name of an option with the value that it takes. -/
def withValue (o : CommandOption) (name : String) : String :=
  match o.kind with
  | .collect valueName => name ++ " " ++ valueName
  | _ => name

end CommandOption

inductive Operand where
  | value (name description : String)
  /-- Commands with their descriptions. -/
  | command (name : String) (choices : List (String × String))
  deriving DecidableEq, Repr

def Operand.name : Operand → String
  | value name _ => name
  | command name _ => name

structure Grammar where
  program : String
  description : Option String
  options : List CommandOption
  operand : Option Operand
  deriving DecidableEq, Repr

/-- Every name of an option, with the option. -/
def Grammar.namedOptions (g : Grammar) : List (String × CommandOption) :=
  g.options.flatMap fun o => o.names.map fun n => (n, o)

def Grammar.find? (g : Grammar) (name : String) : Option CommandOption := g.namedOptions.lookup name

end QuizPreflight.Command
