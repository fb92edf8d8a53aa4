import QuizPreflight.Command.Display
import QuizPreflight.Command.Program
import QuizPreflight.Host
import QuizPreflight.Lint.Check

/-!
# Running the program

A command line, an environment and a file system decide what is printed and how the program
ends: with a code, or with a breakdown that no command foresees. What is printed is written to the
output piece by piece, up to one that the encoding of the output cannot write.
-/
namespace QuizPreflight.Command

open QuizPreflight.Console

/-- What no command foresees. -/
inductive Breakdown where
  | path (f : PathFault)
  | logLevel (name : String)
  | frontmatter (f : Quiz.Fault)
  | drawing (message : String)
  | encoding (message : String)

def Breakdown.message : Breakdown → String
  | .path f => f.message
  | .logLevel name => s!"Unknown level: {Text.quote name}"
  | .frontmatter f => f.message
  | .drawing message => message
  | .encoding message => message

inductive Ending where
  | code (n : Nat)
  /-- The command line itself ends the program. -/
  | exit (n : Nat)
  | breakdown (b : Breakdown)

structure Result where
  /-- What is printed, piece by piece. -/
  pieces : List String
  err : String
  ending : Ending

def exitOk : Nat := 0

def exitFindings : Nat := 1

def exitUsage : Nat := 2

namespace Result

def out (r : Result) : String := String.join r.pieces

def broken (b : Breakdown) : Result := ⟨[], "", .breakdown b⟩

/-- Prints a text as it is. -/
def plain (text : String) (code : Nat) : Result := ⟨[text ++ "\n"], "", .code code⟩

/-- Prints blocks and ends with a code, unless a block cannot be drawn. -/
def printing (renderer : Renderer) (blocks : List Block) (code : Nat) : Result :=
  let (pieces, refusal) := renderer.print blocks
  ⟨pieces, "", (refusal.map fun m => .breakdown (.drawing m)).getD (.code code)⟩

/-- Tells of an error and ends. -/
def complaint (renderer : Renderer) (message : String) : Result :=
  match renderer.draw (complaintBlock message) with
  | .error m => broken (.drawing m)
  | .ok text => ⟨[], text, .code exitUsage⟩

def missing (renderer : Renderer) (p : Path) : Result :=
  complaint renderer s!"File not found: {p.toString}"

/-- What comes of a result where an encoding lacks characters: the output stops in front of a piece
with one, while among the errors its code is written. -/
def written (encoding : Encoding) (r : Result) : Result :=
  let spell (c : Char) : List Char := if encoding.has c then [c] else Text.codeEscape c
  { pieces := r.pieces.takeWhile encoding.takes
    err := String.ofList (r.err.toList.flatMap spell)
    ending :=
      match r.pieces.find? (!encoding.takes ·) with
      | none => r.ending
      | some piece => .breakdown (.encoding (encoding.complaint piece)) }

end Result

/-- The columns of the terminal that the environment tells of. -/
def columns (env : Environment) : Nat :=
  match (env.lookup "COLUMNS").map fun s => Decimal.readInt s.toList with
  | some (.ok n) => if 0 < n then n.toNat else 80
  | _ => 80

/-- Help and usage leave two columns free. -/
def textWidth (env : Environment) : Int := (columns env : Int) - 2

def refusalResult (env : Environment) (r : Refusal) : Result :=
  let limit := textWidth env
  match r.halt with
  | .help => ⟨[String.ofList (r.grammar.helpText limit) ++ "\n"], "", .exit exitOk⟩
  | .version =>
    let text := paragraph limit s!"{programName} {Settings.programVersion}"
    ⟨[String.ofList text ++ "\n"], "", .exit exitOk⟩
  | .fault f =>
    ⟨[], String.ofList (r.grammar.usageText limit) ++
      s!"\n{r.grammar.program}: error: {f.message}\n", .exit exitUsage⟩

/-- Lints the file at a path. -/
def runLint (host : Host) (settings : Settings) (fs : FileSystem) (p : Path)
    (rules : Option (List String)) (asJson : Bool) : Result :=
  match host.access.guard p (fs.isFile? p) with
  | .error f => .broken (.path f)
  | .ok false => .missing host.renderer p
  | .ok true =>
    match Lint.reportOnFile host.loader host.access fs p rules (some settings.contextWidth) with
    | .error (.frontmatter f) => .broken (.frontmatter f)
    | .error f => .complaint host.renderer s!"Could not read {p.toString}: {f.message}"
    | .ok r =>
      let code := if r.errors = 0 then exitOk else exitFindings
      if asJson then .plain (lintReportJson r).toText code
      else .printing host.renderer (lintReportBlocks host.renderer.escape r) code

/-- Validates the package at a path. -/
def runValidate (host : Host) (settings : Settings) (fs : FileSystem) (p : Path)
    (strict : Option Bool) (asJson : Bool) : Result × FileSystem :=
  match host.access.guard p (fs.exists? p) with
  | .error f => (.broken (.path f), fs)
  | .ok false => (.missing host.renderer p, fs)
  | .ok true =>
    let (r, after) := host.validate settings fs p strict
    let code := if r.isValid then exitOk else exitFindings
    (if asJson then .plain (packageReportJson r).toText code
      else .printing host.renderer (packageReportBlocks host.renderer.escape p.toString r) code,
      after)

def toolNames : List String :=
  ["lint_quiz", "lint_quiz_content", "get_lint_rules", "validate_qti_package"]

def ruler : String := String.ofList (List.replicate 40 '=')

/-- What the check of the settings prints, given whether their work folder is there. -/
def checkBlocks (settings : Settings) (hasFolder : Bool) : List Block :=
  let work := (settings.workFolder.map Path.toString).getD "system temp"
  ([s!"Quiz Diagnostic v{Settings.programVersion}", ruler, "\nConfiguration:",
    s!"  Strict by default: {truth settings.strict}", s!"  Work directory: {work}",
    s!"  Context width: {settings.contextWidth}", s!"  Log level: {settings.logLevel}"] ++
  (if settings.workFolder.isNone then []
  else
    ["\nWork directory:",
     if hasFolder then "  Status: exists" else "  Status: " ++ styled .red "MISSING"]) ++
  [s!"\nLint rules: {Lint.availableRules.length}", "\nMCP tools:"] ++
  toolNames.map ("  - " ++ ·) ++
  ["\n" ++ ruler, if hasFolder then "Ready!" else "Problems found"]).map .tagged

def runCheck (host : Host) (settings : Settings) (fs : FileSystem) : Result :=
  match settings.workFolder.mapM fun p => host.access.guard p (fs.isFolder? p) with
  | .error f => .broken (.path f)
  | .ok found =>
    let hasFolder := found.getD true
    .printing host.renderer (checkBlocks settings hasFolder)
      (if hasFolder then exitOk else exitUsage)

/-- The levels that log messages have. -/
def logLevels : List String :=
  ["CRITICAL", "FATAL", "ERROR", "WARN", "WARNING", "INFO", "DEBUG", "NOTSET"]

def runRequest (host : Host) (settings : Settings) (env : Environment) (fs : FileSystem)
    (r : Request) : Result × FileSystem :=
  match r with
  | .lint path rules asJson =>
    match env.expandHome (Path.ofString path) with
    | .error f => (.broken (.path f), fs)
    | .ok p => (runLint host settings fs p rules asJson, fs)
  | .validate path strict asJson =>
    match env.expandHome (Path.ofString path) with
    | .error f => (.broken (.path f), fs)
    | .ok p => runValidate host settings fs p strict asJson
  | .rules =>
    (.printing host.renderer (rulesBlocks host.renderer.escape Lint.availableRules) exitOk, fs)
  | .check => (runCheck host settings fs, fs)

def runInvocation (host : Host) (i : Invocation) (env : Environment) (fs : FileSystem) :
    Result × FileSystem :=
  match Settings.load host.access env fs with
  | .error f => (.broken (.path f), fs)
  | .ok (settings, fs) =>
    if i.isVerbose && !logLevels.contains settings.logLevel then
      (.broken (.logLevel settings.logLevel), fs)
    else runRequest host settings env fs i.request

/-- Runs the program. -/
def run (host : Host) (args : List String) (env : Environment) (fs : FileSystem) :
    Result × FileSystem :=
  let (r, after) :=
    match readInvocation args with
    | .error refusal => (refusalResult env refusal, fs)
    | .ok invocation => runInvocation host invocation env fs
  (r.written host.encoding, after)

end QuizPreflight.Command
