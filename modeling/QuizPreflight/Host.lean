import QuizPreflight.Console.Table
import QuizPreflight.Package.Validation
import QuizPreflight.Yaml.Document

/-!
# The host of the program

What the program is run with and does not decide: a loader of front matter, a renderer of reports,
what the system refuses, and the encoding of the output.
-/
namespace QuizPreflight

structure Host where
  loader : Yaml.Loader
  renderer : Console.Renderer
  access : Access
  /-- How a validation ends to which something in the package or in its working area is refused. -/
  hindered : Settings → FileSystem → Path → Option Bool → Option Package.Outcome
  encoding : Console.Encoding

/-- Validates the package at a path by itself, with the settings that are in force. -/
def Host.validate (host : Host) (settings : Settings) (fs : FileSystem) (p : Path)
    (strict : Option Bool) : Package.Report × FileSystem :=
  match host.hindered settings fs p strict with
  | some outcome => (outcome.report, fs)
  | none =>
    Package.Validator.validate ⟨Package.Options.inherit, settings⟩ fs p (some ⟨strict⟩)

/-- A host without colours that refuses nothing and writes every character. -/
def Host.plain : Host where
  loader := Yaml.safeLoader
  renderer := Console.plainRenderer
  access := Access.full
  hindered := fun _ _ _ _ => none
  encoding := ⟨fun _ => true, fun s => s⟩

end QuizPreflight
