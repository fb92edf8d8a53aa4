import QuizPreflight.Archive.Extract
import QuizPreflight.Package.Legacy
import QuizPreflight.Package.Manifest
import QuizPreflight.Settings

/-!
# Validation of packages

A package is a folder or an archive, which is extracted into a working area of its own. The
first legacy document in the package decides; without one the package needs a manifest. The
working area is gone when the report is made. Strictness that is not set is inherited.
-/
namespace QuizPreflight.Package

structure Options where
  strict : Option Bool
  deriving DecidableEq, Repr

def Options.inherit : Options := ⟨none⟩

/-- What a second set of options sets wins. -/
def Options.merged (o : Options) (later : Option Options) : Options :=
  match later with
  | none => o
  | some l => ⟨l.strict.or o.strict⟩

def Options.isStrict (o : Options) (default : Bool) : Bool := o.strict.getD default

/-- Why a package is not looked into. -/
inductive Rejection where
  | missing (p : Path)
  | notExtracted
  | notPackage
  deriving DecidableEq, Repr

def Rejection.message : Rejection → String
  | .missing p => s!"File not found: {p.toString}"
  | .notExtracted => "Failed to unzip file. Is it a valid zip archive?"
  | .notPackage => "Input must be a directory or .zip file"

/-- What ends a validation before its end. -/
inductive Interruption where
  | file (e : FileError)
  | archive (f : Archive.ExtractFault)

def Interruption.message : Interruption → String
  | .file e => e.message
  | .archive f => f.message

/-- How a validation ends: the package is rejected, or checked, perhaps not to the end. -/
inductive Outcome where
  | rejected (r : Rejection)
  | checked (findings : List Finding) (interruption : Option Interruption)

namespace Outcome

def interrupted (i : Interruption) : Outcome := .checked [] (some i)

def ofCheck (c : Check Unit) : Outcome :=
  match c.result with
  | .ok () => .checked c.findings none
  | .error e => .checked c.findings (some (.file e))

def report : Outcome → Report
  | .rejected r => Report.empty.fail r.message
  | .checked findings interruption =>
    let r := (Registry.empty.takeAll findings).report
    match interruption with
    | none => r.finish
    | some i => (r.error s!"Validation Error: {i.message}").finish

end Outcome

/-- The first legacy document among some files. Files without a document are passed over. -/
def firstLegacy? (site : Site) : List Path → Except FileError (Option Markup.Element)
  | [] => .ok none
  | p :: ps => do
    match ← site.readDocument p with
    | .error _ => firstLegacy? site ps
    | .ok root => if root.tag == Legacy.rootTag then return some root else firstLegacy? site ps

def Site.legacyDocument? (site : Site) : Except FileError (Option Markup.Element) := do
  firstLegacy? site (← site.files.filesEnding site.root ".xml")

/-- Checks a package by its legacy document or else by its manifest. -/
def checkSite (site : Site) (strict : Bool) (manifestName : String) : Check Unit := do
  match ← Check.look site.legacyDocument? with
  | some root => Check.report (Legacy.findings strict root)
  | none =>
    let manifestPath := (Path.ofString manifestName).within site.root
    if ← Check.look (site.files.exists? manifestPath) then Manifest.check site manifestPath
    else
      Check.report
        [.error (s!"{manifestName} not found in root (QTI 2.1) " ++
          "and no valid QTI 1.2 XML file found")]

def isArchiveName (p : Path) : Bool := Text.lower p.suffix.toList == ".zip".toList

/-- Checks the package at a path that leads somewhere, with a working area at hand. -/
def inspect (settings : Settings) (strict : Bool) (fs : FileSystem) (p area : Path) :
    Outcome × FileSystem :=
  match fs.isFile? p, fs.isFolder? p with
  | .error e, _ | _, .error e => (.interrupted (.file e), fs)
  | .ok isFile, .ok isFolder =>
    if isFile && isArchiveName p then
      match Archive.extract fs p area with
      | ⟨fs, none⟩ => (.ofCheck (checkSite ⟨fs, area⟩ strict settings.manifestName), fs)
      | ⟨fs, some f⟩ =>
        (if f.isExpected then .rejected .notExtracted else .interrupted (.archive f), fs)
    else if isFolder then (.ofCheck (checkSite ⟨fs, p⟩ strict settings.manifestName), fs)
    else (.rejected .notPackage, fs)

/-- Where a working area is made: a path that is not taken. -/
def areaOf (settings : Settings) (fs : FileSystem) : Path :=
  fs.freshPath (settings.workFolder.getD fs.temporary) settings.areaName

/-- Checks the package at a path in a working area that is made for it and removed again. -/
def run (settings : Settings) (strict : Bool) (fs : FileSystem) (p : Path) :
    Outcome × FileSystem :=
  match fs.exists? p with
  | .error e => (.interrupted (.file e), fs)
  | .ok false => (.rejected (.missing p), fs)
  | .ok true =>
    let area := areaOf settings fs
    match fs.makeFolder area with
    | .error e => (.interrupted (.file e), fs)
    | .ok working =>
      let (outcome, after) := inspect settings strict working p area
      (outcome, after.remove area)

/-- Options and settings under which packages are validated. -/
structure Validator where
  options : Options
  settings : Settings

namespace Validator

def isStrict (v : Validator) (options : Option Options) : Bool :=
  (v.options.merged options).isStrict v.settings.strict

/-- Validates the package at a path; options of the call go before those of the validator. -/
def validate (v : Validator) (fs : FileSystem) (p : Path) (options : Option Options) :
    Report × FileSystem :=
  let (outcome, after) := run v.settings (v.isStrict options) fs p
  (outcome.report, after)

end Validator

/-- Validates the package at a path under the default settings. -/
def validate (fs : FileSystem) (p : Path) (strict : Bool) : Report × FileSystem :=
  Validator.validate ⟨⟨some strict⟩, Settings.default⟩ fs p none

end QuizPreflight.Package
