import QuizPreflight.Package.Report

/-!
# Findings and identifiers

A check produces findings in order. Taking one in changes the report; an identifier is also
remembered, and one that was seen before is an error. Absent and empty identifiers do not count.
-/
namespace QuizPreflight.Package

inductive Finding where
  | error (message : String)
  | warning (message : String)
  | identifier (value : Option String) (source : String)
  | manifest
  | test
  | resources (count : Nat)
  | items (count : Nat)
  deriving DecidableEq, Repr

/-- A finding that is made under a condition. -/
def Finding.when (condition : Bool) (f : Finding) : List Finding :=
  if condition then [f] else []

/-- A report with the identifiers seen so far, latest first. -/
structure Registry where
  report : Report
  seen : List String
  deriving DecidableEq, Repr

namespace Registry

def empty : Registry := ⟨Report.empty, []⟩

/-- Remembers an identifier; the flag tells whether it does not repeat another. -/
def register (g : Registry) (value : Option String) (source : String) : Bool × Registry :=
  match value with
  | none => (true, g)
  | some id =>
    if id.isEmpty then (true, g)
    else if g.seen.contains id then
      (false, { g with report := g.report.error s!"Duplicate identifier used: '{id}' in {source}" })
    else (true, { g with seen := id :: g.seen })

def contains (g : Registry) (id : String) : Bool := g.seen.contains id

def size (g : Registry) : Nat := g.seen.length

def changeDetails (g : Registry) (f : Details → Details) : Registry :=
  { g with report := { g.report with details := f g.report.details } }

def take (g : Registry) : Finding → Registry
  | .error message => { g with report := g.report.error message }
  | .warning message => { g with report := g.report.warning message }
  | .identifier value source => (g.register value source).2
  | .manifest => g.changeDetails fun d => { d with manifestFound := true }
  | .test => g.changeDetails fun d => { d with testFound := true }
  | .resources n => g.changeDetails fun d => { d with resourceCount := d.resourceCount + n }
  | .items n => g.changeDetails fun d => { d with itemCount := d.itemCount + n }

def takeAll (g : Registry) (fs : List Finding) : Registry := fs.foldl take g

theorem takeAll_append (g : Registry) (fs gs : List Finding) :
    g.takeAll (fs ++ gs) = (g.takeAll fs).takeAll gs := List.foldl_append

end Registry

end QuizPreflight.Package
