/-!
# Validation reports

A report collects errors, warnings and facts about one package. It starts valid; a fatal error
makes it invalid at once, any other error when the report is finished.
-/
namespace QuizPreflight.Package

/-- Facts about a package. -/
structure Details where
  manifestFound : Bool
  resourceCount : Nat
  itemCount : Nat
  testFound : Bool
  deriving DecidableEq, Repr

def Details.none : Details := ⟨false, 0, 0, false⟩

structure Report where
  isValid : Bool
  errors : List String
  warnings : List String
  details : Details
  deriving DecidableEq, Repr

namespace Report

def empty : Report := ⟨true, [], [], Details.none⟩

def error (r : Report) (message : String) : Report := { r with errors := r.errors ++ [message] }

def warning (r : Report) (message : String) : Report :=
  { r with warnings := r.warnings ++ [message] }

/-- Records a fatal error. -/
def fail (r : Report) (message : String) : Report := { r.error message with isValid := false }

def finish (r : Report) : Report := { r with isValid := r.isValid && r.errors.isEmpty }

@[simp] theorem finish_errors (r : Report) : r.finish.errors = r.errors := rfl

end Report

end QuizPreflight.Package
