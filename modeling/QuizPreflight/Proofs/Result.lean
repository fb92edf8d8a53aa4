import Mathlib.Tactic.Lemma

/-!
# Results of steps that may fail

A step that fails ends the steps that it is followed by, and its fault is theirs.
-/
namespace QuizPreflight

variable {ε α β : Type} {r : Except ε α} {f : α → Except ε β} {a : α} {b : β} {e : ε}

lemma bind_eq_ok_iff : (r >>= f) = .ok b ↔ ∃ a, r = .ok a ∧ f a = .ok b := by
  cases r <;> simp [bind, Except.bind]

lemma bind_eq_error_iff :
    (r >>= f) = .error e ↔ r = .error e ∨ ∃ a, r = .ok a ∧ f a = .error e := by
  cases r <;> simp [bind, Except.bind]

lemma toOption_eq_some_iff : r.toOption = some a ↔ r = .ok a := by
  cases r <;> simp [Except.toOption]

/-- A result without a fault, where faults cannot be told apart by computing. -/
lemma eq_ok_of_toOption (h : r.toOption = some a) : r = .ok a := toOption_eq_some_iff.mp h

/-- A result of which some parts are known. -/
lemma exists_of_toOption_map {f : α → β} (h : r.toOption.map f = some b) :
    ∃ a, r = .ok a ∧ f a = b := by
  cases r with
  | error e => cases h
  | ok a => exact ⟨a, rfl, Option.some.inj h⟩

/-- The fault of a result, if it is one. -/
def faultOf : Except ε α → Option ε
  | .ok _ => none
  | .error e => some e

lemma eq_error_of_faultOf (h : faultOf r = some e) : r = .error e := by
  cases r with
  | ok a => cases h
  | error f => exact congrArg Except.error (Option.some.inj h)

lemma ne_error_of_faultOf (h : (faultOf r).isNone = true) (e : ε) : r ≠ .error e := by
  rintro rfl
  cases h

/-- If the result is a fault, it is of the given kind. -/
def FaultsIn (P : ε → Prop) (r : Except ε α) : Prop := ∀ e, r = .error e → P e

namespace FaultsIn

variable {P Q : ε → Prop}

lemma ok (a : α) : FaultsIn P (.ok a : Except ε α) := by
  intro e h
  cases h

lemma error (h : P e) : FaultsIn P (.error e : Except ε α) := by
  intro e' h'
  cases h'
  exact h

lemma bind (hr : FaultsIn P r) (hf : ∀ a, r = .ok a → FaultsIn P (f a)) :
    FaultsIn P (r >>= f) := by
  intro e h
  rcases bind_eq_error_iff.mp h with h | ⟨a, ha, h⟩
  · exact hr e h
  · exact hf a ha e h

lemma ite {c : Prop} [Decidable c] {r' : Except ε α} (hr : FaultsIn P r) (hr' : FaultsIn P r') :
    FaultsIn P (if c then r else r') := by
  split
  · exact hr
  · exact hr'

/-- A condition checked in front of what follows. -/
lemma checked {c : Prop} [Decidable c] (h : c → P e) (hr : ¬ c → FaultsIn P r) :
    FaultsIn P (if c then do throw e; r else r) := by
  split
  · next hc => exact bind (error (h hc)) fun _ hok => by cases hok
  · next hc => exact hr hc

lemma mono (hr : FaultsIn P r) (h : ∀ e, P e → Q e) : FaultsIn Q r := fun e he => h e (hr e he)

end FaultsIn

end QuizPreflight
