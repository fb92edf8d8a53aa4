import Mathlib.Data.Finset.Card
import QuizPreflight.Proofs.Package.Wording

/-!
# Identifiers of a package

Taking findings in, a registry keeps each identifier once and reports every repetition. So the
entries about repetitions count the identifiers that are not new, and a report stays free of
errors exactly if no finding is one and the identifiers differ.
-/
namespace QuizPreflight.Package

open Text

/-- The identifier that a finding brings; an empty one does not count. -/
def Finding.brings : Finding → Option String
  | .identifier (some id) _ => if id.isEmpty then none else some id
  | _ => none

lemma attribute?_ne_empty {e : Markup.Element} {name value : String}
    (h : e.attribute? name = some value) : value.isEmpty = false := by
  unfold Markup.Element.attribute? at h
  split at h
  · cases h
  · split at h
    · cases h
    · next hne =>
      obtain rfl := Option.some.inj h
      simpa using hne

lemma Finding.brings_attribute {e : Markup.Element} {name source : String} :
    (Finding.identifier (e.attribute? name) source).brings = e.attribute? name := by
  cases h : e.attribute? name with
  | none => rfl
  | some value => simp [brings, attribute?_ne_empty h]

def identifiers (fs : List Finding) : List String := fs.filterMap Finding.brings

section Identifiers

variable {fs gs : List Finding}

@[simp] lemma identifiers_nil : identifiers [] = [] := rfl

@[simp] lemma identifiers_append : identifiers (fs ++ gs) = identifiers fs ++ identifiers gs :=
  List.filterMap_append

lemma identifiers_cons (f : Finding) (fs : List Finding) :
    identifiers (f :: fs) = f.brings.toList ++ identifiers fs := by
  cases h : f.brings <;> simp [identifiers, h]

lemma identifiers_flatMap {α : Type} (as : List α) (g : α → List Finding) :
    identifiers (as.flatMap g) = as.flatMap fun a => identifiers (g a) := by
  induction as with
  | nil => rfl
  | cons a as ih => simp [ih]

/-- Findings of which none brings an identifier. -/
lemma identifiers_eq_nil (h : ∀ f ∈ fs, f.brings = none) : identifiers fs = [] := by
  rw [identifiers, List.filterMap_eq_nil_iff]
  exact h

@[simp] lemma identifiers_when_error {c : Bool} {message : String} :
    identifiers (Finding.when c (.error message)) = [] := by
  cases c <;> rfl

@[simp] lemma identifiers_when_warning {c : Bool} {message : String} :
    identifiers (Finding.when c (.warning message)) = [] := by
  cases c <;> rfl

lemma identifiers_contentFindings (rules : List ContentRule) (text item option : String) :
    identifiers (contentFindings rules text item option) = [] := by
  rw [contentFindings_eq_map]
  refine identifiers_eq_nil fun f hf => ?_
  obtain ⟨r, -, rfl⟩ := List.mem_map.mp hf
  unfold ContentRule.finding
  split <;> rfl

/-- None of the findings is an error. -/
def ErrorFree (fs : List Finding) : Prop := ∀ message, .error message ∉ fs

@[simp] lemma errorFree_nil : ErrorFree [] := by simp [ErrorFree]

@[simp] lemma errorFree_cons {f : Finding} :
    ErrorFree (f :: fs) ↔ (∀ message, f ≠ .error message) ∧ ErrorFree fs := by
  simp only [ErrorFree, List.mem_cons, not_or, forall_and, ne_comm]

@[simp] lemma errorFree_append : ErrorFree (fs ++ gs) ↔ ErrorFree fs ∧ ErrorFree gs := by
  simp only [ErrorFree, List.mem_append, not_or, forall_and]

@[simp] lemma errorFree_when_error {c : Bool} {message : String} :
    ErrorFree (Finding.when c (.error message)) ↔ c = false := by
  cases c <;> simp [Finding.when]

@[simp] lemma errorFree_when_warning {c : Bool} {message : String} :
    ErrorFree (Finding.when c (.warning message)) := by
  cases c <;> simp [Finding.when]

lemma errorFree_flatMap {α : Type} {as : List α} {g : α → List Finding} :
    ErrorFree (as.flatMap g) ↔ ∀ a ∈ as, ErrorFree (g a) := by
  simp only [ErrorFree, List.mem_flatMap, not_exists, not_and]
  exact ⟨fun h a ha message => h message a ha, fun h message a ha => h a ha message⟩

end Identifiers

namespace Registry

variable {g : Registry} {f : Finding} {id source : String} {value : Option String}

lemma take_of_brings_none (h : (Finding.identifier value source).brings = none) :
    g.take (.identifier value source) = g := by
  cases value with
  | none => rfl
  | some id =>
    have hempty : id.isEmpty = true := by
      by_contra hne
      simp [Finding.brings, hne] at h
    simp [take, register, hempty]

lemma take_of_brings_some (h : (Finding.identifier value source).brings = some id) :
    g.take (.identifier value source) =
      if id ∈ g.seen then
        { g with report := g.report.error s!"Duplicate identifier used: '{id}' in {source}" }
      else { g with seen := id :: g.seen } := by
  cases value with
  | none => simp [Finding.brings] at h
  | some v =>
    have hne : v.isEmpty = false := by
      by_contra hempty
      rw [Bool.not_eq_false] at hempty
      simp only [Finding.brings, hempty, if_true, reduceCtorEq] at h
    obtain rfl : v = id := by simpa [Finding.brings, hne] using h
    simp only [take, register, hne, List.contains_iff_mem, if_false, Bool.false_eq_true]
    split <;> rfl

lemma seen_take (g : Registry) (f : Finding) :
    (g.take f).seen = (f.brings.elim g.seen fun id => g.seen.insert id) := by
  cases f with
  | identifier value source =>
    cases hb : (Finding.identifier value source).brings with
    | none => rw [take_of_brings_none hb]; rfl
    | some id =>
      rw [take_of_brings_some hb, Option.elim_some]
      split
      · next hs => simp [hs]
      · next hs => simp [hs]
  | _ => rfl

theorem mem_seen_takeAll {fs : List Finding} :
    id ∈ (g.takeAll fs).seen ↔ id ∈ identifiers fs ∨ id ∈ g.seen := by
  induction fs generalizing g with
  | nil => simp [takeAll]
  | cons f fs ih =>
    have hstep := ih (g := g.take f)
    rw [takeAll] at hstep ⊢
    rw [List.foldl_cons, hstep, seen_take, identifiers_cons]
    cases f.brings with
    | none => simp
    | some b =>
      simp only [Option.elim_some, List.mem_insert_iff, Option.toList_some, List.mem_append,
        List.mem_singleton]
      tauto

theorem nodup_seen_takeAll (h : g.seen.Nodup) (fs : List Finding) : (g.takeAll fs).seen.Nodup := by
  induction fs generalizing g with
  | nil => exact h
  | cons f fs ih =>
    refine ih ?_
    rw [seen_take]
    cases f.brings with
    | none => exact h
    | some b => exact h.insert

/-- The entries of a report about repeated identifiers. -/
def duplicates (g : Registry) : Nat := g.report.errors.countP isDuplicateEntry

lemma duplicates_take (hf : f.Plain) :
    (g.take f).duplicates + (g.take f).seen.length =
      g.duplicates + g.seen.length + f.brings.toList.length := by
  cases f with
  | identifier value source =>
    cases hb : (Finding.identifier value source).brings with
    | none => rw [take_of_brings_none hb]; rfl
    | some id =>
      have hentry : isDuplicateEntry s!"Duplicate identifier used: '{id}' in {source}" = true :=
        isDuplicateEntry_repeated id source
      rw [take_of_brings_some hb]
      split
      · simp only [duplicates, Report.error, List.countP_append, List.countP_singleton, hentry,
          if_true, Option.toList_some, List.length_singleton]
        omega
      · simp only [duplicates, List.length_cons, Option.toList_some, List.length_nil]
        omega
  | error message => simp [duplicates, take, Report.error, Finding.brings, hf.2]
  | _ => rfl

/-- Each identifier is either kept or reported. -/
theorem duplicates_takeAll {fs : List Finding} (hfs : AllPlain fs) :
    (g.takeAll fs).duplicates + (g.takeAll fs).seen.length =
      g.duplicates + g.seen.length + (identifiers fs).length := by
  induction fs generalizing g with
  | nil => rfl
  | cons f fs ih =>
    obtain ⟨hf, hfs⟩ := allPlain_cons.mp hfs
    have hstep := duplicates_take (g := g) hf
    have hrest := ih (g := g.take f) hfs
    rw [takeAll] at hrest ⊢
    rw [List.foldl_cons, identifiers_cons, List.length_append]
    omega

/-- A fresh registry reports as many repetitions as there are identifiers beyond the distinct
ones. -/
theorem duplicates_takeAll_empty {fs : List Finding} (hfs : AllPlain fs) :
    (empty.takeAll fs).duplicates = (identifiers fs).length - (identifiers fs).toFinset.card := by
  have hcount := duplicates_takeAll (g := empty) hfs
  have hnodup : (empty.takeAll fs).seen.Nodup := nodup_seen_takeAll List.nodup_nil fs
  have hsame : (empty.takeAll fs).seen.toFinset = (identifiers fs).toFinset := by
    ext id
    rw [List.mem_toFinset, List.mem_toFinset, mem_seen_takeAll]
    simp [empty]
  have hcard := List.toFinset_card_of_nodup hnodup
  rw [hsame] at hcard
  have hzero : empty.duplicates = 0 := rfl
  have hnone : empty.seen.length = 0 := rfl
  omega

lemma errors_take_eq_nil_iff :
    (g.take f).report.errors = [] ↔
      g.report.errors = [] ∧ (∀ message, f ≠ .error message) ∧
        ∀ id, f.brings = some id → id ∉ g.seen := by
  cases f with
  | identifier value source =>
    cases hb : (Finding.identifier value source).brings with
    | none => simp [take_of_brings_none hb]
    | some id =>
      rw [take_of_brings_some hb]
      split
      · next hs => simp [Report.error, hs]
      · next hs => simp [hs]
  | error message => simp [take, Report.error]
  | _ => simp [take, Report.warning, changeDetails, Finding.brings]

theorem errors_takeAll_eq_nil_iff {fs : List Finding} :
    (g.takeAll fs).report.errors = [] ↔
      g.report.errors = [] ∧ ErrorFree fs ∧ (identifiers fs).Nodup ∧
        ∀ id ∈ identifiers fs, id ∉ g.seen := by
  induction fs generalizing g with
  | nil => simp [takeAll]
  | cons f fs ih =>
    have hrest := ih (g := g.take f)
    rw [takeAll] at hrest ⊢
    rw [List.foldl_cons, hrest, errors_take_eq_nil_iff, seen_take, identifiers_cons, errorFree_cons]
    cases f.brings with
    | none =>
      simp only [reduceCtorEq, false_implies, implies_true, and_true, Option.elim_none,
        Option.toList_none, List.nil_append]
      tauto
    | some b =>
      -- the identifier is new if it was neither seen before nor comes again
      have hsplit : (∀ id ∈ identifiers fs, id ∉ g.seen.insert b) ↔
          b ∉ identifiers fs ∧ ∀ id ∈ identifiers fs, id ∉ g.seen := by
        simp only [List.mem_insert_iff, not_or]
        constructor
        · intro h
          exact ⟨fun hb => (h b hb).1 rfl, fun id hid => (h id hid).2⟩
        · rintro ⟨hb, h⟩ id hid
          refine ⟨?_, h id hid⟩
          rintro rfl
          exact hb hid
      simp only [Option.some.injEq, forall_eq', Option.elim_some, Option.toList_some, hsplit,
        List.singleton_append, List.nodup_cons, List.forall_mem_cons]
      tauto

/-- A fresh registry is left without errors by findings of which none is an error and whose
identifiers differ. -/
theorem errors_takeAll_empty_eq_nil_iff {fs : List Finding} :
    (empty.takeAll fs).report.errors = [] ↔ ErrorFree fs ∧ (identifiers fs).Nodup := by
  rw [errors_takeAll_eq_nil_iff]
  simp [empty, Report.empty]

end Registry

end QuizPreflight.Package
