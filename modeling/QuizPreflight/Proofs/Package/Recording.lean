import QuizPreflight.Proofs.Package.Registration

/-!
# What a report records

A report keeps the errors and warnings among the findings in their order and adds up the facts.
Only a repeated identifier adds an error that is no finding. Entries of one origin are known by
how they open, so that what a check cannot have found can be told from its wording.
-/
namespace QuizPreflight.Package

open Text

def Finding.error? : Finding → Option String
  | .error message => some message
  | _ => none

def Finding.warning? : Finding → Option String
  | .warning message => some message
  | _ => none

/-- The items that a finding counts. -/
def Finding.itemCount : Finding → Nat
  | .items n => n
  | _ => 0

def itemsIn : List Finding → Nat
  | [] => 0
  | f :: fs => f.itemCount + itemsIn fs

lemma itemsIn_append (fs gs : List Finding) : itemsIn (fs ++ gs) = itemsIn fs + itemsIn gs := by
  induction fs with
  | nil => simp [itemsIn]
  | cons f fs ih => simp [itemsIn, ih, Nat.add_assoc]

lemma filterMap_error?_cons (f : Finding) (fs : List Finding) :
    (f :: fs).filterMap Finding.error? = f.error?.toList ++ fs.filterMap Finding.error? := by
  rw [List.filterMap_cons]
  cases f.error? <;> rfl

lemma mem_errors_iff {fs : List Finding} {message : String} :
    message ∈ fs.filterMap Finding.error? ↔ .error message ∈ fs := by
  rw [List.mem_filterMap]
  constructor
  · rintro ⟨f, hf, hmessage⟩
    cases f <;> simp_all [Finding.error?]
  · exact fun h => ⟨_, h, rfl⟩

lemma mem_warnings_iff {fs : List Finding} {message : String} :
    message ∈ fs.filterMap Finding.warning? ↔ .warning message ∈ fs := by
  rw [List.mem_filterMap]
  constructor
  · rintro ⟨f, hf, hmessage⟩
    cases f <;> simp_all [Finding.warning?]
  · exact fun h => ⟨_, h, rfl⟩

namespace Registry

variable {g : Registry} {f : Finding} {fs : List Finding} {holds : String → Bool}

/-- A registration changes nothing of a report but its errors. -/
lemma register_report (g : Registry) (value : Option String) (source : String) :
    ∃ added, (g.take (.identifier value source)).report = { g.report with
      errors := g.report.errors ++ added } ∧ ∀ entry ∈ added, isDuplicateEntry entry = true := by
  cases hb : (Finding.identifier value source).brings with
  | none => exact ⟨[], by rw [take_of_brings_none hb, List.append_nil], by simp⟩
  | some id =>
    rw [take_of_brings_some hb]
    split
    · exact ⟨[_], rfl, by simpa using isDuplicateEntry_repeated id source⟩
    · exact ⟨[], by rw [List.append_nil], by simp⟩

lemma errors_take_filter (h : ∀ entry, isDuplicateEntry entry = true → holds entry = false) :
    (g.take f).report.errors.filter holds =
      g.report.errors.filter holds ++ f.error?.toList.filter holds := by
  cases f with
  | identifier value source =>
    obtain ⟨added, hreport, hadded⟩ := register_report g value source
    have hnone : added.filter holds = [] :=
      List.filter_eq_nil_iff.mpr fun entry he => by simp [h entry (hadded entry he)]
    rw [hreport, List.filter_append, hnone]
    rfl
  | error message => simp [take, Report.error, Finding.error?, List.filter_append]
  | _ => simp [take, Report.warning, changeDetails, Finding.error?]

/-- But for repeated identifiers, the errors of a report are those among the findings. -/
theorem errors_takeAll_filter
    (h : ∀ entry, isDuplicateEntry entry = true → holds entry = false) (g : Registry)
    (fs : List Finding) : (g.takeAll fs).report.errors.filter holds =
      g.report.errors.filter holds ++ (fs.filterMap Finding.error?).filter holds := by
  induction fs generalizing g with
  | nil => simp [takeAll]
  | cons f fs ih =>
    have hrest := ih (g.take f)
    rw [takeAll] at hrest ⊢
    rw [List.foldl_cons, hrest, errors_take_filter h, filterMap_error?_cons, List.filter_append,
      List.append_assoc]

theorem mem_errors_takeAll {message : String} (h : isDuplicateEntry message = false) :
    message ∈ (g.takeAll fs).report.errors ↔
      message ∈ g.report.errors ∨ .error message ∈ fs := by
  have hfilter : (g.takeAll fs).report.errors.filter (!isDuplicateEntry ·) =
      g.report.errors.filter (!isDuplicateEntry ·) ++
        (fs.filterMap Finding.error?).filter (!isDuplicateEntry ·) :=
    errors_takeAll_filter (fun entry he => by simp [he]) g fs
  have hmem : ∀ entries : List String,
      message ∈ entries.filter (!isDuplicateEntry ·) ↔ message ∈ entries := by
    intro entries
    simp [h]
  rw [← hmem, hfilter, List.mem_append, hmem, hmem, mem_errors_iff]

/-- The errors among the findings are kept in their order. -/
theorem errors_sublist_takeAll (g : Registry) (fs : List Finding) :
    (g.report.errors ++ fs.filterMap Finding.error?).Sublist (g.takeAll fs).report.errors := by
  induction fs generalizing g with
  | nil => simp [takeAll]
  | cons f fs ih =>
    have hstep : (g.report.errors ++ f.error?.toList).Sublist (g.take f).report.errors := by
      cases f with
      | identifier value source =>
        obtain ⟨added, hreport, -⟩ := register_report g value source
        rw [hreport]
        simp [Finding.error?]
      | _ => simp [take, Report.error, Report.warning, changeDetails, Finding.error?]
    rw [filterMap_error?_cons, ← List.append_assoc]
    exact (hstep.append_right _).trans (ih (g.take f))

theorem warnings_takeAll (g : Registry) (fs : List Finding) :
    (g.takeAll fs).report.warnings = g.report.warnings ++ fs.filterMap Finding.warning? := by
  induction fs generalizing g with
  | nil => simp [takeAll]
  | cons f fs ih =>
    have hrest := ih (g.take f)
    rw [takeAll] at hrest ⊢
    rw [List.foldl_cons, hrest]
    cases f with
    | identifier value source =>
      obtain ⟨added, hreport, -⟩ := register_report g value source
      rw [hreport]
      rfl
    | warning message =>
      have hcons : (Finding.warning message :: fs).filterMap Finding.warning? =
          [message] ++ fs.filterMap Finding.warning? := rfl
      rw [hcons, ← List.append_assoc]
      rfl
    | _ => rfl

theorem itemCount_takeAll (g : Registry) (fs : List Finding) :
    (g.takeAll fs).report.details.itemCount = g.report.details.itemCount + itemsIn fs := by
  induction fs generalizing g with
  | nil => rfl
  | cons f fs ih =>
    have hrest := ih (g.take f)
    rw [takeAll] at hrest ⊢
    rw [List.foldl_cons, hrest, itemsIn, ← Nat.add_assoc]
    cases f with
    | identifier value source =>
      obtain ⟨added, hreport, -⟩ := register_report g value source
      rw [hreport]
      rfl
    | _ => rfl

theorem testFound_takeAll (g : Registry) (fs : List Finding) :
    (g.takeAll fs).report.details.testFound = true ↔
      g.report.details.testFound = true ∨ .test ∈ fs := by
  induction fs generalizing g with
  | nil => simp [takeAll]
  | cons f fs ih =>
    have hrest := ih (g.take f)
    rw [takeAll] at hrest ⊢
    rw [List.foldl_cons, hrest, List.mem_cons]
    cases f with
    | identifier value source =>
      obtain ⟨added, hreport, -⟩ := register_report g value source
      rw [hreport]
      simp
    | _ => simp [take, Report.error, Report.warning, changeDetails]

end Registry

/-! ### Wording -/

/-- A finding is an entry that opens in one of some ways, or an identifier. It is no fact about
the package. -/
def Finding.Worded (openings : List (Char × Char)) : Finding → Prop
  | .error message | .warning message => ∃ o ∈ openings, Opens o.1 o.2 message
  | .identifier _ _ => True
  | _ => False

/-- Findings of which each is worded in one of some ways. -/
def AllWorded (openings : List (Char × Char)) (fs : List Finding) : Prop :=
  ∀ f ∈ fs, f.Worded openings

section Worded

variable {openings openings' : List (Char × Char)} {f : Finding} {fs gs : List Finding}
  {c d : Char} {s message : String} {b : Bool}

lemma Finding.worded_error (h : Opens c d message) (hmem : (c, d) ∈ openings) :
    (Finding.error message).Worded openings := ⟨(c, d), hmem, h⟩

lemma Finding.worded_warning (h : Opens c d message) (hmem : (c, d) ∈ openings) :
    (Finding.warning message).Worded openings := ⟨(c, d), hmem, h⟩

lemma Finding.Worded.mono (h : f.Worded openings) (hsub : openings ⊆ openings') :
    f.Worded openings' := by
  cases f with
  | error message | warning message =>
    obtain ⟨o, ho, hopens⟩ := h
    exact ⟨o, hsub ho, hopens⟩
  | _ => exact h

/-- No entry begins with a text that opens in another way. -/
lemma Finding.Worded.beginsWith_eq_false (h : (Finding.error message).Worded openings)
    (hs : Opens c d s) (hne : (c, d) ∉ openings) : beginsWith message s = false := by
  obtain ⟨o, ho, hopens⟩ := h
  refine hopens.beginsWith_eq_false hs fun heq => hne ?_
  obtain ⟨rfl, rfl⟩ : o.1 = c ∧ o.2 = d := by simpa using heq
  exact ho

/-- No entry opens in another way. -/
lemma AllWorded.notMem (h : AllWorded openings fs) (hs : Opens c d message)
    (hne : (c, d) ∉ openings) : .error message ∉ fs ∧ .warning message ∉ fs := by
  have hno : ¬∃ o ∈ openings, Opens o.1 o.2 message := by
    rintro ⟨o, ho, hopens⟩
    have hsame : [c, d] = [o.1, o.2] :=
      (List.prefix_of_prefix_length_le hs hopens (Nat.le_refl 2)).eq_of_length rfl
    obtain ⟨rfl, rfl⟩ : c = o.1 ∧ d = o.2 := by simpa using hsame
    exact hne ho
  exact ⟨fun hmem => hno (h _ hmem), fun hmem => hno (h _ hmem)⟩

lemma AllWorded.mono (h : AllWorded openings fs) (hsub : openings ⊆ openings') :
    AllWorded openings' fs := fun f hf => (h f hf).mono hsub

@[simp] lemma allWorded_nil : AllWorded openings [] := by simp [AllWorded]

@[simp] lemma allWorded_append :
    AllWorded openings (fs ++ gs) ↔ AllWorded openings fs ∧ AllWorded openings gs :=
  List.forall_mem_append

lemma allWorded_singleton (h : f.Worded openings) : AllWorded openings [f] :=
  List.forall_mem_singleton.mpr h

lemma allWorded_when (h : f.Worded openings) : AllWorded openings (Finding.when b f) := by
  unfold Finding.when
  split
  · exact allWorded_singleton h
  · exact allWorded_nil

lemma allWorded_map {α : Type} {as : List α} {g : α → Finding}
    (h : ∀ a ∈ as, (g a).Worded openings) : AllWorded openings (as.map g) :=
  List.forall_mem_map.mpr h

lemma allWorded_flatMap {α : Type} {as : List α} {g : α → List Finding}
    (h : ∀ a ∈ as, AllWorded openings (g a)) : AllWorded openings (as.flatMap g) :=
  List.forall_mem_flatMap.mpr h

lemma allWorded_contentFindings {rules : List ContentRule} {item option : String}
    (h : ∀ r ∈ rules,
      ∃ o ∈ openings, Opens o.1 o.2 (r.message.render (r.names item option))) (text : String) :
    AllWorded openings (contentFindings rules text item option) := by
  rw [contentFindings_eq_map]
  refine allWorded_map fun r hr => ?_
  unfold ContentRule.finding
  split
  · exact h r (List.mem_filter.mp hr).1
  · exact h r (List.mem_filter.mp hr).1

/-- Nothing is counted by entries and identifiers. -/
lemma itemsIn_of_allWorded (h : AllWorded openings fs) : itemsIn fs = 0 := by
  induction fs with
  | nil => rfl
  | cons f fs ih =>
    obtain ⟨hf, hfs⟩ := List.forall_mem_cons.mp h
    rw [itemsIn, ih hfs]
    cases f with
    | items n => exact hf.elim
    | _ => rfl

end Worded

namespace Check

variable {α β : Type} {openings openings' : List (Char × Char)}

/-- A check of which every finding is worded in one of some ways, whether or not it comes to its
end. -/
def Worded (openings : List (Char × Char)) (c : Check α) : Prop := AllWorded openings c.findings

namespace Worded

lemma done (a : α) : (done a).Worded openings := allWorded_nil

lemma look (r : Except FileError α) : (look r).Worded openings := allWorded_nil

lemma report {fs : List Finding} (h : AllWorded openings fs) : (report fs).Worded openings := h

lemma report_one {f : Finding} (h : f.Worded openings) : (Check.report [f]).Worded openings :=
  allWorded_singleton h

theorem bind {c : Check α} {f : α → Check β} (hc : c.Worded openings)
    (hf : ∀ a, (f a).Worded openings) : (c >>= f).Worded openings := by
  obtain ⟨findings, result⟩ := c
  cases result with
  | error e => exact hc
  | ok a => exact allWorded_append.mpr ⟨hc, hf a⟩

theorem each {f : α → Check Unit} {as : List α} (h : ∀ a ∈ as, (f a).Worded openings) :
    (each f as).Worded openings := by
  induction as with
  | nil => exact done ()
  | cons a as ih =>
    exact bind (h a List.mem_cons_self) fun _ => ih fun b hb => h b (List.mem_cons_of_mem _ hb)

end Worded

end Check

end QuizPreflight.Package
