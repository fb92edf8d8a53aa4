import Mathlib.Data.List.Basic
import QuizPreflight.Package.Check

/-!
# Checks that agree

Two checks agree if they make the same findings and have the same result wherever both come to
their end. Where the file system ends one of them nothing is said. Checks that agree one after
the other agree as a whole.
-/
namespace QuizPreflight.Package

namespace Check

variable {α β : Type}

/-- Where both checks come to an end they have made the same findings and have the same result. -/
def Agree (c c' : Check α) : Prop :=
  ∀ a a', c.result = .ok a → c'.result = .ok a' → c.findings = c'.findings ∧ a = a'

lemma bind_result_eq_ok_iff {c : Check α} {f : α → Check β} {b : β} :
    (c >>= f).result = .ok b ↔ ∃ a, c.result = .ok a ∧ (f a).result = .ok b := by
  obtain ⟨findings, result⟩ := c
  cases result <;> simp [bind, andThen]

lemma bind_findings {c : Check α} {f : α → Check β} {a : α} (h : c.result = .ok a) :
    (c >>= f).findings = c.findings ++ (f a).findings := by
  obtain ⟨findings, result⟩ := c
  obtain rfl : result = .ok a := h
  rfl

lemma look_ok_bind (a : α) (f : α → Check β) : (look (.ok a) >>= f) = f a := by
  simp [bind, andThen, look]

lemma look_error_bind (e : FileError) (f : α → Check β) :
    (look (.error e) >>= f) = ⟨[], .error e⟩ := rfl

namespace Agree

theorem refl (c : Check α) : c.Agree c := by
  intro a a' h h'
  rw [h] at h'
  exact ⟨rfl, Except.ok.inj h'⟩

/-- What follows has to agree only on results that both checks have. -/
theorem bind {c c' : Check α} {f f' : α → Check β} (h : c.Agree c')
    (hf : ∀ a, c.result = .ok a → c'.result = .ok a → (f a).Agree (f' a)) :
    (c >>= f).Agree (c' >>= f') := by
  intro b b' hb hb'
  obtain ⟨a, ha, hfa⟩ := bind_result_eq_ok_iff.mp hb
  obtain ⟨a', ha', hfa'⟩ := bind_result_eq_ok_iff.mp hb'
  obtain ⟨hfindings, rfl⟩ := h a a' ha ha'
  obtain ⟨hrest, rfl⟩ := hf a ha ha' b b' hfa hfa'
  rw [bind_findings ha, bind_findings ha', hfindings, hrest]
  exact ⟨rfl, rfl⟩

theorem report_bind (fs : List Finding) {f f' : Unit → Check β} (h : (f ()).Agree (f' ())) :
    (report fs >>= f).Agree (report fs >>= f') :=
  bind (refl _) fun _ _ _ => h

theorem look {r r' : Except FileError α} (h : ∀ a a', r = .ok a → r' = .ok a' → a = a') :
    (look r).Agree (look r') :=
  fun a a' ha ha' => ⟨rfl, h a a' ha ha'⟩

theorem each {f f' : α → Check Unit} {as : List α} (h : ∀ a ∈ as, (f a).Agree (f' a)) :
    (each f as).Agree (each f' as) := by
  induction as with
  | nil => exact refl _
  | cons a as ih =>
    exact bind (h a List.mem_cons_self) fun _ _ _ => ih fun b hb => h b (List.mem_cons_of_mem _ hb)

theorem filter {test test' : α → Check Bool} {as : List α}
    (h : ∀ a ∈ as, (test a).Agree (test' a)) : (filter test as).Agree (filter test' as) := by
  induction as with
  | nil => exact refl _
  | cons a as ih =>
    refine bind (h a List.mem_cons_self) fun keep _ _ => ?_
    exact bind (ih fun b hb => h b (List.mem_cons_of_mem _ hb)) fun rest _ _ => refl _

end Agree

lemma mem_of_filter {test : α → Check Bool} {as bs : List α}
    (h : (filter test as).result = .ok bs) : ∀ b ∈ bs, b ∈ as := by
  induction as generalizing bs with
  | nil =>
    obtain rfl : [] = bs := Except.ok.inj h
    simp
  | cons a as ih =>
    obtain ⟨keep, -, hrest⟩ := bind_result_eq_ok_iff.mp h
    obtain ⟨rest, htail, hkeep⟩ := bind_result_eq_ok_iff.mp hrest
    have hi := ih htail
    obtain rfl : (if keep then a :: rest else rest) = bs := Except.ok.inj hkeep
    intro b hb
    split at hb
    · rcases List.mem_cons.mp hb with rfl | hb
      · exact List.mem_cons_self
      · exact List.mem_cons_of_mem _ (hi b hb)
    · exact List.mem_cons_of_mem _ (hi b hb)

end Check

end QuizPreflight.Package
