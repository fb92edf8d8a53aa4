import QuizPreflight.Proofs.Result
import QuizPreflight.Proofs.Text.Trimming
import QuizPreflight.Quiz.Document

/-!
# Parts of a parse

Only the front matter can keep a document from being read; the body always gives a quiz. Its lines
are read one after the other, those behind some others at the place which these lead to.
-/
namespace QuizPreflight.Quiz

open QuizPreflight.Text

variable {loader : Yaml.Loader} {content : String}

theorem parse_eq_ok_iff {q : Quiz} :
    parse loader content = .ok q ↔ ∃ metadata default,
      readMetadata loader (cut content.toList).inner = .ok metadata ∧ pointsOf metadata = .ok default ∧
        readBody metadata default ((cut content.toList).offset + 1)
          (cut content.toList).body = q := by
  unfold parse
  simp only [bind_eq_ok_iff, pure, Except.pure, Except.ok.injEq, exists_and_left]

/-- A document without front matter is read from its first line on. -/
theorem parse_of_no_frontmatter (h : cut content.toList = ⟨none, content.toList, 0⟩) :
    parse loader content = .ok (readBody [] defaultPoints 1 content.toList) := by
  rw [parse_eq_ok_iff, h]
  exact ⟨[], defaultPoints, rfl, rfl, rfl⟩

/-! ### First characters of lines -/

section Lines

variable {c : Char} {s : List Char}

lemma heading?_cons (h : c ≠ '#') : heading? (c :: s) = none := by
  unfold heading?
  split
  · next heq => exact absurd (List.cons.inj heq).1 h
  · rfl

lemma questionHeader?_cons (h : c ≠ '#') : questionHeader? (c :: s) = none := by
  unfold questionHeader?
  split
  · next heq => exact absurd (List.cons.inj heq).1 h
  · rfl

lemma isFence_cons (hblank : isBlank c = false) (hbacktick : c ≠ '`') (htilde : c ≠ '~') :
    isFence (c :: s) = false := by
  have hdrop : dropBlanks (c :: s) = c :: s := dropBlanks_eq_self_iff.mpr (startsPlain_cons hblank)
  simp [isFence, hdrop, startsWith, literal, hbacktick.symm, htilde.symm]

end Lines

/-! ### Places and roles -/

/-- Neither in a code block nor in a solution block. -/
def Place.IsOutside (p : Place) : Prop := p.inFence = false ∧ p.depth ≤ 0

lemma Place.isOutside_start : Place.start.IsOutside := ⟨rfl, Int.le_refl 0⟩

lemma Place.step_of_active {p : Place} {line : List Char} (hp : p.IsOutside)
    (hsolution : opensSolution line = false) (hfence : isFence line = false) :
    p.step line = (.active, p) := by
  obtain ⟨hinside, hdepth⟩ := hp
  rw [step, if_neg (Int.not_lt.mpr hdepth), hinside, hsolution, hfence]
  rfl

/-- The place behind some lines. -/
def Place.after (p : Place) (lines : List (List Char)) : Place :=
  lines.foldl (fun p line => (p.step line).2) p

lemma assignRoles_append (p : Place) (above below : List (List Char)) :
    assignRoles p (above ++ below) = assignRoles p above ++ assignRoles (p.after above) below := by
  induction above generalizing p with
  | nil => rfl
  | cons line above ih => exact congrArg _ (ih (p.step line).2)

/-- Lines that lead nowhere else and have one role. -/
lemma assignRoles_of_forall_step {p : Place} {role : Role} {lines : List (List Char)}
    (h : ∀ line ∈ lines, p.step line = (role, p)) :
    assignRoles p lines = lines.map (fun line => (role, line)) ∧ p.after lines = p := by
  induction lines with
  | nil => exact ⟨rfl, rfl⟩
  | cons line lines ih =>
    obtain ⟨hline, hlines⟩ := List.forall_mem_cons.mp h
    obtain ⟨hroles, hafter⟩ := ih hlines
    rw [assignRoles, Place.after, List.foldl_cons, hline, List.map_cons, hroles]
    exact ⟨rfl, hafter⟩

namespace Progress

lemma readAll_append (default : Float) (n : Nat) (p : Progress)
    (above below : List (Role × List Char)) :
    readAll default n p (above ++ below) =
      readAll default (n + above.length) (readAll default n p above) below := by
  induction above generalizing n p with
  | nil => rfl
  | cons line above ih =>
    rw [List.cons_append, readAll, ih, readAll, List.length_cons, Nat.add_assoc, Nat.add_comm 1]

@[simp] lemma questions_readHeading (p : Progress) (n : Nat) (heading : List Char) :
    (p.readHeading n heading).questions = p.closed := by
  unfold readHeading
  dsimp only
  split <;> rfl

@[simp] lemma pending_readHeading (p : Progress) (n : Nat) (heading : List Char) :
    (p.readHeading n heading).pending = none := by
  unfold readHeading
  dsimp only
  split <;> rfl

/-- Lines that change nothing may be left out. -/
lemma readAll_of_forall_read {default : Float} {p : Progress} {lines : List (Role × List Char)}
    (h : ∀ n, ∀ line ∈ lines, p.read default n line = p) (n : Nat) :
    readAll default n p lines = p := by
  induction lines generalizing n with
  | nil => rfl
  | cons line lines ih =>
    rw [readAll, h n line List.mem_cons_self]
    exact ih (fun n other hother => h n other (List.mem_cons_of_mem line hother)) (n + 1)

end Progress

end QuizPreflight.Quiz
