import QuizPreflight.Proofs.Text.Newline
import QuizPreflight.Text.Word

/-!
# Reading before a final carriage return

A carriage return at the end of a line is a blank that belongs to no piece that is read. Most
readers pass it on with what is left over, or drop it with other blanks, so they find the same with
it as without it.
-/
namespace QuizPreflight.Text

variable {α β : Type} {s t : List Char} {m k : Matcher}

/-- The same text, with or without a carriage return at its end. -/
def Trails (s t : List Char) : Prop := t = s ∨ t = s ++ ['\r']

lemma trails_append (s : List Char) : Trails s (s ++ ['\r']) := .inr rfl

lemma Trails.refl (s : List Char) : Trails s s := .inl rfl

lemma Trails.append_left (h : Trails s t) (before : List Char) :
    Trails (before ++ s) (before ++ t) := by
  rcases h with rfl | rfl
  · exact .inl rfl
  · exact .inr (List.append_assoc before s ['\r']).symm

lemma dropBlanks_append_return (s : List Char) :
    dropBlanks (s ++ ['\r']) = if allBlank s then [] else dropBlanks s ++ ['\r'] := by
  have hdrop : dropBlanks (s ++ ['\r']) = if (dropBlanks s).isEmpty then dropBlanks ['\r']
      else dropBlanks s ++ ['\r'] := List.dropWhile_append
  have hempty : (dropBlanks s).isEmpty = allBlank s := by
    rw [Bool.eq_iff_iff, List.isEmpty_iff, allBlank, List.all_eq_true]
    exact List.dropWhile_eq_nil_iff
  rw [hdrop, hempty]
  rfl

lemma Trails.dropBlanks (h : Trails s t) : Trails (dropBlanks s) (dropBlanks t) := by
  rcases h with rfl | rfl
  · exact .inl rfl
  · rw [dropBlanks_append_return]
    split
    · next hs => exact .inl (dropBlanks_of_allBlank hs).symm
    · exact .inr rfl

lemma Trails.strip (h : Trails s t) : strip t = strip s := by
  rcases h with rfl | rfl
  · rfl
  · exact strip_append_of_allBlank (by decide)

lemma allBlank_of_trails (h : Trails s t) : allBlank t = allBlank s := by
  rcases h with rfl | rfl
  · rfl
  · rw [allBlank, List.all_append, ← allBlank]
    exact Bool.and_true _

lemma head?_any_of_trails {p : Char → Bool} (h : Trails s t) (hreturn : p '\r' = false) :
    t.head?.any p = s.head?.any p := by
  rcases h with rfl | rfl
  · rfl
  · cases s with
    | nil => simp [hreturn]
    | cons c s => rfl

lemma atBoundary_of_trails (h : Trails s t) (before : Option Char) :
    atBoundary before t = atBoundary before s := by
  rw [atBoundary, atBoundary, head?_any_of_trails h (by decide +kernel)]

/-- A reader that finds something in a line with a return where it does in the line without. -/
def Respects (R : α → α → Prop) (m : List Char → Option α) : Prop :=
  ∀ s, Option.Rel R (m s) (m (s ++ ['\r']))

/-- A reader that also leaves over the same, but for the return. -/
abbrev PassesReturn (m : Matcher) : Prop := Respects Trails m

lemma isSome_eq_of_rel {R : α → α → Prop} {a b : Option α} (h : Option.Rel R a b) :
    b.isSome = a.isSome := by
  cases h <;> rfl

namespace Respects

variable {R : α → α → Prop} {f : List Char → Option α}

lemma of_trails (hf : Respects R f) (hrefl : ∀ a, R a a) (h : Trails s t) :
    Option.Rel R (f s) (f t) := by
  rcases h with rfl | rfl
  · cases f t with
    | none => exact .none
    | some a => exact .some (hrefl a)
  · exact hf s

lemma isSome_eq (hf : Respects R f) (s : List Char) :
    (f (s ++ ['\r'])).isSome = (f s).isSome := isSome_eq_of_rel (hf s)

protected lemma bind (hm : PassesReturn m) (hf : Respects R f) (hrefl : ∀ a, R a a) :
    Respects R fun s => (m s).bind f := by
  intro s
  have hs := hm s
  dsimp only
  generalize m s = a, m (s ++ ['\r']) = b at hs
  cases hs with
  | none => exact .none
  | some h => exact hf.of_trails hrefl h

protected lemma map {R' : β → β → Prop} {g : α → β} (hf : Respects R f)
    (hg : ∀ a b, R a b → R' (g a) (g b)) : Respects R' fun s => (f s).map g := by
  intro s
  have hs := hf s
  dsimp only
  generalize f s = a, f (s ++ ['\r']) = b at hs
  cases hs with
  | none => exact .none
  | some h => exact .some (hg _ _ h)

protected lemma or {g : List Char → Option α} (hf : Respects R f) (hg : Respects R g) :
    Respects R fun s => (f s).or (g s) := by
  intro s
  have hs := hf s
  dsimp only
  generalize f s = a, f (s ++ ['\r']) = b at hs
  cases hs with
  | none => exact hg s
  | some h => exact .some h

protected lemma skip (hm : PassesReturn m) (hf : Respects R f) (hrefl : ∀ a, R a a) :
    Respects R fun s => f (skip m s) := by
  intro s
  have hs := hm s
  dsimp only [skip]
  generalize m s = a, m (s ++ ['\r']) = b at hs
  cases hs with
  | none => exact hf s
  | some h => exact hf.of_trails hrefl h

protected lemma dropBlanks (hf : Respects R f) (hrefl : ∀ a, R a a) :
    Respects R fun s => f (dropBlanks s) :=
  fun s => hf.of_trails hrefl (trails_append s).dropBlanks

end Respects

/-! ### Readers of pieces -/

lemma passes_some : PassesReturn some := fun s => .some (trails_append s)

lemma passes_literal {p : List Char} (h : '\r' ∉ p) : PassesReturn (literal p) := by
  induction p with
  | nil => exact passes_some
  | cons c p ih =>
    rw [List.mem_cons, not_or] at h
    intro s
    cases s with
    | nil => simp [literal, Ne.symm h.1]
    | cons d s =>
      rw [List.cons_append, literal, literal]
      split
      · exact ih h.2 s
      · exact .none

lemma passes_word {w : List Char} (h : (w.all fun letter => !sameLetter letter '\r') = true) :
    PassesReturn (word w) := by
  induction w with
  | nil => exact passes_some
  | cons letter w ih =>
    rw [List.all_cons, Bool.and_eq_true, Bool.not_eq_true'] at h
    intro s
    cases s with
    | nil => simp [word, h.1]
    | cons d s =>
      rw [List.cons_append, word, word]
      split
      · exact ih h.2 s
      · exact .none

lemma passes_one {p : Char → Bool} (h : p '\r' = false) : PassesReturn (one p) := by
  intro s
  cases s with
  | nil => simp [one, h]
  | cons d s =>
    rw [List.cons_append, one, one]
    split
    · exact .some (trails_append s)
    · exact .none

lemma trails_dropWhile (p : Char → Bool) (s : List Char) :
    Trails (s.dropWhile p) ((s ++ ['\r']).dropWhile p) := by
  rw [List.dropWhile_append]
  split
  · next hempty =>
    rw [List.isEmpty_iff.mp hempty, List.dropWhile_cons]
    split
    · exact .inl rfl
    · exact .inr rfl
  · exact .inr rfl

/-- A run that is not empty may end in the return if nothing can be read at the end of a text. -/
lemma respects_many_bind {R : α → α → Prop} {f : List Char → Option α} (p : Char → Bool)
    (hf : Respects R f) (hrefl : ∀ a, R a a) (hnil : f [] = none) :
    Respects R fun s => (many p s).bind f := by
  intro s
  cases s with
  | nil =>
    cases hp : p '\r' <;> simp [many, hp, hnil]
  | cons c s =>
    dsimp only
    rw [List.cons_append, many, many]
    split
    · exact hf.of_trails hrefl (trails_dropWhile p s)
    · exact .none

lemma respects_blanks_bind {R : α → α → Prop} {f : List Char → Option α} (hf : Respects R f)
    (hrefl : ∀ a, R a a) (hnil : f [] = none) : Respects R fun s => (blanks s).bind f := by
  intro s
  cases s with
  | nil => simp [blanks, isBlank_return, dropBlanks, hnil]
  | cons c s =>
    dsimp only
    rw [List.cons_append, blanks, blanks]
    split
    · exact hf.of_trails hrefl (trails_append s).dropBlanks
    · exact .none

lemma passes_many {p : Char → Bool} (h : p '\r' = false) : PassesReturn (many p) := by
  intro s
  cases s with
  | nil => simp [many, h]
  | cons c s =>
    rw [List.cons_append, many, many]
    split
    · exact .some (trails_dropWhile p s)
    · exact .none

lemma skip_of_trails (hm : PassesReturn m) (h : Trails s t) : Trails (skip m s) (skip m t) := by
  have hs := hm.of_trails Trails.refl h
  rw [skip, skip]
  generalize m s = a, m t = b at hs
  cases hs with
  | none => exact h
  | some hrest => exact hrest

/-- Blanks stand behind a piece whether or not a return follows, unless nothing else does. -/
lemma bind_blanks_of_trails {a b : Option (List Char)} (h : Option.Rel Trails a b)
    (hne : a ≠ some []) : Option.Rel Trails (a.bind blanks) (b.bind blanks) := by
  cases h with
  | none => exact .none
  | @some s t hrest =>
    rcases hrest with rfl | rfl
    · cases hblanks : blanks t with
      | none => simp [hblanks]
      | some rest => simpa [hblanks] using Trails.refl rest
    · cases s with
      | nil => exact absurd rfl hne
      | cons c s =>
        rw [Option.bind_some, Option.bind_some, List.cons_append, blanks, blanks]
        split
        · exact .some (trails_append s).dropBlanks
        · exact .none

/-! ### Searching -/

lemma startsWith_append_return {m : Matcher} {R : List Char → List Char → Prop} (h : Respects R m)
    (s : List Char) : startsWith m (s ++ ['\r']) = startsWith m s := h.isSome_eq s

lemma occurs_append_return {R : List Char → List Char → Prop} (h : Respects R m) (s : List Char) :
    occurs m (s ++ ['\r']) = occurs m s := by
  induction s with
  | nil =>
    have hend : startsWith m ['\r'] = startsWith m [] := startsWith_append_return h []
    have hnil : occurs m [] = startsWith m [] := rfl
    have hreturn : occurs m ['\r'] = (startsWith m ['\r'] || occurs m []) := rfl
    rw [List.nil_append, hreturn, hend, hnil, Bool.or_self]
  | cons c s ih =>
    have hhere := startsWith_append_return h (c :: s)
    rw [List.cons_append] at hhere ⊢
    rw [occurs, occurs, hhere, ih]

lemma splitAtMatch_append_return {R : List Char → List Char → Prop} (h : Respects R m)
    (s : List Char) : splitAtMatch m (s ++ ['\r']) =
      (splitAtMatch m s).map fun (before, rest) => (before, rest ++ ['\r']) := by
  induction s with
  | nil =>
    have hend : startsWith m ['\r'] = startsWith m [] := startsWith_append_return h []
    rw [List.nil_append, splitAtMatch, splitAtMatch, splitAtMatch, hend]
    split <;> simp_all
  | cons c s ih =>
    have hhere := startsWith_append_return h (c :: s)
    rw [List.cons_append] at hhere ⊢
    rw [splitAtMatch, splitAtMatch, hhere, ih]
    split
    · rfl
    · cases splitAtMatch m s <;> rfl

/-- Replacing pieces that are not empty goes on to the return, which stays or is replaced with the
last of them. -/
lemma trails_replaceAll (h : PassesReturn m)
    (hshort : ∀ s rest, m s = some rest → rest.length < s.length) (replacement s : List Char) :
    Trails (replaceAll m replacement s) (replaceAll m replacement (s ++ ['\r'])) := by
  have hnil : m [] = none := by
    rw [Option.eq_none_iff_forall_ne_some]
    exact fun rest hrest => Nat.not_lt_zero _ (hshort [] rest hrest)
  fun_induction replaceAll m replacement s with
  | case1 =>
    have hreturn : m ['\r'] = none := by simpa [hnil] using h.isSome_eq []
    rw [List.nil_append, replaceAll_cons_of_none hreturn, replaceAll]
    exact trails_append []
  | case2 c tail hnone ih =>
    have hnone' : m (c :: (tail ++ ['\r'])) = none := by simpa [hnone] using h.isSome_eq (c :: tail)
    rw [List.cons_append, replaceAll_cons_of_none hnone']
    exact ih.append_left [c]
  | case3 c tail rest hrest hlength ih =>
    have hs := h (c :: tail)
    rw [hrest, List.cons_append] at hs
    cases hfound : m (c :: (tail ++ ['\r'])) with
    | none =>
      rw [hfound] at hs
      cases hs
    | some rest' =>
      rw [hfound] at hs
      cases hs with
      | some htrails =>
        have hlength' : rest'.length ≤ (tail ++ ['\r']).length :=
          Nat.le_of_lt_succ (hshort _ _ hfound)
        rw [List.cons_append, replaceAll, hfound]
        dsimp only
        rw [if_pos hlength']
        refine Trails.append_left ?_ replacement
        rcases htrails with rfl | rfl
        · exact .refl _
        · exact ih
  | case4 c tail rest hrest hlength ih =>
    exact absurd (Nat.le_of_lt_succ (hshort _ _ hrest)) hlength

lemma occurs_of_trails (hm : PassesReturn m) (h : Trails s t) : occurs m t = occurs m s := by
  rcases h with rfl | rfl
  · rfl
  · exact occurs_append_return hm s

lemma replaceAll_of_trails (hm : PassesReturn m)
    (hshort : ∀ s rest, m s = some rest → rest.length < s.length) (h : Trails s t) :
    Trails (replaceAll m [' '] s) (replaceAll m [' '] t) := by
  rcases h with rfl | rfl
  · exact .refl _
  · exact trails_replaceAll hm hshort [' '] s

end QuizPreflight.Text
