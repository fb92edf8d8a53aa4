import Mathlib.Data.List.Basic
import QuizPreflight.Text.Character

/-!
# Lines of a text

A text is cut at a separator wherever it stands, so cutting distributes over texts put together
with one between them, and pieces without a separator come back from what they are joined to.
-/
namespace QuizPreflight.Text

variable {sep : Char}

lemma splitOn_cons_of_ne {c : Char} (h : c ≠ sep) {s piece : List Char} {pieces : List (List Char)}
    (hs : splitOn sep s = piece :: pieces) : splitOn sep (c :: s) = (c :: piece) :: pieces := by
  rw [splitOn, if_neg h, hs]

lemma exists_splitOn_eq_cons (sep : Char) (s : List Char) :
    ∃ piece pieces, splitOn sep s = piece :: pieces :=
  List.exists_cons_of_ne_nil (splitOn_ne_nil sep s)

theorem splitOn_append_cons (s t : List Char) :
    splitOn sep (s ++ sep :: t) = splitOn sep s ++ splitOn sep t := by
  induction s with
  | nil => simp [splitOn]
  | cons c s ih =>
    by_cases hc : c = sep
    · rw [List.cons_append, splitOn, if_pos hc, ih, splitOn, if_pos hc, List.cons_append]
    · obtain ⟨piece, pieces, hs⟩ := exists_splitOn_eq_cons sep s
      rw [hs, List.cons_append] at ih
      rw [List.cons_append, splitOn_cons_of_ne hc ih, splitOn_cons_of_ne hc hs, List.cons_append]

theorem length_splitOn (sep : Char) (s : List Char) :
    (splitOn sep s).length = s.count sep + 1 := by
  induction s with
  | nil => rfl
  | cons c s ih =>
    by_cases hc : c = sep
    · rw [splitOn, if_pos hc, List.length_cons, ih, hc, List.count_cons_self]
    · obtain ⟨piece, pieces, hs⟩ := exists_splitOn_eq_cons sep s
      rw [hs, List.length_cons] at ih
      rw [splitOn_cons_of_ne hc hs, List.length_cons, ih, List.count_cons_of_ne hc]

lemma splitOn_of_notMem {s : List Char} (h : sep ∉ s) : splitOn sep s = [s] := by
  induction s with
  | nil => rfl
  | cons c s ih =>
    rw [List.mem_cons, not_or] at h
    obtain ⟨hc, hs⟩ := h
    exact splitOn_cons_of_ne (Ne.symm hc) (ih hs)

/-- A piece is made of the characters of the text, without the separator. -/
lemma mem_of_mem_piece {s piece : List Char} (h : piece ∈ splitOn sep s) {c : Char}
    (hc : c ∈ piece) : c ∈ s ∧ c ≠ sep := by
  induction s generalizing piece with
  | nil =>
    obtain rfl : piece = [] := List.mem_singleton.mp h
    cases hc
  | cons d s ih =>
    by_cases hd : d = sep
    · rw [splitOn, if_pos hd, List.mem_cons] at h
      rcases h with rfl | h
      · cases hc
      · exact ⟨List.mem_cons_of_mem d (ih h hc).1, (ih h hc).2⟩
    · obtain ⟨first, pieces, hs⟩ := exists_splitOn_eq_cons sep s
      rw [splitOn_cons_of_ne hd hs, List.mem_cons] at h
      rw [hs] at ih
      rcases h with rfl | h
      · rcases List.mem_cons.mp hc with rfl | hc
        · exact ⟨List.mem_cons_self, hd⟩
        · have hfirst := ih List.mem_cons_self hc
          exact ⟨List.mem_cons_of_mem d hfirst.1, hfirst.2⟩
      · have hpiece := ih (List.mem_cons_of_mem first h) hc
        exact ⟨List.mem_cons_of_mem d hpiece.1, hpiece.2⟩

lemma newline_notMem_of_mem_splitLines {s line : List Char} (h : line ∈ splitLines s) :
    '\n' ∉ line := fun hmem => (mem_of_mem_piece h hmem).2 rfl

lemma joinWith_cons_cons (piece next : List Char) (pieces : List (List Char)) :
    joinWith [sep] (piece :: next :: pieces) = piece ++ sep :: joinWith [sep] (next :: pieces) := by
  simp only [joinWith, List.append_assoc, List.singleton_append]

/-- Pieces without a separator come back from what they are joined to. -/
theorem splitOn_joinWith {pieces : List (List Char)} (hne : pieces ≠ [])
    (h : ∀ piece ∈ pieces, sep ∉ piece) : splitOn sep (joinWith [sep] pieces) = pieces := by
  induction pieces with
  | nil => exact absurd rfl hne
  | cons piece pieces ih =>
    obtain ⟨hpiece, hpieces⟩ := List.forall_mem_cons.mp h
    cases pieces with
    | nil => exact splitOn_of_notMem hpiece
    | cons next pieces =>
      rw [joinWith_cons_cons, splitOn_append_cons, splitOn_of_notMem hpiece, ih (by simp) hpieces,
        List.singleton_append]

lemma joinLines_cons_cons (line next : List Char) (lines : List (List Char)) :
    joinLines (line :: next :: lines) = line ++ '\n' :: joinLines (next :: lines) :=
  joinWith_cons_cons line next lines

lemma joinLines_append {lines below : List (List Char)} (hlines : lines ≠ [])
    (hbelow : below ≠ []) :
    joinLines (lines ++ below) = joinLines lines ++ '\n' :: joinLines below := by
  obtain ⟨next, rest, rfl⟩ := List.exists_cons_of_ne_nil hbelow
  induction lines with
  | nil => exact absurd rfl hlines
  | cons line lines ih =>
    cases lines with
    | nil => exact joinLines_cons_cons line next rest
    | cons second lines =>
      rw [List.cons_append, List.cons_append, joinLines_cons_cons, joinLines_cons_cons,
        ← List.cons_append, ih (by simp), List.append_assoc, List.cons_append]

lemma subset_joinLines {line : List Char} {lines : List (List Char)} (h : line ∈ lines) :
    line ⊆ joinLines lines := by
  induction lines with
  | nil => cases h
  | cons first lines ih =>
    cases lines with
    | nil =>
      rw [List.mem_singleton.mp h]
      exact List.Subset.refl first
    | cons next lines =>
      rw [joinLines_cons_cons]
      rcases List.mem_cons.mp h with rfl | h
      · exact List.subset_append_left _ _
      · exact fun c hc => List.mem_append_right _ (List.mem_cons_of_mem _ (ih h hc))

theorem splitLines_joinLines {lines : List (List Char)} (hne : lines ≠ [])
    (h : ∀ line ∈ lines, '\n' ∉ line) : splitLines (joinLines lines) = lines :=
  splitOn_joinWith hne h

end QuizPreflight.Text
