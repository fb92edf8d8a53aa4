import Mathlib.Data.List.DropRight
import QuizPreflight.Proofs.Text.Lines
import QuizPreflight.Proofs.Text.Matching

/-!
# Trimmed texts

A text that neither starts nor ends with a blank is left as it is by trimming. What is read at the
front of a text that ends in no blank is the same whether or not a blank and more follow it.
-/
namespace QuizPreflight.Text

variable {s t rest : List Char} {c d : Char}

/-! ### Ends of a text -/

def StartsPlain (s : List Char) : Prop := ∀ c ∈ s.head?, isBlank c = false

def EndsPlain (s : List Char) : Prop := ∀ c ∈ s.getLast?, isBlank c = false

lemma dropBlanks_eq_self_iff : dropBlanks s = s ↔ StartsPlain s := by
  cases s with
  | nil => simp [dropBlanks, StartsPlain]
  | cons c s => simp [dropBlanks, StartsPlain, List.dropWhile_eq_self_iff]

lemma dropBlanksEnd_eq_self_iff : dropBlanksEnd s = s ↔ EndsPlain s := by
  have hself := List.rdropWhile_eq_self_iff (p := isBlank) (l := s)
  rw [dropBlanksEnd, ← List.rdropWhile, hself, EndsPlain]
  cases s using List.reverseRecOn <;> simp

lemma dropBlanks_of_allBlank (h : allBlank s = true) : dropBlanks s = [] :=
  List.dropWhile_eq_nil_iff.mpr (List.all_eq_true.mp h)

theorem strip_eq_self_iff : strip s = s ↔ StartsPlain s ∧ EndsPlain s := by
  constructor
  · intro h
    have hend : dropBlanksEnd (dropBlanks s) <+: dropBlanks s :=
      List.rdropWhile_prefix isBlank (dropBlanks s)
    have hlength := hend.length_le
    rw [← strip, h] at hlength
    have hstart : dropBlanks s = s := (dropBlanks_suffix s).eq_of_length_le hlength
    rw [strip, hstart] at h
    exact ⟨dropBlanks_eq_self_iff.mp hstart, dropBlanksEnd_eq_self_iff.mp h⟩
  · rintro ⟨hstart, hend⟩
    rw [strip, dropBlanks_eq_self_iff.mpr hstart, dropBlanksEnd_eq_self_iff.mpr hend]

lemma strip_isInfix (s : List Char) : strip s <:+: s :=
  (List.rdropWhile_prefix isBlank (dropBlanks s)).isInfix.trans (dropBlanks_suffix s).isInfix

lemma length_strip_le (s : List Char) : (strip s).length ≤ s.length := (strip_isInfix s).length_le

lemma count_dropBlanks (hc : isBlank c = false) (s : List Char) :
    (dropBlanks s).count c = s.count c := by
  have hnone : (s.takeWhile isBlank).count c = 0 := by
    rw [List.count_eq_zero]
    intro hmem
    rw [List.mem_takeWhile_imp hmem] at hc
    cases hc
  calc (dropBlanks s).count c = (s.takeWhile isBlank).count c + (s.dropWhile isBlank).count c := by
        rw [hnone, Nat.zero_add, dropBlanks]
    _ = s.count c := by rw [← List.count_append, List.takeWhile_append_dropWhile]

/-- Trimming removes nothing but blanks. -/
lemma count_strip (hc : isBlank c = false) (s : List Char) : (strip s).count c = s.count c := by
  have hend := count_dropBlanks hc (dropBlanks s).reverse
  rw [strip, dropBlanksEnd, List.count_reverse]
  exact hend.trans (List.count_reverse.trans (count_dropBlanks hc s))

lemma strip_strip (s : List Char) : strip (strip s) = strip s := by
  have hstart : StartsPlain (dropBlanks s) :=
    dropBlanks_eq_self_iff.mp (List.dropWhile_idempotent isBlank s)
  have hprefix : strip s <+: dropBlanks s := List.rdropWhile_prefix isBlank (dropBlanks s)
  refine strip_eq_self_iff.mpr ⟨fun c hc => hstart c ?_, ?_⟩
  · obtain ⟨rest, hrest⟩ := List.head?_eq_some_iff.mp hc
    obtain ⟨after, hafter⟩ := hprefix
    rw [← hafter, hrest]
    rfl
  · exact dropBlanksEnd_eq_self_iff.mp (List.rdropWhile_idempotent isBlank (dropBlanks s))

lemma startsPlain_cons (h : isBlank c = false) : StartsPlain (c :: s) := by
  simpa [StartsPlain] using h

lemma StartsPlain.append (h : StartsPlain s) (hne : s ≠ []) (t : List Char) :
    StartsPlain (s ++ t) := by
  rwa [StartsPlain, List.head?_append_of_ne_nil s hne]

lemma EndsPlain.append (h : EndsPlain t) (hne : t ≠ []) (s : List Char) : EndsPlain (s ++ t) := by
  rwa [EndsPlain, List.getLast?_append_of_ne_nil s hne]

lemma EndsPlain.of_suffix (h : EndsPlain s) (hrest : rest <:+ s) : EndsPlain rest := by
  obtain ⟨before, rfl⟩ := hrest
  cases rest with
  | nil => simp [EndsPlain]
  | cons c rest =>
    rwa [EndsPlain, List.getLast?_append_of_ne_nil before (List.cons_ne_nil c rest)] at h

lemma dropBlanks_append_of_mem (hmem : c ∈ s) (h : isBlank c = false) (t : List Char) :
    dropBlanks (s ++ t) = dropBlanks s ++ t := by
  have hdrop : (s.dropWhile isBlank).isEmpty = false := by
    rw [← Bool.not_eq_true, List.isEmpty_iff, List.dropWhile_eq_nil_iff]
    intro hall
    rw [hall c hmem] at h
    cases h
  rw [dropBlanks, List.dropWhile_append, hdrop]
  rfl

lemma dropBlanksEnd_append_of_mem (hmem : c ∈ t) (h : isBlank c = false) (s : List Char) :
    dropBlanksEnd (s ++ t) = s ++ dropBlanksEnd t := by
  have hdrop := dropBlanks_append_of_mem (List.mem_reverse.mpr hmem) h s.reverse
  rw [dropBlanks, dropBlanks] at hdrop
  rw [dropBlanksEnd, List.reverse_append, hdrop, List.reverse_append, List.reverse_reverse,
    dropBlanksEnd]

lemma dropBlanks_append (h : EndsPlain s) (hne : s ≠ []) (t : List Char) :
    dropBlanks (s ++ t) = dropBlanks s ++ t :=
  dropBlanks_append_of_mem (List.getLast_mem hne) (h _ (List.getLast?_eq_some_getLast hne)) t

/-- What stands between two texts that are not blank stays when blanks are trimmed off. -/
lemma exists_strip_append (hs : ∃ c ∈ s, isBlank c = false)
    (ht : ∃ d ∈ t, isBlank d = false) (between : List Char) :
    ∃ s' t', strip (s ++ (between ++ t)) = s' ++ (between ++ t') := by
  obtain ⟨c, hc, hcblank⟩ := hs
  obtain ⟨d, hd, hdblank⟩ := ht
  refine ⟨dropBlanks s, dropBlanksEnd t, ?_⟩
  rw [strip, dropBlanks_append_of_mem hc hcblank, ← List.append_assoc,
    dropBlanksEnd_append_of_mem hd hdblank, List.append_assoc]

lemma strip_append_blank (hs : strip s = s) (hne : s ≠ []) (hc : isBlank c = true) :
    strip (s ++ [c]) = s := by
  obtain ⟨hstart, hend⟩ := strip_eq_self_iff.mp hs
  have hblank : dropBlanksEnd (s ++ [c]) = dropBlanksEnd s :=
    List.rdropWhile_concat_pos isBlank s c hc
  rw [strip, dropBlanks_append hend hne, dropBlanks_eq_self_iff.mpr hstart, hblank,
    dropBlanksEnd_eq_self_iff.mpr hend]

/-- A text between trimmed ones is trimmed with them. -/
lemma strip_append (hs : strip s = s) (hsne : s ≠ []) (ht : strip t = t) (htne : t ≠ [])
    (between : List Char) : strip (s ++ between ++ t) = s ++ between ++ t := by
  rw [strip_eq_self_iff] at hs ht ⊢
  rw [List.append_assoc]
  exact ⟨hs.1.append hsne _, (ht.2.append htne between).append (by simp [htne]) s⟩

/-- Lines that are trimmed make a trimmed text. -/
lemma strip_joinLines {line : List Char} {lines : List (List Char)}
    (h : ∀ l ∈ line :: lines, strip l = l ∧ l ≠ []) :
    strip (joinLines (line :: lines)) = joinLines (line :: lines) ∧
      joinLines (line :: lines) ≠ [] := by
  induction lines generalizing line with
  | nil => exact h line (List.mem_singleton_self line)
  | cons next lines ih =>
    obtain ⟨hline, hlines⟩ := List.forall_mem_cons.mp h
    obtain ⟨hstrip, hne⟩ := ih hlines
    rw [joinLines_cons_cons, ← List.singleton_append, ← List.append_assoc]
    exact ⟨strip_append hline.1 hline.2 hstrip hne ['\n'], by simp⟩

/-! ### Pieces before a tail -/

lemma takeWhile_append_cons {p : Char → Bool} (h : p d = false) (s t : List Char) :
    (s ++ d :: t).takeWhile p = s.takeWhile p := by
  simp [List.takeWhile_append, h]
  intro hlength
  exact (List.IsPrefix.eq_of_length (List.takeWhile_prefix p) hlength).symm

lemma dropWhile_append_cons {p : Char → Bool} (h : p d = false) (s t : List Char) :
    (s ++ d :: t).dropWhile p = s.dropWhile p ++ d :: t := by
  rw [List.dropWhile_append]
  split
  · next hnil =>
    rw [List.isEmpty_iff.mp hnil, List.dropWhile_cons_of_neg (by simp [h]), List.nil_append]
  · rfl

/-- A tail behind a text makes no difference to the piece that is read from the text. -/
structure Ignores (t : List Char) (m : Matcher) : Prop where
  suffix : ∀ s rest, m s = some rest → rest <:+ s
  append : ∀ s, EndsPlain s → m (s ++ t) = (m s).map (· ++ t)

lemma literal_append_cons {p : List Char} (h : d ∉ p) (s t : List Char) :
    literal p (s ++ d :: t) = (literal p s).map (· ++ d :: t) := by
  induction p generalizing s with
  | nil => rfl
  | cons c p ih =>
    rw [List.mem_cons, not_or] at h
    cases s with
    | nil => simp [literal, Ne.symm h.1]
    | cons e s =>
      rw [List.cons_append, literal, literal]
      split
      · exact ih h.2 s
      · rfl

lemma prefix_of_append_cons {p : List Char} (h : d ∉ p) (hp : p <+: s ++ d :: t) : p <+: s := by
  obtain ⟨rest, hrest⟩ := hp
  have hliteral := literal_append p rest
  rw [hrest, literal_append_cons h] at hliteral
  obtain ⟨after, hafter, -⟩ := Option.map_eq_some_iff.mp hliteral
  exact ⟨after, (eq_append_of_literal hafter).symm⟩

lemma ignores_literal {p : List Char} (h : d ∉ p) : Ignores (d :: t) (literal p) :=
  ⟨fun _ _ => suffix_of_literal, fun s _ => literal_append_cons h s t⟩

lemma word_append_cons {w : List Char} (h : (w.all fun letter => !sameLetter letter d) = true)
    (s t : List Char) : word w (s ++ d :: t) = (word w s).map (· ++ d :: t) := by
  induction w generalizing s with
  | nil => rfl
  | cons letter w ih =>
    rw [List.all_cons, Bool.and_eq_true, Bool.not_eq_true'] at h
    obtain ⟨hletter, hw⟩ := h
    cases s with
    | nil => simp [word, hletter]
    | cons e s =>
      rw [List.cons_append, word, word]
      split
      · exact ih hw s
      · rfl

lemma ignores_word {w : List Char} (h : (w.all fun letter => !sameLetter letter d) = true) :
    Ignores (d :: t) (word w) :=
  ⟨fun _ _ => suffix_of_word, fun s _ => word_append_cons h s t⟩

lemma ignores_many {p : Char → Bool} (h : p d = false) : Ignores (d :: t) (many p) := by
  refine ⟨fun _ _ => suffix_of_many, fun s _ => ?_⟩
  cases s with
  | nil => simp [many, h]
  | cons c s =>
    rw [List.cons_append, many, many, dropWhile_append_cons h]
    split <;> rfl

namespace Ignores

variable {m k : Matcher}

protected lemma bind (hm : Ignores t m) (hk : Ignores t k) : Ignores t fun s => (m s).bind k := by
  refine ⟨fun s rest h => ?_, fun s hs => ?_⟩
  · obtain ⟨after, hafter, hrest⟩ := Option.bind_eq_some_iff.mp h
    exact (hk.suffix after rest hrest).trans (hm.suffix s after hafter)
  · rw [hm.append s hs]
    cases hafter : m s with
    | none => rfl
    | some after => exact hk.append after (hs.of_suffix (hm.suffix s after hafter))

protected lemma or (hm : Ignores t m) (hk : Ignores t k) : Ignores t fun s => (m s).or (k s) := by
  refine ⟨fun s rest h => ?_, fun s hs => ?_⟩
  · rcases Option.or_eq_some_iff.mp h with h | ⟨-, h⟩
    · exact hm.suffix s rest h
    · exact hk.suffix s rest h
  · rw [hm.append s hs, hk.append s hs]
    cases m s <;> rfl

protected lemma skip (hm : Ignores t m) (hk : Ignores t k) : Ignores t fun s => k (skip m s) := by
  refine ⟨fun s rest h => (hk.suffix _ rest h).trans (skip_suffix hm.suffix s), fun s hs => ?_⟩
  rw [← hk.append _ (hs.of_suffix (skip_suffix hm.suffix s)), skip, skip, hm.append s hs]
  cases m s <;> rfl

lemma some (t : List Char) : Ignores t some := by
  refine ⟨fun s rest h => ?_, fun s _ => rfl⟩
  cases h
  exact List.suffix_rfl

/-- Blanks may be passed over where nothing is read at the end of the text or in the tail. -/
lemma dropBlanks (hk : Ignores t k) (hnil : k [] = none) (ht : k (dropBlanks t) = none) :
    Ignores t fun s => k (dropBlanks s) := by
  refine ⟨fun s rest h => (hk.suffix _ rest h).trans (dropBlanks_suffix s), fun s hs => ?_⟩
  cases s with
  | nil =>
    have hempty : Text.dropBlanks [] = [] := rfl
    rw [List.nil_append, ht, hempty, hnil, Option.map_none]
  | cons c s =>
    rw [dropBlanks_append hs (List.cons_ne_nil c s)]
    exact hk.append _ (hs.of_suffix (dropBlanks_suffix _))

end Ignores

end QuizPreflight.Text
