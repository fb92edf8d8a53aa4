import Mathlib.Data.List.Basic
import QuizPreflight.Markup.Html

/-!
# Escaped values

An attribute value is written character by character: as the character itself, or as one of a few
references. Between the quotes stands neither a quote of their kind nor an angle bracket.
-/
namespace QuizPreflight.Markup

/-- The names of the references that a value is written with, and what they stand for. -/
def valueReferences : List (List Char × Char) :=
  [("amp".toList, '&'), ("lt".toList, '<'), ("gt".toList, '>'), ("#10".toList, '\n'),
   ("#13".toList, '\r'), ("#9".toList, '\t'), ("quot".toList, '"')]

/-- The characters that these references are written with. -/
def referenceChars : List Char := valueReferences.flatMap fun r => '&' :: (r.1 ++ [';'])

/-- Characters that are never written as they are, whatever the quotes. -/
def mustEscape : List Char := ['&', '<', '>', '\n', '\r', '\t']

/-- What one character is written as between two quotes. -/
inductive WritesChar (quote : Char) : Char → List Char → Prop
  | plain {c : Char} (hc : c ∉ mustEscape) (hquote : c ≠ quote) : WritesChar quote c [c]
  | reference {name : List Char} {c : Char} (h : (name, c) ∈ valueReferences) :
      WritesChar quote c ('&' :: (name ++ [';']))

/-- What a value is written as between two quotes. -/
inductive WritesValue (quote : Char) : List Char → List Char → Prop
  | nil : WritesValue quote [] []
  | cons {c : Char} {value piece written : List Char} (hc : WritesChar quote c piece)
      (h : WritesValue quote value written) : WritesValue quote (c :: value) (piece ++ written)

section Escapes

variable {quote c : Char} {value written : List Char}

lemma escapeValueChar_of_mem (h : c ∈ mustEscape) :
    ∃ name, (name, c) ∈ valueReferences ∧ escapeValueChar c = '&' :: (name ++ [';']) := by
  simp only [mustEscape, List.mem_cons, List.not_mem_nil, or_false] at h
  rcases h with rfl | rfl | rfl | rfl | rfl | rfl
  · exact ⟨"amp".toList, by decide, rfl⟩
  · exact ⟨"lt".toList, by decide, rfl⟩
  · exact ⟨"gt".toList, by decide, rfl⟩
  · exact ⟨"#10".toList, by decide, rfl⟩
  · exact ⟨"#13".toList, by decide, rfl⟩
  · exact ⟨"#9".toList, by decide, rfl⟩

lemma escapeValueChar_of_not_mem (h : c ∉ mustEscape) : escapeValueChar c = [c] := by
  simp only [mustEscape, List.mem_cons, List.not_mem_nil, or_false, not_or] at h
  simp [escapeValueChar, h]

/-- A character is escaped to one that stands for itself or to a reference. -/
lemma writesChar_escapeValueChar (h : c ≠ quote ∨ c ∈ mustEscape) :
    WritesChar quote c (escapeValueChar c) := by
  by_cases hc : c ∈ mustEscape
  · obtain ⟨name, hname, heq⟩ := escapeValueChar_of_mem hc
    exact heq ▸ .reference hname
  · rw [escapeValueChar_of_not_mem hc]
    exact .plain hc (h.resolve_right hc)

lemma writesValue_flatMap {f : Char → List Char} (h : ∀ c ∈ value, WritesChar quote c (f c)) :
    WritesValue quote value (value.flatMap f) := by
  induction value with
  | nil => exact .nil
  | cons c value ih =>
    obtain ⟨hc, hvalue⟩ := List.forall_mem_cons.mp h
    exact .cons hc (ih hvalue)

/-- A quote that escaping leaves out did not stand in the value. -/
lemma ne_of_not_contains (hquote : quote ∉ mustEscape)
    (h : (value.flatMap escapeValueChar).contains quote = false) (hc : c ∈ value) : c ≠ quote := by
  rintro rfl
  have hmem : c ∈ value.flatMap escapeValueChar :=
    List.mem_flatMap.mpr ⟨c, hc, by simp [escapeValueChar_of_not_mem hquote]⟩
  rw [List.contains_eq_mem, decide_eq_false_iff_not] at h
  exact h hmem

lemma escapeQuote_of_ne (h : c ≠ '"') : escapeQuote c = [c] := if_neg h

lemma writesChar_escapeQuote (c : Char) :
    WritesChar '"' c ((escapeValueChar c).flatMap escapeQuote) := by
  by_cases hc : c ∈ mustEscape
  · obtain ⟨name, hname, heq⟩ := escapeValueChar_of_mem hc
    have hplain : ∀ r ∈ valueReferences, ('&' :: (r.1 ++ [';'])).flatMap escapeQuote =
        '&' :: (r.1 ++ [';']) := by decide
    rw [heq, hplain _ hname]
    exact .reference hname
  · rw [escapeValueChar_of_not_mem hc, List.flatMap_singleton]
    by_cases hquote : c = '"'
    · subst hquote
      exact .reference (by decide : ("quot".toList, '"') ∈ valueReferences)
    · rw [escapeQuote_of_ne hquote]
      exact .plain hc hquote

/-- A value is written between two quotes of one kind. -/
theorem exists_quoteValue (value : List Char) :
    ∃ quote written, (quote = '"' ∨ quote = '\'') ∧
      quoteValue value = quote :: (written ++ [quote]) ∧ WritesValue quote value written := by
  unfold quoteValue
  dsimp only
  split
  · next h =>
    rw [Bool.not_eq_true'] at h
    exact ⟨'"', _, .inl rfl, rfl, writesValue_flatMap fun c hc =>
      writesChar_escapeValueChar (.inl (ne_of_not_contains (by decide) h hc))⟩
  · split
    · next h =>
      rw [Bool.not_eq_true'] at h
      exact ⟨'\'', _, .inr rfl, rfl, writesValue_flatMap fun c hc =>
        writesChar_escapeValueChar (.inl (ne_of_not_contains (by decide) h hc))⟩
    · rw [List.flatMap_assoc]
      exact ⟨'"', _, .inl rfl, rfl, writesValue_flatMap fun c _ => writesChar_escapeQuote c⟩

/-- A written character stands for itself, or belongs to a reference. -/
lemma WritesValue.mem_or (h : WritesValue quote value written) {d : Char} (hd : d ∈ written) :
    (d ∈ value ∧ d ∉ mustEscape ∧ d ≠ quote) ∨ d ∈ referenceChars := by
  induction h with
  | nil => cases hd
  | cons hc _ ih =>
    rcases List.mem_append.mp hd with hd | hd
    · cases hc with
      | plain hescape hquote =>
        obtain rfl := List.mem_singleton.mp hd
        exact .inl ⟨List.mem_cons_self, hescape, hquote⟩
      | reference hname => exact .inr (List.mem_flatMap.mpr ⟨_, hname, hd⟩)
    · exact (ih hd).imp_left fun h => ⟨List.mem_cons_of_mem _ h.1, h.2⟩

/-- What stands between the quotes: no bracket and no quote of their kind. -/
lemma WritesValue.ne_of_mem {d : Char} (h : WritesValue quote value written)
    (hquote : quote = '"' ∨ quote = '\'') (hd : d ∈ written) :
    d ≠ quote ∧ d ≠ '<' ∧ d ≠ '>' := by
  rcases h.mem_or hd with ⟨-, hescape, hne⟩ | hreference
  · refine ⟨hne, ?_, ?_⟩ <;> (rintro rfl; exact hescape (by decide))
  · have hplain : (referenceChars.all fun d => d != '"' && d != '\'' && d != '<' && d != '>') =
        true := rfl
    have hd := List.all_eq_true.mp hplain d hreference
    simp only [Bool.and_eq_true, bne_iff_ne] at hd
    exact ⟨by rcases hquote with rfl | rfl; exacts [hd.1.1.1, hd.1.1.2], hd.1.2, hd.2⟩

end Escapes

end QuizPreflight.Markup
