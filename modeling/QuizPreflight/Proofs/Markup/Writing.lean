import Mathlib.Data.List.Infix
import QuizPreflight.Markup.Html
import QuizPreflight.Proofs.Markup.Nesting

/-!
# What is written of an element

The inner content of an element shows everything that stands in it: its text, and of each element
at any depth below it the tag after a bracket, the text, the tail and the values of its attributes
in quotes. No part is cut up by what is written around it.
-/
namespace QuizPreflight.Markup

open Element

/-- The parts of an element stand in a text. -/
structure Shows (s : List Char) (e : Element) : Prop where
  tag : '<' :: e.tag.toList <:+: s
  text : e.text.toList <:+: s
  tail : e.tail.toList <:+: s
  values : ∀ a ∈ e.attributes, quoteValue a.2.toList <:+: s

variable {s t : List Char} {e x : Element} {es : List Element} {a : String × String}

/-- What stands in the first tag of an element. -/
def Element.opening (e : Element) : List Char :=
  e.tag.toList ++ e.attributes.flatMap writeAttribute

/-- An element with its tags, without its tail. -/
def Element.written (e : Element) : List Char :=
  if e.innerChars.isEmpty then '<' :: (e.opening ++ ['/', '>'])
  else '<' :: (e.opening ++ '>' :: (e.innerChars ++ '<' :: '/' :: (e.tag.toList ++ ['>'])))

lemma innerChars_eq (e : Element) : e.innerChars = e.text.toList ++ writeAll e.children := by
  cases e
  rfl

lemma writeAll_cons (e : Element) (es : List Element) :
    writeAll (e :: es) = e.written ++ (e.tail.toList ++ writeAll es) := by
  obtain ⟨tag, attributes, text, children, tail⟩ := e
  rw [Element.written]
  split
  · next h =>
    have hempty : (text.toList ++ writeAll children).isEmpty = true := h
    rw [writeAll, if_pos hempty]
    simp [Element.opening, Element.tag, Element.attributes, Element.tail]
  · next h =>
    have hne : ¬(text.toList ++ writeAll children).isEmpty = true := h
    rw [writeAll, if_neg hne]
    simp [Element.opening, Element.tag, Element.attributes, Element.tail, innerChars]

lemma written_prefix_writeAll (e : Element) (es : List Element) :
    e.written <+: writeAll (e :: es) := by
  rw [writeAll_cons]
  exact List.prefix_append _ _

/-- What is written of an element begins with its tag and its attributes. -/
lemma opening_prefix_writeAll (e : Element) (es : List Element) :
    '<' :: e.opening <+: writeAll (e :: es) := by
  refine List.IsPrefix.trans ?_ (written_prefix_writeAll e es)
  rw [Element.written]
  split <;> exact (List.prefix_cons_inj '<').mpr (List.prefix_append _ _)

lemma innerChars_infix_writeAll (e : Element) (es : List Element) :
    e.innerChars <:+: writeAll (e :: es) := by
  refine List.IsInfix.trans ?_ (written_prefix_writeAll e es).isInfix
  rw [Element.written]
  split
  · next h =>
    rw [List.isEmpty_iff.mp h]
    exact List.nil_infix
  · exact ⟨'<' :: (e.opening ++ ['>']), '<' :: '/' :: (e.tag.toList ++ ['>']), by simp⟩

lemma tail_infix_writeAll (e : Element) (es : List Element) :
    e.tail.toList <:+: writeAll (e :: es) := by
  rw [writeAll_cons]
  exact (List.prefix_append _ _).isInfix.trans (List.suffix_append _ _).isInfix

lemma writeAll_suffix_cons (e : Element) (es : List Element) :
    writeAll es <:+ writeAll (e :: es) := by
  rw [writeAll_cons, ← List.append_assoc]
  exact List.suffix_append _ _

lemma text_prefix_innerChars (e : Element) : e.text.toList <+: e.innerChars :=
  innerChars_eq e ▸ List.prefix_append _ _

lemma writeAll_children_suffix (e : Element) : writeAll e.children <:+ e.innerChars :=
  innerChars_eq e ▸ List.suffix_append _ _

lemma Shows.mono (h : Shows s e) (hs : s <:+: t) : Shows t e where
  tag := h.tag.trans hs
  text := h.text.trans hs
  tail := h.tail.trans hs
  values := fun a ha => (h.values a ha).trans hs

lemma quoteValue_infix_writeAttribute (a : String × String) :
    quoteValue a.2.toList <:+: writeAttribute a :=
  ⟨' ' :: (a.1.toList ++ ['=']), [], by simp [writeAttribute]⟩

lemma shows_head (e : Element) (es : List Element) : Shows (writeAll (e :: es)) e where
  tag := ((List.prefix_cons_inj '<').mpr (List.prefix_append _ _)).isInfix.trans
    (opening_prefix_writeAll e es).isInfix
  text := (text_prefix_innerChars e).isInfix.trans (innerChars_infix_writeAll e es)
  tail := tail_infix_writeAll e es
  values := by
    intro a ha
    have hwritten : writeAttribute a <:+: e.attributes.flatMap writeAttribute := by
      obtain ⟨before, after, hsplit⟩ := List.append_of_mem ha
      exact ⟨before.flatMap writeAttribute, after.flatMap writeAttribute, by simp [hsplit]⟩
    have hopening : e.attributes.flatMap writeAttribute <:+: '<' :: e.opening :=
      (List.suffix_append ('<' :: e.tag.toList) _).isInfix
    exact (quoteValue_infix_writeAttribute a).trans
      (hwritten.trans (hopening.trans (opening_prefix_writeAll e es).isInfix))

mutual

theorem shows_of_mem_subtree : ∀ (e : Element) (es : List Element), x ∈ e.subtree →
    Shows (writeAll (e :: es)) x
  | .mk tag attributes text children tail, es, h => by
    rw [subtree, List.mem_cons] at h
    rcases h with rfl | h
    · exact shows_head _ es
    · have hinner := writeAll_children_suffix (.mk tag attributes text children tail)
      exact (shows_of_mem_subtrees children h).mono
        (hinner.isInfix.trans (innerChars_infix_writeAll _ es))

/-- Writing some elements shows each of them and each one at any depth below them. -/
theorem shows_of_mem_subtrees : ∀ es : List Element, x ∈ subtrees es → Shows (writeAll es) x
  | [], h => by simp [subtrees] at h
  | e :: es, h => by
    rw [subtrees, List.mem_append] at h
    rcases h with h | h
    · exact shows_of_mem_subtree e es h
    · exact (shows_of_mem_subtrees es h).mono (writeAll_suffix_cons e es).isInfix

end

/-- The inner content of an element shows every element at any depth below it. -/
theorem shows_of_mem_below (h : x ∈ subtrees e.children) : Shows e.innerChars x :=
  (shows_of_mem_subtrees e.children h).mono (writeAll_children_suffix e).isInfix

/-! ### Characters -/

section Characters

variable {P : Char → Prop}

/-- What holds of the characters of an element's first tag, of its text and of its tail. -/
structure Element.Consists (P : Char → Prop) (e : Element) : Prop where
  opening : ∀ c ∈ e.opening, P c
  text : ∀ c ∈ e.text.toList, P c
  tail : ∀ c ∈ e.tail.toList, P c

lemma forall_mem_written (hmarks : P '<' ∧ P '>' ∧ P '/') (he : e.Consists P)
    (hinner : ∀ c ∈ e.innerChars, P c) : ∀ c ∈ e.written, P c := by
  obtain ⟨hless, hgreater, hslash⟩ := hmarks
  obtain ⟨htag, -⟩ := List.forall_mem_append.mp he.opening
  rw [Element.written]
  split <;> simp only [List.forall_mem_cons, List.forall_mem_append]
  · exact ⟨hless, he.opening, hslash, hgreater, List.forall_mem_nil _⟩
  · exact ⟨hless, he.opening, hgreater, hinner, hless, hslash, htag, hgreater, List.forall_mem_nil _⟩

mutual

lemma forall_mem_innerChars (hmarks : P '<' ∧ P '>' ∧ P '/') : ∀ e : Element,
    (∀ c ∈ e.text.toList, P c) → (∀ y ∈ subtrees e.children, y.Consists P) →
    ∀ c ∈ e.innerChars, P c
  | .mk _ _ _ children _, htext, hbelow => by
    rw [innerChars]
    exact List.forall_mem_append.mpr ⟨htext, forall_mem_writeAll hmarks children hbelow⟩

/-- Written elements consist of what their parts consist of and of the marks around tags. -/
lemma forall_mem_writeAll (hmarks : P '<' ∧ P '>' ∧ P '/') : ∀ es : List Element,
    (∀ y ∈ subtrees es, y.Consists P) → ∀ c ∈ writeAll es, P c
  | [], _ => by simp [writeAll]
  | e :: es, h => by
    rw [subtrees, List.forall_mem_append, subtree_eq, List.forall_mem_cons] at h
    obtain ⟨⟨he, hbelow⟩, hes⟩ := h
    have hinner := forall_mem_innerChars hmarks e he.text hbelow
    rw [writeAll_cons]
    exact List.forall_mem_append.mpr ⟨forall_mem_written hmarks he hinner,
      List.forall_mem_append.mpr ⟨he.tail, forall_mem_writeAll hmarks es hes⟩⟩

end

end Characters

end QuizPreflight.Markup
