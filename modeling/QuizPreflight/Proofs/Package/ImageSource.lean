import QuizPreflight.Package.Manifest
import QuizPreflight.Proofs.Package.Comparison
import QuizPreflight.Proofs.Text.Character

/-!
# Images in written content

The sources of images are searched for in the written content of an element, not in its tree. Each
tag is searched on its own. What is found in it is the written value of a source attribute up to its
first quote, which is the value itself only where nothing in it has to be escaped.
-/
namespace QuizPreflight.Package

open Markup Text

/-- A quote of either kind. -/
def isQuote (c : Char) : Bool := c == '"' || c == '\''

/-- What stands in front of a source, up to its quote. -/
def sourceStart : Matcher := fun s => do
  let s := dropBlanks (← word "src".toList s)
  one isQuote (dropBlanks (← literal ['='] s))

/-- Somewhere in a text, after a character that is not part of a word, a source begins. -/
def opensSource (before : Char) : List Char → Bool
  | [] => false
  | c :: s => (!isWord before && startsWith sourceStart (c :: s)) || opensSource c s

/-- What is found of a value: its written form up to a quote. -/
def shownValue (value : String) : List Char :=
  (quoteValue value.toList).tail.takeWhile (!isQuote ·)

/-- What is found among attributes. -/
def shownIn (as : List (String × String)) : Option (List Char) :=
  as.findSome? fun a =>
    if a.1 = "src" ∧ shownValue a.2 ≠ [] then some (shownValue a.2) else none

/-- Up to the source that is found, no other name and no value is taken for one. -/
def IsClear : List (String × String) → Prop
  | [] => True
  | a :: as =>
    if a.1 = "src" then
      shownValue a.2 ≠ [] ∨
        opensSource '=' (quoteValue a.2.toList) = false ∧ IsClear as
    else opensSource ' ' (writeAttribute a) = false ∧ IsClear as

section Matching

variable {c d q before : Char} {s t rest value : List Char}

lemma sourceValue?_eq (s : List Char) : sourceValue? s = (sourceStart s).bind fun s =>
    (one isQuote (s.dropWhile (!isQuote ·))).bind fun rest =>
      if (s.takeWhile (!isQuote ·)).isEmpty then none
      else some (s.takeWhile (!isQuote ·), rest) := by
  simp only [sourceValue?, sourceStart, Option.bind_eq_bind, Option.bind_assoc]
  rfl

lemma isQuote_iff : isQuote c = true ↔ c = '"' ∨ c = '\'' := by
  simp [isQuote]

/-- Whether a source begins in front of a quote does not depend on what follows the quote. -/
lemma startsWith_sourceStart_append (hq : isQuote q = true) (s t : List Char) :
    startsWith sourceStart (s ++ q :: t) = startsWith sourceStart (s ++ [q]) := by
  have hword (t : List Char) : word "src".toList (s ++ q :: t) =
      (word "src".toList s).map (· ++ q :: t) :=
    word_append_cons (by rcases isQuote_iff.mp hq with rfl | rfl <;> rfl) s t
  have hblank : isBlank q = false := by
    rcases isQuote_iff.mp hq with rfl | rfl <;> decide
  have hsign : q ∉ ['='] := by
    rcases isQuote_iff.mp hq with rfl | rfl <;> decide
  simp only [startsWith, sourceStart, hword]
  cases word "src".toList s with
  | none => rfl
  | some after =>
    simp only [Option.map_some, Option.bind_eq_bind, Option.bind_some, dropBlanks,
      dropWhile_append_cons hblank, literal_append_cons hsign]
    cases literal ['='] (after.dropWhile isBlank) with
    | none => rfl
    | some after =>
      simp only [Option.map_some, Option.bind_some, dropWhile_append_cons hblank]
      cases after.dropWhile isBlank with
      | nil => simp [one, hq]
      | cons c s =>
        simp only [List.cons_append, one]
        split <;> rfl

lemma sourceValue?_of_head (h : sameLetter 's' c = false) (s : List Char) :
    sourceValue? (c :: s) = none := by
  simp [sourceValue?, word, h]

lemma sourceValue?_of_not_startsWith (h : startsWith sourceStart s = false) :
    sourceValue? s = none := by
  rw [startsWith, Option.isSome_eq_false_iff, Option.isNone_iff_eq_none] at h
  rw [sourceValue?_eq, h, Option.bind_none]

lemma findSource?_of_head (h : sameLetter 's' c = false) (hc : c ≠ '>') (before : Char)
    (s : List Char) : findSource? before (c :: s) = findSource? c s := by
  rw [findSource?, sourceValue?_of_head h, if_neg hc]
  simp

lemma findSource?_quote (hq : isQuote q = true) (hs : '>' ∉ s)
    (h : opensSource before (s ++ [q]) = false) (t : List Char) :
    findSource? before (s ++ q :: t) = findSource? q t := by
  induction s generalizing before with
  | nil =>
    rcases isQuote_iff.mp hq with rfl | rfl
    · exact findSource?_of_head (by decide) (by decide) before t
    · exact findSource?_of_head (by decide) (by decide) before t
  | cons c s ih =>
    rw [List.mem_cons, not_or] at hs
    rw [List.cons_append, opensSource, Bool.or_eq_false_iff] at h
    have hhere : (if isWord before then none else sourceValue? (c :: (s ++ q :: t))) = none := by
      split
      · rfl
      · next hbefore =>
        refine sourceValue?_of_not_startsWith ?_
        rw [← List.cons_append, startsWith_sourceStart_append hq]
        simpa [hbefore] using h.1
    rw [List.cons_append, findSource?, hhere, if_neg (Ne.symm hs.1), Option.none_or, ih hs.2 h.2]

def EndsInQuote (s : List Char) : Prop := ∃ before q, isQuote q = true ∧ s = before ++ [q]

/-- A text that ends in a quote is passed over where no source begins in it. -/
lemma findSource?_append (hs : EndsInQuote s) (hplain : Unbracketed s)
    (h : opensSource before s = false) (t : List Char) :
    ∃ last, findSource? before (s ++ t) = findSource? last t := by
  obtain ⟨s, q, hq, rfl⟩ := hs
  have hbracket : '>' ∉ s := fun hmem => (hplain '>' (List.mem_append_left _ hmem)).2 rfl
  refine ⟨q, ?_⟩
  rw [List.append_assoc, List.singleton_append, findSource?_quote hq hbracket h]

end Matching

/-! ### Tags -/

section Attributes

variable {before : Char} {as : List (String × String)} {a : String × String} {value : String}
  {t v rest : List Char}

/-- A written value is a quote, a text without brackets, and a quote. -/
lemma exists_written (value : String) : ∃ q written, isQuote q = true ∧
    quoteValue value.toList = q :: (written ++ [q]) ∧ Unbracketed written ∧
    shownValue value = written.takeWhile (!isQuote ·) ∧
    WritesValue q value.toList written := by
  obtain ⟨q, written, hquote, hvalue, hwrites⟩ := exists_quoteValue value.toList
  have hq : isQuote q = true := isQuote_iff.mpr hquote
  refine ⟨q, written, hq, hvalue, fun c hc => (hwrites.ne_of_mem hquote hc).2, ?_, hwrites⟩
  rw [shownValue, hvalue, List.tail_cons, takeWhile_append_cons (by simp [hq])]

/-- What follows a bracketless text. -/
def Follows (t rest : List Char) : Prop := ∃ s, Unbracketed s ∧ rest = s ++ t

/-- Behind the first quote in a written value its end follows. -/
lemma exists_one_dropWhile {q : Char} {written : List Char} (hq : isQuote q = true)
    (hwritten : Unbracketed written) (t : List Char) :
    ∃ rest, one isQuote ((written ++ q :: t).dropWhile (!isQuote ·)) = some rest ∧
      Follows t rest := by
  have hends : q ≠ '<' ∧ q ≠ '>' := by
    rcases isQuote_iff.mp hq with rfl | rfl <;> decide
  rw [dropWhile_append_cons (by simp [hq])]
  cases hafter : written.dropWhile (!isQuote ·) with
  | nil => exact ⟨t, by simp [one, hq], [], List.forall_mem_nil _, rfl⟩
  | cons c after =>
    have hc : isQuote c = true := by
      have hhead := List.head_dropWhile_not (!isQuote ·) (l := written) (by rw [hafter]; simp)
      simpa [hafter] using hhead
    have hsuffix : c :: after <:+ written := hafter ▸ List.dropWhile_suffix _
    refine ⟨after ++ q :: t, by simp [one, hc], after ++ [q], ?_, by simp⟩
    exact unbracketed_append.mpr ⟨fun d hd => hwritten d (hsuffix.subset (List.mem_cons_of_mem c hd)),
      List.forall_mem_singleton.mpr hends⟩

/-- A source attribute is found with the value that it shows, if it shows one. -/
lemma findSource?_source (value : String) (before : Char) (t : List Char) :
    if shownValue value = [] then
      findSource? before (writeAttribute ("src", value) ++ t) =
        findSource? '=' (quoteValue value.toList ++ t)
    else ∃ rest, findSource? before (writeAttribute ("src", value) ++ t) =
      some (shownValue value, rest) ∧ Follows t rest := by
  obtain ⟨q, written, hq, hvalue, hwritten, hshown, -⟩ := exists_written value
  have hstop : (fun c => !isQuote c) q = false := by simp [hq]
  have htext : writeAttribute ("src", value) ++ t =
      ' ' :: 's' :: 'r' :: 'c' :: '=' :: q :: (written ++ q :: t) := by
    simp [writeAttribute, hvalue]
  have hstart : sourceStart ('s' :: 'r' :: 'c' :: '=' :: q :: (written ++ q :: t)) =
      some (written ++ q :: t) := by
    rcases isQuote_iff.mp hq with rfl | rfl <;> rfl
  have hspace : findSource? before (writeAttribute ("src", value) ++ t) =
      findSource? ' ' ('s' :: 'r' :: 'c' :: '=' :: q :: (written ++ q :: t)) :=
    htext ▸ findSource?_of_head (by decide) (by decide) before _
  have htake := takeWhile_append_cons (p := fun c => !isQuote c) hstop written t
  have hhere := sourceValue?_eq ('s' :: 'r' :: 'c' :: '=' :: q :: (written ++ q :: t))
  rw [hstart, Option.bind_some, htake, ← hshown] at hhere
  have hblank : ¬isWord ' ' = true := by decide
  rw [hspace, findSource?, if_neg hblank, hhere]
  by_cases hempty : shownValue value = []
  · have hnone : ((one isQuote ((written ++ q :: t).dropWhile (!isQuote ·))).bind fun rest =>
        if (shownValue value).isEmpty then none else some (shownValue value, rest)) = none := by
      simp [hempty]
    rw [if_pos hempty, hnone, Option.none_or, if_neg (by decide),
      findSource?_of_head (by decide) (by decide), findSource?_of_head (by decide) (by decide),
      findSource?_of_head (by decide) (by decide), hvalue]
    simp
  · obtain ⟨rest, hrest, hfollows⟩ := exists_one_dropWhile hq hwritten t
    rw [if_neg hempty]
    refine ⟨rest, ?_, hfollows⟩
    rw [hrest, Option.bind_some, if_neg (by simpa using hempty), Option.some_or]

/-- A search ends as it should: with nothing, or with a text in front of what follows. -/
def Finds (t : List Char) : Option (List Char) → Option (List Char × List Char) → Prop
  | none, found => found = none
  | some v, found => ∃ rest, found = some (v, rest) ∧ Follows t rest

lemma Follows.of_append (h : Follows (v ++ t) rest) (hv : Unbracketed v) : Follows t rest := by
  obtain ⟨s, hs, rfl⟩ := h
  exact ⟨s ++ v, unbracketed_append.mpr ⟨hs, hv⟩, (List.append_assoc ..).symm⟩

lemma shownIn_cons (a : String × String) (as : List (String × String)) :
    shownIn (a :: as) = if a.1 = "src" ∧ shownValue a.2 ≠ [] then some (shownValue a.2)
      else shownIn as := by
  rw [shownIn, List.findSome?_cons]
  by_cases h : a.1 = "src" ∧ shownValue a.2 ≠ []
  · rw [if_pos h, if_pos h]
  · rw [if_neg h, if_neg h]
    rfl

lemma endsInQuote_quoteValue (value : String) : EndsInQuote (quoteValue value.toList) := by
  obtain ⟨q, written, hq, hvalue, -⟩ := exists_written value
  exact ⟨q :: written, q, hq, hvalue⟩

lemma endsInQuote_writeAttribute (a : String × String) : EndsInQuote (writeAttribute a) := by
  obtain ⟨before, q, hq, hvalue⟩ := endsInQuote_quoteValue a.2
  exact ⟨' ' :: (a.1.toList ++ '=' :: before), q, hq, by simp [writeAttribute, hvalue]⟩

lemma unbracketed_attributes (h : ∀ a ∈ as, Nominal a.1.toList) :
    Unbracketed (as.flatMap writeAttribute) := by
  intro c hc
  obtain ⟨a, ha, hc⟩ := List.mem_flatMap.mp hc
  exact unbracketed_writeAttribute (h a ha) c hc

/-- What stands in front of an attribute makes no difference: a blank comes first. -/
lemma findSource?_writeAttribute (a : String × String) (before : Char) (t : List Char) :
    findSource? before (writeAttribute a ++ t) = findSource? ' ' (writeAttribute a ++ t) := by
  rw [writeAttribute, List.cons_append, findSource?_of_head (by decide) (by decide),
    findSource?_of_head (by decide) (by decide)]

/-- Among clear attributes the first source that shows a value is found. -/
lemma finds_attributes (hclear : IsClear as) (hnamed : ∀ a ∈ as, Nominal a.1.toList)
    (ht : ∀ before, findSource? before t = none) (before : Char) :
    Finds t (shownIn as) (findSource? before (as.flatMap writeAttribute ++ t)) := by
  induction as generalizing before with
  | nil => exact ht before
  | cons a as ih =>
    obtain ⟨ha, hmore⟩ := List.forall_mem_cons.mp hnamed
    obtain ⟨name, value⟩ := a
    rw [List.flatMap_cons, List.append_assoc, shownIn_cons]
    rw [IsClear] at hclear
    split at hclear
    · next hname =>
      obtain rfl : name = "src" := hname
      have hsource := findSource?_source value before (as.flatMap writeAttribute ++ t)
      by_cases hempty : shownValue value = []
      · rw [if_pos hempty] at hsource
        obtain ⟨hplain, hclear⟩ := hclear.resolve_left (not_not_intro hempty)
        obtain ⟨last, hlast⟩ := findSource?_append (endsInQuote_quoteValue value)
          (unbracketed_quoteValue _) hplain (as.flatMap writeAttribute ++ t)
        rw [if_neg (fun h => h.2 hempty), hsource, hlast]
        exact ih hclear hmore last
      · rw [if_neg hempty] at hsource
        obtain ⟨rest, hfound, hfollows⟩ := hsource
        rw [if_pos ⟨rfl, hempty⟩]
        exact ⟨rest, hfound, hfollows.of_append (unbracketed_attributes hmore)⟩
    · next hname =>
      obtain ⟨last, hlast⟩ := findSource?_append (endsInQuote_writeAttribute (name, value))
        (unbracketed_writeAttribute ha) hclear.1 (as.flatMap writeAttribute ++ t)
      rw [if_neg (fun h => hname h.1), findSource?_writeAttribute, hlast]
      exact ih hclear.2 hmore last

/-- A tag that is read as the tag of an image. -/
def looksLikeImage (tag : String) : Bool :=
  ((word "img".toList tag.toList).any fun rest => !rest.head?.any isWord)

/-- What is found in the tag of an element. -/
def shownSource? (e : Element) : Option String :=
  if looksLikeImage e.tag then (shownIn e.attributes).map fun v => String.ofList (strip v)
  else none

/-- In a tag of an image, nothing but its source is taken for one. -/
structure IsLegible (e : Element) : Prop where
  tag : occurs (word "src".toList) e.tag.toList = false
  attributes : IsClear e.attributes

/-- The character that stands behind the name of a tag. -/
lemma exists_after_tag (e : Element) (ht : t.head? = some '>' ∨ t.head? = some '/') :
    ∃ d more, e.attributes.flatMap writeAttribute ++ t = d :: more ∧
      (d = ' ' ∨ d = '>' ∨ d = '/') := by
  cases e.attributes with
  | nil =>
    rcases ht with ht | ht
    · obtain ⟨more, rfl⟩ := List.head?_eq_some_iff.mp ht
      exact ⟨_, _, rfl, .inr (.inl rfl)⟩
    · obtain ⟨more, rfl⟩ := List.head?_eq_some_iff.mp ht
      exact ⟨_, _, rfl, .inr (.inr rfl)⟩
  | cons a as => exact ⟨_, _, rfl, .inl rfl⟩

lemma sourceValue?_of_word (h : word "src".toList t = none) : sourceValue? t = none := by
  rw [sourceValue?, h]
  rfl

/-- The rest of a tag's name is passed over. -/
lemma findSource?_name {name : List Char} {d : Char}
    (hname : ∀ s, s <:+ name → word "src".toList s = none) (hplain : Unbracketed name)
    (hd : d = ' ' ∨ d = '>' ∨ d = '/') (before : Char) (t : List Char) :
    ∃ last, findSource? before (name ++ d :: t) = findSource? last (d :: t) := by
  induction name generalizing before with
  | nil => exact ⟨before, rfl⟩
  | cons c name ih =>
    obtain ⟨hc, hplain⟩ := unbracketed_cons.mp hplain
    obtain ⟨last, hlast⟩ := ih (fun s hs => hname s (hs.trans (List.suffix_cons c name))) hplain c
    have hletters : ("src".toList.all fun letter => !sameLetter letter d) = true := by
      rcases hd with rfl | rfl | rfl <;> rfl
    have hnone : sourceValue? (c :: (name ++ d :: t)) = none := by
      refine sourceValue?_of_word ?_
      rw [← List.cons_append, word_append_cons hletters, hname _ List.suffix_rfl, Option.map_none]
    refine ⟨last, ?_⟩
    rw [List.cons_append, findSource?, hnone, if_neg hc.2, ite_self, Option.none_or, hlast]

/-- What an image is read to have in its tag is found, and nothing in any other tag. -/
lemma finds_opening {e : Element} (hnamed : e.Named)
    (hlegible : looksLikeImage e.tag = true → IsLegible e)
    (ht : t.head? = some '>' ∨ t.head? = some '/') (hend : ∀ before, findSource? before t = none) :
    Finds t (if looksLikeImage e.tag then shownIn e.attributes else none)
      (imageSource? ('<' :: (e.opening ++ t))) := by
  obtain ⟨⟨htag, hattributes⟩, -⟩ := named_iff.mp hnamed
  obtain ⟨d, more, hmore, hd⟩ := exists_after_tag e ht
  have hword : word "<img".toList ('<' :: (e.opening ++ t)) =
      (word "img".toList e.tag.toList).map (· ++ d :: more) := by
    have hletters : ("img".toList.all fun letter => !sameLetter letter d) = true := by
      rcases hd with rfl | rfl | rfl <;> rfl
    rw [Element.opening, List.append_assoc, hmore, ← word_append_cons hletters]
    rfl
  have hbreak : isWord d = false := by rcases hd with rfl | rfl | rfl <;> decide
  rw [imageSource?, hword]
  cases himg : word "img".toList e.tag.toList with
  | none =>
    have hnot : ¬looksLikeImage e.tag = true := by
      rw [looksLikeImage, himg]
      exact Bool.false_ne_true
    rw [if_neg hnot]
    rfl
  | some after =>
    have hlooks : looksLikeImage e.tag = !after.head?.any isWord := by
      rw [looksLikeImage, himg, Option.any_some]
    have hhead : (after ++ d :: more).head?.any isWord = after.head?.any isWord := by
      cases after with
      | nil => simpa using hbreak
      | cons c after => rfl
    simp only [Option.map_some, Option.bind_eq_bind, Option.bind_some, hhead, hlooks]
    cases hmiddle : after.head?.any isWord with
    | true => rfl
    | false =>
      obtain ⟨hplain, hclear⟩ := hlegible (hlooks.trans (by rw [hmiddle]; rfl))
      have hafter : after <:+ e.tag.toList := suffix_of_word himg
      have hunbracketed : Unbracketed after := fun c hc =>
        unbracketed_of_nominal htag c (hafter.subset hc)
      obtain ⟨last, hlast⟩ := findSource?_name
        (fun s hs => occurs_eq_false_iff.mp hplain s (hs.trans hafter)) hunbracketed hd 'g' more
      have hfinds := finds_attributes hclear hattributes hend last
      rw [hmore, ← hlast] at hfinds
      exact hfinds

end Attributes

/-! ### Searching the written content -/

section Searching

variable {c before : Char} {s t v rest : List Char} {e : Element} {es : List Element}

lemma suffix_of_sourceStart (h : sourceStart s = some t) : t <:+ s := by
  obtain ⟨name, hname, h⟩ := Option.bind_eq_some_iff.mp h
  obtain ⟨sign, hsign, h⟩ := Option.bind_eq_some_iff.mp h
  have hname := (dropBlanks_suffix name).trans (suffix_of_word hname)
  have hsign := (suffix_of_literal hsign).trans hname
  exact (suffix_of_one h).trans ((dropBlanks_suffix sign).trans hsign)

lemma suffix_of_sourceValue? (h : sourceValue? s = some (v, rest)) : rest <:+ s := by
  rw [sourceValue?_eq] at h
  obtain ⟨value, hstart, h⟩ := Option.bind_eq_some_iff.mp h
  obtain ⟨after, hafter, h⟩ := Option.bind_eq_some_iff.mp h
  split at h
  · cases h
  · cases h
    exact (suffix_of_one hafter).trans
      ((List.dropWhile_suffix _).trans (suffix_of_sourceStart hstart))

lemma suffix_of_findSource? (h : findSource? before s = some (v, rest)) : rest <:+ s := by
  induction s generalizing before with
  | nil => cases h
  | cons c s ih =>
    rw [findSource?, Option.or_eq_some_iff] at h
    rcases h with h | ⟨-, h⟩
    · split at h
      · cases h
      · exact suffix_of_sourceValue? h
    · split at h
      · cases h
      · exact (ih h).trans (List.suffix_cons c s)

lemma suffix_of_imageSource? (h : imageSource? (c :: s) = some (v, rest)) : rest <:+ s := by
  obtain ⟨after, hword, h⟩ := Option.bind_eq_some_iff.mp h
  have hafter : after <:+ s := by
    have hfirst : word "<img".toList (c :: s) =
        if sameLetter '<' c then word "img".toList s else none := rfl
    rw [hfirst] at hword
    split at hword
    · exact suffix_of_word hword
    · cases hword
  split at h
  · cases h
  · exact (suffix_of_findSource? h).trans hafter

/-- Fuel beyond the characters makes no difference. -/
lemma imageSourcesFrom_eq (fuel : Nat) (s : List Char) (h : s.length ≤ fuel) :
    imageSourcesFrom fuel s = imageSourcesFrom s.length s := by
  induction fuel using Nat.strong_induction_on generalizing s with
  | _ fuel ih =>
    cases s with
    | nil => cases fuel <;> rfl
    | cons c s =>
      rw [List.length_cons] at h
      obtain ⟨fuel, rfl⟩ : ∃ n, fuel = n + 1 := ⟨fuel - 1, by omega⟩
      rw [List.length_cons, imageSourcesFrom, imageSourcesFrom]
      split
      · next v rest hfound =>
        have hshort := (suffix_of_imageSource? hfound).length_le
        rw [ih fuel (by omega) rest (by omega), ih s.length (by omega) rest hshort]
      · exact ih fuel (by omega) s (by omega)

/-- The sources in a text, with fuel enough. -/
def sourcesIn (s : List Char) : List String := imageSourcesFrom s.length s

lemma sourcesIn_of_none (h : imageSource? (c :: s) = none) : sourcesIn (c :: s) = sourcesIn s := by
  rw [sourcesIn, List.length_cons, imageSourcesFrom, h]
  rfl

lemma sourcesIn_of_some (h : imageSource? (c :: s) = some (v, rest)) :
    sourcesIn (c :: s) = String.ofList (strip v) :: sourcesIn rest := by
  rw [sourcesIn, List.length_cons, imageSourcesFrom, h]
  exact congrArg _ (imageSourcesFrom_eq s.length rest (suffix_of_imageSource? h).length_le)

/-- Text in which no tag begins is passed over. -/
lemma sourcesIn_append (hs : '<' ∉ s) (t : List Char) : sourcesIn (s ++ t) = sourcesIn t := by
  induction s with
  | nil => rfl
  | cons c s ih =>
    rw [List.mem_cons, not_or] at hs
    have hletter : ¬sameLetter '<' c = true := fun h => hs.1 (eq_of_sameLetter_bracket h).symm
    have hnone : imageSource? (c :: (s ++ t)) = none := by
      have hword : word "<img".toList (c :: (s ++ t)) = none := if_neg hletter
      rw [imageSource?, hword]
      rfl
    rw [List.cons_append, sourcesIn_of_none hnone, ih hs.2]

lemma sourcesIn_opening (hnamed : e.Named) (hlegible : looksLikeImage e.tag = true → IsLegible e)
    (ht : t.head? = some '>' ∨ t.head? = some '/') (hend : ∀ before, findSource? before t = none) :
    sourcesIn ('<' :: (e.opening ++ t)) = (shownSource? e).toList ++ sourcesIn t := by
  have hfinds := finds_opening hnamed hlegible ht hend
  have hopening : '<' ∉ e.opening := fun hmem => (unbracketed_opening hnamed '<' hmem).1 rfl
  have hshown : shownSource? e = (if looksLikeImage e.tag then shownIn e.attributes
      else none).map fun v => String.ofList (strip v) := by
    rw [shownSource?]
    split <;> rfl
  rw [hshown]
  cases hfound : (if looksLikeImage e.tag then shownIn e.attributes else none) with
  | none =>
    rw [hfound] at hfinds
    rw [sourcesIn_of_none hfinds, sourcesIn_append hopening]
    rfl
  | some v =>
    rw [hfound] at hfinds
    obtain ⟨rest, hrest, s, hs, rfl⟩ := hfinds
    rw [sourcesIn_of_some hrest, sourcesIn_append fun hmem => (hs '<' hmem).1 rfl]
    rfl

/-- Neither the text nor the tail of an element looks like the beginning of a tag. -/
structure Unmarked (e : Element) : Prop where
  text : '<' ∉ e.text.toList
  tail : '<' ∉ e.tail.toList

/-- An element is searched as a tag with its source, then what stands in it. -/
lemma sourcesIn_written (hnamed : e.Named) (hlegible : looksLikeImage e.tag = true → IsLegible e)
    {found : List String} (hinner : ∀ rest, sourcesIn (e.innerChars ++ rest) =
      found ++ sourcesIn rest) (rest : List Char) :
    sourcesIn (e.written ++ rest) = (shownSource? e).toList ++ found ++ sourcesIn rest := by
  have htag : '<' ∉ e.tag.toList := fun hmem =>
    (unbracketed_of_nominal (named_iff.mp hnamed).1.1 '<' hmem).1 rfl
  have hclosed (before : Char) (t : List Char) : findSource? before ('>' :: t) = none := by
    rw [findSource?, sourceValue?_of_head (by decide), ite_self, Option.none_or, if_pos rfl]
  rw [Element.written]
  split
  · next h =>
    have hempty := hinner rest
    rw [List.isEmpty_iff.mp h, List.nil_append] at hempty
    have hopening := sourcesIn_opening hnamed hlegible (t := '/' :: '>' :: rest) (.inr rfl)
      fun before => (findSource?_of_head (by decide) (by decide) before _).trans (hclosed '/' rest)
    have hend := sourcesIn_append (s := ['/', '>']) (by decide) rest
    rw [List.append_assoc, ← hempty, ← hend]
    simpa using hopening
  · have hopening := sourcesIn_opening hnamed hlegible
      (t := '>' :: (e.innerChars ++ '<' :: '/' :: (e.tag.toList ++ '>' :: rest))) (.inl rfl)
      fun before => hclosed before _
    have hbracket := sourcesIn_append (s := ['>']) (by decide)
      (e.innerChars ++ '<' :: '/' :: (e.tag.toList ++ '>' :: rest))
    have hclosing : sourcesIn ('<' :: '/' :: (e.tag.toList ++ '>' :: rest)) = sourcesIn rest := by
      have hnone : imageSource? ('<' :: '/' :: (e.tag.toList ++ '>' :: rest)) = none := rfl
      have hname := sourcesIn_append (s := '/' :: (e.tag.toList ++ ['>'])) (by simp [htag]) rest
      rw [sourcesIn_of_none hnone, ← hname]
      simp
    rw [List.singleton_append, hinner, hclosing] at hbracket
    rw [hbracket] at hopening
    simpa using hopening

mutual

lemma sourcesIn_innerChars : ∀ e : Element, '<' ∉ e.text.toList →
    (∀ child ∈ e.children, child.Named) → (∀ y ∈ Element.subtrees e.children, Unmarked y) →
    (∀ y ∈ Element.subtrees e.children, looksLikeImage y.tag = true → IsLegible y) → ∀ rest,
    sourcesIn (e.innerChars ++ rest) =
      (Element.subtrees e.children).filterMap shownSource? ++ sourcesIn rest
  | .mk _ _ text children _, htext, hnamed, hunmarked, hlegible, rest => by
    have hplain : '<' ∉ text.toList := htext
    rw [Element.innerChars, List.append_assoc, sourcesIn_append hplain]
    exact sourcesIn_writeAll children hnamed hunmarked hlegible rest

/-- The sources of written elements are found in document order, whatever follows them. -/
lemma sourcesIn_writeAll : ∀ es : List Element, (∀ e ∈ es, e.Named) →
    (∀ y ∈ Element.subtrees es, Unmarked y) →
    (∀ y ∈ Element.subtrees es, looksLikeImage y.tag = true → IsLegible y) → ∀ rest,
    sourcesIn (writeAll es ++ rest) =
      (Element.subtrees es).filterMap shownSource? ++ sourcesIn rest
  | [], _, _, _, rest => by rw [writeAll, Element.subtrees]; rfl
  | e :: es, hnamed, hunmarked, hlegible, rest => by
    obtain ⟨he, hes⟩ := List.forall_mem_cons.mp hnamed
    rw [Element.subtrees, List.forall_mem_append, Element.subtree_eq, List.forall_mem_cons]
      at hunmarked hlegible
    obtain ⟨⟨hhere, hbelow⟩, hmore⟩ := hunmarked
    obtain ⟨⟨hlegiblee, hlegiblebelow⟩, hlegiblemore⟩ := hlegible
    have hinner := sourcesIn_innerChars e hhere.text (named_iff.mp he).2 hbelow hlegiblebelow
    have hrest := sourcesIn_writeAll es hes hmore hlegiblemore rest
    rw [writeAll_cons, List.append_assoc, sourcesIn_written he hlegiblee hinner, List.append_assoc,
      List.append_assoc, sourcesIn_append hhere.tail, hrest, Element.subtrees, Element.subtree_eq,
      List.cons_append, List.filterMap_cons, List.filterMap_append]
    cases shownSource? e <;> simp

end

end Searching

/-! ### Values as they are shown -/

section Values

variable {c quote : Char} {s v written : List Char} {value : String}

/-- A value without quotes and without characters that are escaped. -/
def IsPlainValue (value : String) : Prop :=
  ∀ c ∈ value.toList, c ∉ mustEscape ∧ isQuote c = false

lemma valueReferences_all : (valueReferences.all fun r =>
    r.2 != ';' && (mustEscape.contains r.2 || isQuote r.2)) = true := rfl

/-- A value that is written with as many semicolons as it has is written without references. -/
lemma eq_of_count (h : WritesValue quote v written) : v.count ';' ≤ written.count ';' ∧
    (v.count ';' = written.count ';' → written = v ∧ ∀ c ∈ v, c ∉ mustEscape) := by
  induction h with
  | nil => exact ⟨le_rfl, fun _ => ⟨rfl, List.forall_mem_nil _⟩⟩
  | @cons c v piece written hc _ ih =>
    obtain ⟨hle, heq⟩ := ih
    cases hc with
    | plain hplain _ =>
      rw [List.singleton_append, List.count_cons, List.count_cons]
      refine ⟨by omega, fun hcount => ?_⟩
      obtain ⟨hsame, hv⟩ := heq (by omega)
      exact ⟨by rw [hsame], List.forall_mem_cons.mpr ⟨hplain, hv⟩⟩
    | @reference name c hname =>
      have hchecks := List.all_eq_true.mp valueReferences_all _ hname
      simp only [Bool.and_eq_true, bne_iff_ne] at hchecks
      have hmore : 0 < ('&' :: (name ++ [';'])).count ';' := List.count_pos_iff.mpr (by simp)
      rw [List.count_append, List.count_cons_of_ne hchecks.1]
      exact ⟨by omega, fun hcount => by omega⟩

lemma written_eq_of_isPlain (h : WritesValue quote v written)
    (hv : ∀ c ∈ v, c ∉ mustEscape ∧ isQuote c = false) : written = v := by
  induction h with
  | nil => rfl
  | @cons c v piece written hc _ ih =>
    obtain ⟨⟨hescape, hquote⟩, hv⟩ := List.forall_mem_cons.mp hv
    cases hc with
    | plain _ _ => rw [ih hv, List.singleton_append]
    | reference hname =>
      have hchecks := List.all_eq_true.mp valueReferences_all _ hname
      simp only [Bool.and_eq_true, Bool.or_eq_true, List.contains_iff_mem] at hchecks
      rcases hchecks.2 with hmem | hmem
      · exact absurd hmem hescape
      · exact absurd hmem (by simp [hquote])

/-- A quote that is written stands in the value. -/
lemma mem_of_isQuote (h : WritesValue quote v written) (hc : c ∈ written)
    (hquote : isQuote c = true) : c ∈ v := by
  rcases h.mem_or hc with ⟨hmem, -⟩ | hreference
  · exact hmem
  · have htable : (referenceChars.all fun d => !isQuote d) = true := rfl
    have hnot := List.all_eq_true.mp htable c hreference
    rw [hquote] at hnot
    cases hnot

lemma shownValue_of_isPlain (h : IsPlainValue value) : shownValue value = value.toList := by
  obtain ⟨q, written, -, -, -, hshown, hwrites⟩ := exists_written value
  rw [hshown, written_eq_of_isPlain hwrites h, List.takeWhile_eq_self_iff]
  intro c hc
  simpa using (h c hc).2

/-- A value that is shown as it is, blanks apart, is plain: a quote is missing from what is shown,
and a reference adds a semicolon. -/
lemma isPlain_of_strip_eq (h : strip (shownValue value) = strip value.toList) :
    IsPlainValue value := by
  obtain ⟨q, written, -, -, -, hshown, hwrites⟩ := exists_written value
  have hkept : ∀ c, isBlank c = false → (shownValue value).count c = value.toList.count c := by
    intro c hc
    calc (shownValue value).count c = (strip (shownValue value)).count c := (count_strip hc _).symm
      _ = (strip value.toList).count c := by rw [h]
      _ = value.toList.count c := count_strip hc _
  have hnone : ∀ c ∈ written, isQuote c = false := by
    intro c hc
    by_contra hquote
    rw [Bool.not_eq_false] at hquote
    have hblank : isBlank c = false := by
      rcases isQuote_iff.mp hquote with rfl | rfl <;> decide
    have hmem : c ∈ shownValue value := by
      rw [← List.count_pos_iff, hkept c hblank, List.count_pos_iff]
      exact mem_of_isQuote hwrites hc hquote
    have hnot := List.mem_takeWhile_imp (hshown ▸ hmem)
    rw [hquote] at hnot
    cases hnot
  have hwhole : shownValue value = written := by
    rw [hshown, List.takeWhile_eq_self_iff]
    intro c hc
    simpa using hnone c hc
  have hcount : value.toList.count ';' = written.count ';' := by
    rw [← hkept ';' (by decide), hwhole]
  obtain ⟨hsame, hescape⟩ := (eq_of_count hwrites).2 hcount
  exact fun c hc => ⟨hescape c hc, hnone c (hsame.symm ▸ hc)⟩

end Values

/-! ### Sources of image elements -/

section Elements

variable {e y : Element} {as : List (String × String)}

/-- An image element, whatever the case of its letters. -/
def isImage (e : Element) : Bool := e.tag.toList.map Char.toLower == "img".toList

/-- The source that an image element names, without blanks around it, if it is not blank. -/
def namedSource? (e : Element) : Option String := if isImage e then e.attribute? "src" else none

/-- The source of an element, if it has one, is empty, or plain and not blank. -/
def HasPlainSource (e : Element) : Prop :=
  ∀ value, e.attributes.lookup "src" = some value →
    value = "" ∨ strip value.toList ≠ [] ∧ IsPlainValue value

lemma looksLikeImage_of_isImage (h : isImage e = true) : looksLikeImage e.tag = true := by
  have hword : word "img".toList e.tag.toList = some [] := by
    simpa using word_append (beq_iff_eq.mp h) []
  rw [looksLikeImage, hword]
  rfl

lemma shownIn_eq_lookup (h : (as.map Prod.fst).Nodup) : shownIn as =
    (as.lookup "src").bind fun value =>
      if shownValue value = [] then none else some (shownValue value) := by
  induction as with
  | nil => rfl
  | cons a as ih =>
    obtain ⟨name, value⟩ := a
    obtain ⟨hfirst, hmore⟩ := List.nodup_cons.mp h
    rw [shownIn_cons, ih hmore]
    by_cases hname : name = "src"
    · subst hname
      have hnone : as.lookup "src" = none := by
        rw [List.lookup_eq_none_iff]
        intro p hp
        rw [bne_iff_ne]
        exact fun heq => hfirst (List.mem_map.mpr ⟨p, hp, heq.symm⟩)
      by_cases hempty : shownValue value = [] <;> simp [hempty, hnone]
    · have hother : ("src" == name) = false := by simpa using Ne.symm hname
      rw [if_neg fun h => hname h.1, List.lookup_cons, hother]

/-- What is shown of a value is the value without blanks around it exactly if the value is empty, or
plain and not blank. -/
lemma shown_eq_trim_iff (value : String) :
    ((if shownValue value = [] then none else some (shownValue value)).map fun v =>
      String.ofList (strip v)) =
        (if (Text.trim value).isEmpty then none else some (Text.trim value)) ↔
      value = "" ∨ strip value.toList ≠ [] ∧ IsPlainValue value := by
  have hblank : (Text.trim value).isEmpty = true ↔ strip value.toList = [] := by simp [Text.trim]
  have hnil : strip [] = [] := rfl
  by_cases hempty : shownValue value = []
  · rw [if_pos hempty, Option.map_none]
    constructor
    · intro h
      have htrim : strip value.toList = [] := by
        by_contra hne
        rw [if_neg (mt hblank.mp hne)] at h
        cases h
      have hplain : IsPlainValue value := isPlain_of_strip_eq (by rw [hempty, hnil, htrim])
      exact .inl (String.toList_eq_nil_iff.mp (shownValue_of_isPlain hplain ▸ hempty))
    · rintro (rfl | ⟨hne, hplain⟩)
      · rfl
      · rw [shownValue_of_isPlain hplain] at hempty
        exact absurd (by rw [hempty, hnil]) hne
  · rw [if_neg hempty, Option.map_some]
    constructor
    · intro h
      have htrim : strip value.toList ≠ [] := by
        intro hnone
        rw [if_pos (hblank.mpr hnone)] at h
        cases h
      rw [if_neg (mt hblank.mp htrim), Option.some_inj, Text.trim, String.ofList_inj] at h
      exact .inr ⟨htrim, isPlain_of_strip_eq h⟩
    · rintro (rfl | ⟨hne, hplain⟩)
      · exact absurd rfl hempty
      · rw [if_neg (mt hblank.mp hne), shownValue_of_isPlain hplain]
        rfl

/-- The source that is found in the tag of an image is the one that it names exactly if that is
plain. -/
lemma shownSource?_eq_iff (himage : isImage e = true)
    (hdistinct : (e.attributes.map Prod.fst).Nodup) :
    shownSource? e = namedSource? e ↔ HasPlainSource e := by
  rw [shownSource?, namedSource?, if_pos himage, if_pos (looksLikeImage_of_isImage himage),
    shownIn_eq_lookup hdistinct, HasPlainSource, Element.attribute?]
  cases e.attributes.lookup "src" with
  | none => simp
  | some value =>
    rw [Option.bind_some, shown_eq_trim_iff]
    simp

lemma namedSource?_of_looks (h : looksLikeImage e.tag = false) :
    shownSource? e = none ∧ namedSource? e = none := by
  have hnot : ¬isImage e = true := fun himage =>
    absurd (looksLikeImage_of_isImage himage) (by simp [h])
  exact ⟨if_neg (by simp [h]), if_neg hnot⟩

/-- The images that are looked for are those shown in the tags, in document order. -/
lemma imageSources_eq_shown (hnamed : ∀ child ∈ e.children, child.Named)
    (htext : '<' ∉ e.text.toList) (hbelow : ∀ y ∈ Element.subtrees e.children, Unmarked y)
    (hlegible : ∀ y ∈ Element.subtrees e.children, looksLikeImage y.tag = true → IsLegible y) :
    imageSources e.innerHtml = (Element.subtrees e.children).filterMap shownSource? := by
  have hinner := sourcesIn_innerChars e htext hnamed hbelow hlegible []
  rw [List.append_nil] at hinner
  rw [imageSources, Element.innerHtml, String.toList_ofList]
  exact hinner.trans (List.append_nil _)

/-- Where nothing but its source is taken for one in the tag of an image, the images that are looked
for are those shown in the tags, in document order. An image is looked for by the name that its
element gives exactly if that name is plain. -/
theorem imageSources_innerHtml (hnamed : ∀ child ∈ e.children, child.Named)
    (htext : '<' ∉ e.text.toList) (hbelow : ∀ y ∈ Element.subtrees e.children, Unmarked y)
    (hdistinct : ∀ y ∈ Element.subtrees e.children, (y.attributes.map Prod.fst).Nodup)
    (hlegible : ∀ y ∈ Element.subtrees e.children, looksLikeImage y.tag = true → IsLegible y) :
    imageSources e.innerHtml = (Element.subtrees e.children).filterMap shownSource? ∧
      (∀ y ∈ Element.subtrees e.children,
        (isImage y = true → (shownSource? y = namedSource? y ↔ HasPlainSource y)) ∧
        (looksLikeImage y.tag = false → shownSource? y = none ∧ namedSource? y = none)) ∧
      ((∀ y ∈ Element.subtrees e.children, looksLikeImage y.tag = true →
          isImage y = true ∧ HasPlainSource y) →
        imageSources e.innerHtml = (Element.subtrees e.children).filterMap namedSource?) ∧
      ∀ site item href, item.first? ["itemBody"] = some e →
        Manifest.checkItem site item href =
          (Check.report (Manifest.itemFindings item href) >>= fun _ =>
            Check.each (Manifest.checkImage site href)
              ((Element.subtrees e.children).filterMap shownSource?)) := by
  have hsources := imageSources_eq_shown hnamed htext hbelow hlegible
  have hshown : ∀ y ∈ Element.subtrees e.children, isImage y = true →
      (shownSource? y = namedSource? y ↔ HasPlainSource y) :=
    fun y hy himage => shownSource?_eq_iff himage (hdistinct y hy)
  refine ⟨hsources, fun y hy => ⟨hshown y hy, namedSource?_of_looks⟩, fun hplain => ?_,
    fun site item href hbody => ?_⟩
  · rw [hsources]
    refine List.filterMap_congr fun y hy => ?_
    cases hlooks : looksLikeImage y.tag with
    | false =>
      obtain ⟨hnone, hnoname⟩ := namedSource?_of_looks hlooks
      rw [hnone, hnoname]
    | true =>
      obtain ⟨himage, hsource⟩ := hplain y hy hlooks
      exact (hshown y hy himage).mpr hsource
  · rw [Manifest.checkItem, hbody, ← hsources]
    rfl

/-- Two images, of which the second has an ampersand in its source. -/
def gallery : Element :=
  .mk "itemBody" [] "1 > 0" [.mk "p" [] "" [.mk "IMG" [("alt", "'x'"), ("src", " a.png ")] "" [] ""] "",
    .mk "img" [("src", "b&c.png")] "" [] ""] ""

lemma forall_gallery {P : Element → Prop}
    (hp : P (.mk "p" [] "" [.mk "IMG" [("alt", "'x'"), ("src", " a.png ")] "" [] ""] ""))
    (hfirst : P (.mk "IMG" [("alt", "'x'"), ("src", " a.png ")] "" [] ""))
    (hsecond : P (.mk "img" [("src", "b&c.png")] "" [] "")) :
    ∀ y ∈ Element.subtrees gallery.children, P y :=
  List.forall_mem_cons.mpr ⟨hp, List.forall_mem_cons.mpr ⟨hfirst,
    List.forall_mem_singleton.mpr hsecond⟩⟩

lemma gallery_wellFormed : (∀ child ∈ gallery.children, child.Named) ∧
    '<' ∉ gallery.text.toList ∧ (∀ y ∈ Element.subtrees gallery.children, Unmarked y) ∧
    ∀ y ∈ Element.subtrees gallery.children, (y.attributes.map Prod.fst).Nodup := by
  have hnominal {name : List Char} (h : name.all isTokenChar = true) : Nominal name :=
    List.all_eq_true.mp h
  have hnames : ∀ y ∈ Element.subtrees gallery.children,
      Nominal y.tag.toList ∧ ∀ a ∈ y.attributes, Nominal a.1.toList :=
    forall_gallery ⟨hnominal rfl, List.forall_mem_nil _⟩
      ⟨hnominal rfl, List.forall_mem_cons.mpr ⟨hnominal rfl,
        List.forall_mem_singleton.mpr (hnominal rfl)⟩⟩
      ⟨hnominal rfl, List.forall_mem_singleton.mpr (hnominal rfl)⟩
  have hplain {s : String} (h : s.toList.contains '<' = false) : '<' ∉ s.toList := by
    simpa using h
  refine ⟨fun child hchild y hy => hnames y (Element.subset_subtrees hchild hy), hplain rfl, ?_, ?_⟩
  · exact forall_gallery ⟨hplain rfl, hplain rfl⟩ ⟨hplain rfl, hplain rfl⟩ ⟨hplain rfl, hplain rfl⟩
  · exact forall_gallery (by decide) (by decide) (by decide)

lemma gallery_legible : ∀ y ∈ Element.subtrees gallery.children,
    looksLikeImage y.tag = true → IsLegible y := by
  have hsource {value : String} (h : shownValue value ≠ []) : IsClear [("src", value)] := by
    rw [IsClear, if_pos rfl]
    exact .inl h
  have hfirst : IsClear [("alt", "'x'"), ("src", " a.png ")] := by
    rw [IsClear, if_neg (by decide)]
    exact ⟨rfl, hsource (by decide)⟩
  exact forall_gallery (fun h => absurd h (by decide)) (fun _ => ⟨rfl, hfirst⟩)
    fun _ => ⟨rfl, hsource (by decide)⟩

theorem imageSources_gallery :
    (∀ child ∈ gallery.children, child.Named) ∧ '<' ∉ gallery.text.toList ∧
      (∀ y ∈ Element.subtrees gallery.children, Unmarked y) ∧
      (∀ y ∈ Element.subtrees gallery.children, (y.attributes.map Prod.fst).Nodup) ∧
      (∀ y ∈ Element.subtrees gallery.children, looksLikeImage y.tag = true → IsLegible y) ∧
      imageSources gallery.innerHtml = ["a.png", "b&amp;c.png"] := by
  obtain ⟨hnamed, htext, hbelow, hdistinct⟩ := gallery_wellFormed
  obtain ⟨hsources, -⟩ := imageSources_innerHtml hnamed htext hbelow hdistinct gallery_legible
  exact ⟨hnamed, htext, hbelow, hdistinct, gallery_legible, hsources.trans rfl⟩

theorem imageSources_unescaped : ¬∀ e : Element, (∀ child ∈ e.children, child.Named) →
    '<' ∉ e.text.toList → (∀ y ∈ Element.subtrees e.children, Unmarked y) →
    (∀ y ∈ Element.subtrees e.children, (y.attributes.map Prod.fst).Nodup) →
    imageSources e.innerHtml = (Element.subtrees e.children).filterMap namedSource? := by
  intro h
  obtain ⟨hnamed, htext, hbelow, hdistinct⟩ := gallery_wellFormed
  have hfound : imageSources gallery.innerHtml = ["a.png", "b&amp;c.png"] :=
    (imageSources_eq_shown hnamed htext hbelow gallery_legible).trans rfl
  have hnamedSources : (Element.subtrees gallery.children).filterMap namedSource? =
      ["a.png", "b&c.png"] := rfl
  have hsame := h gallery hnamed htext hbelow hdistinct
  rw [hfound, hnamedSources] at hsame
  revert hsame
  decide

end Elements

end QuizPreflight.Package
