import Mathlib.Data.List.Forall2
import QuizPreflight.Markup.Attribute
import QuizPreflight.Proofs.Markup.Escaping
import QuizPreflight.Proofs.Markup.Writing
import QuizPreflight.Proofs.Result
import QuizPreflight.Proofs.Text.Trimming

/-!
# Start tags read back

A start tag that is written with proper names is scanned up to its end and resolved to the name and
the attributes that it was written from, each value without its escapes.
-/
namespace QuizPreflight.Markup

open Text

/-- A name without a colon. -/
structure IsName (name : List Char) : Prop where
  head : name.head?.any isNameStart = true
  chars : ∀ c ∈ name, isNameChar c = true

/-- An attribute that declares no namespace, with a value that may stand in a document. -/
structure IsAttribute (a : String × String) : Prop where
  name : IsName a.1.toList
  plain : a.1 ≠ "xmlns"
  value : ∀ c ∈ a.2.toList, isAllowed c = true

section Names

variable {c d : Char} {name rest : List Char}

lemma isSpace_iff : isSpace c = true ↔ c = ' ' ∨ c = '\t' ∨ c = '\n' ∨ c = '\r' := by
  simp [isSpace, or_assoc]

lemma isSpace_of_isNameStart (h : isNameStart c = true) : isSpace c = false := by
  rw [← Bool.not_eq_true, isSpace_iff]
  rintro (rfl | rfl | rfl | rfl) <;> revert h <;> decide

lemma IsName.exists_cons (h : IsName name) :
    ∃ c more, name = c :: more ∧ isNameStart c = true := by
  cases name with
  | nil => cases h.head
  | cons c more => exact ⟨c, more, rfl, h.head⟩

lemma IsName.colon_notMem (h : IsName name) : ':' ∉ name := fun hmem =>
  absurd (h.chars ':' hmem) (by decide)

/-- A name ends where a character stands that no name has. -/
lemma scanName_append (h : IsName name) (hd : isNameChar d = false) (rest : List Char) :
    scanName (name ++ d :: rest) = .ok (name, d :: rest) := by
  obtain ⟨c, more, hname, hstart⟩ := h.exists_cons
  have hexpect : expectName (name ++ d :: rest) = .ok () := by
    rw [hname, List.cons_append, expectName, if_pos hstart]
  have htake : name.takeWhile isNameChar = name := List.takeWhile_eq_self_iff.mpr h.chars
  have hdrop : name.dropWhile isNameChar = [] := List.dropWhile_eq_nil_iff.mpr h.chars
  rw [scanName, hexpect, takeWhile_append_cons hd, dropWhile_append_cons hd, htake, hdrop]
  rfl

lemma scanQualifiedName_append (h : IsName name) (hd : isNameChar d = false) (hcolon : d ≠ ':')
    (rest : List Char) : scanQualifiedName (name ++ d :: rest) = .ok (name, d :: rest) := by
  rw [scanQualifiedName, scanName_append h hd]
  simp only [bind, Except.bind]
  split
  · next heq => exact absurd (List.cons.inj heq).1 hcolon
  · rfl

lemma splitName_of_isName (h : IsName name) : splitName name = (none, name) := by
  have hnone : name.dropWhile (· != ':') = [] := by
    rw [List.dropWhile_eq_nil_iff]
    intro c hc
    exact bne_iff_ne.mpr fun heq => h.colon_notMem (heq ▸ hc)
  rw [splitName, hnone]

end Names

/-! ### Values -/

section Values

variable {quote c : Char} {name value written piece rest : List Char} {ctx : ValueContext}

/-- A reference that a value is written with is followed by the text behind it, and stands for its
character by number or by name. -/
lemma scanReference_append (h : (name, c) ∈ valueReferences) (rest : List Char) :
    ∃ r, scanReference (name ++ ';' :: rest) = .ok (r, rest) ∧
      (r = .character (some c) ∧ c ≠ ' ' ∨
        r = .entity name ∧ predefinedEntities.lookup name = some c) := by
  simp only [valueReferences, List.mem_cons, Prod.mk.injEq, List.not_mem_nil, or_false] at h
  rcases h with ⟨rfl, rfl⟩ | ⟨rfl, rfl⟩ | ⟨rfl, rfl⟩ | ⟨rfl, rfl⟩ | ⟨rfl, rfl⟩ | ⟨rfl, rfl⟩ |
    ⟨rfl, rfl⟩
  · exact ⟨_, rfl, .inr ⟨rfl, rfl⟩⟩
  · exact ⟨_, rfl, .inr ⟨rfl, rfl⟩⟩
  · exact ⟨_, rfl, .inr ⟨rfl, rfl⟩⟩
  · exact ⟨_, rfl, .inl ⟨rfl, by decide⟩⟩
  · exact ⟨_, rfl, .inl ⟨rfl, by decide⟩⟩
  · exact ⟨_, rfl, .inl ⟨rfl, by decide⟩⟩
  · exact ⟨_, rfl, .inr ⟨rfl, rfl⟩⟩

lemma scanValueEnd_append (h : ∀ c ∈ piece, c ≠ quote ∧ c ≠ '<' ∧ c ≠ '&' ∧ isAllowed c = true)
    (rest : List Char) : scanValueEnd quote (piece ++ rest) = scanValueEnd quote rest := by
  induction piece with
  | nil => rfl
  | cons c piece ih =>
    obtain ⟨⟨hquote, hless, hamp, hallowed⟩, hpiece⟩ := List.forall_mem_cons.mp h
    rw [List.cons_append, scanValueEnd, if_neg hquote, if_neg (by simp [hless, hallowed]),
      if_neg hamp, ih hpiece]

/-- A written value ends at the quote behind it. -/
lemma scanValueEnd_of_writesValue (h : WritesValue quote value written)
    (hquote : quote = '"' ∨ quote = '\'') (hvalue : ∀ c ∈ value, isAllowed c = true)
    (rest : List Char) : scanValueEnd quote (written ++ quote :: rest) = .ok rest := by
  induction h with
  | nil => rw [List.nil_append, scanValueEnd, if_pos rfl]
  | @cons c value piece written hc _ ih =>
    obtain ⟨hallowed, hmore⟩ := List.forall_mem_cons.mp hvalue
    rw [List.append_assoc]
    cases hc with
    | plain hplain hne =>
      refine (scanValueEnd_append (List.forall_mem_singleton.mpr ⟨hne, ?_, ?_, hallowed⟩) _).trans
        (ih hmore)
      · rintro rfl
        exact hplain (by decide)
      · rintro rfl
        exact hplain (by decide)
    | @reference name c hname =>
      have hplain : (valueReferences.all fun r => (r.1 ++ [';']).all fun d =>
          d != '"' && d != '\'' && d != '<' && d != '&' && isAllowed d) = true := rfl
      have hpiece : ∀ d ∈ name ++ [';'], d ≠ quote ∧ d ≠ '<' ∧ d ≠ '&' ∧ isAllowed d = true := by
        intro d hd
        have hd := List.all_eq_true.mp (List.all_eq_true.mp hplain _ hname) d hd
        simp only [Bool.and_eq_true, bne_iff_ne] at hd
        exact ⟨by rcases hquote with rfl | rfl; exacts [hd.1.1.1.1, hd.1.1.1.2], hd.1.1.2, hd.1.2,
          hd.2⟩
      have hamp : '&' ≠ quote := by rcases hquote with rfl | rfl <;> decide
      obtain ⟨r, hscan, -⟩ := scanReference_append hname (written ++ quote :: rest)
      have hstep : scanValueEnd quote ('&' :: (name ++ [';'] ++ (written ++ quote :: rest))) =
          scanValueEnd quote (name ++ [';'] ++ (written ++ quote :: rest)) := by
        rw [scanValueEnd, if_neg hamp, if_neg (by decide), if_pos rfl, List.append_assoc,
          List.singleton_append, hscan]
      rw [List.cons_append, hstep, scanValueEnd_append hpiece, ih hmore]

lemma ValueContext.read_cons (h : c ≠ '\r') (hquote : c ≠ ctx.quote) (hless : c ≠ '<')
    (hamp : c ≠ '&') (done rest : List Char) :
    ctx.read done (c :: rest) = ctx.read (if isSpace c then ctx.space done else c :: done) rest := by
  rw [ValueContext.read.eq_def]
  split
  · next heq => cases heq
  · next heq => exact absurd (List.cons.inj heq).1 h
  · next heq =>
    obtain ⟨rfl, rfl⟩ := List.cons.inj heq
    rw [if_neg hquote, if_neg hless, if_neg hamp]
    split <;> rfl

lemma ValueContext.read_reference (h : (name, c) ∈ valueReferences) (hquote : ctx.quote ≠ '&')
    (done rest : List Char) :
    ctx.read done ('&' :: (name ++ ';' :: rest)) = ctx.read (c :: done) rest := by
  obtain ⟨r, hscan, hr⟩ := scanReference_append h rest
  rw [ValueContext.read.eq_def]
  split
  · next heq => cases heq
  · next heq => exact absurd (List.cons.inj heq).1 (by decide)
  · next heq =>
    obtain ⟨rfl, rfl⟩ := List.cons.inj heq
    rw [if_neg hquote.symm, if_neg (by decide), if_pos rfl]
    rcases hr with ⟨rfl, hblank⟩ | ⟨rfl, hlookup⟩
    · split
      · next heq => cases hscan.symm.trans heq
      · next heq => cases hscan.symm.trans heq
      · next heq => cases hscan.symm.trans heq
      · next heq =>
        cases hscan.symm.trans heq
        rw [if_neg hblank]
      · next heq => cases hscan.symm.trans heq
    · split
      · next heq => cases hscan.symm.trans heq
      · next heq => cases hscan.symm.trans heq
      · next heq => cases hscan.symm.trans heq
      · next heq => cases hscan.symm.trans heq
      · next heq =>
        cases hscan.symm.trans heq
        rw [hlookup]

/-- A value is read back from what was written of it. -/
lemma ValueContext.read_of_writesValue (ctx : ValueContext)
    (h : WritesValue ctx.quote value written) (hquote : ctx.quote = '"' ∨ ctx.quote = '\'')
    (htoken : ctx.isTokenised = false) (done rest : List Char) :
    ctx.read done (written ++ ctx.quote :: rest) = .ok (done.reverse ++ value) := by
  induction h generalizing done with
  | nil =>
    have hreturn : ctx.quote ≠ '\r' := by rcases hquote with h | h <;> rw [h] <;> decide
    rw [List.nil_append, ValueContext.read.eq_def]
    split
    · next heq => cases heq
    · next heq => exact absurd (List.cons.inj heq).1 hreturn
    · next heq =>
      rw [if_pos (List.cons.inj heq).1.symm, ValueContext.finish, htoken]
      simp
  | @cons c value piece written hc _ ih =>
    have hnext : ctx.read done (piece ++ (written ++ ctx.quote :: rest)) =
        ctx.read (c :: done) (written ++ ctx.quote :: rest) := by
      cases hc with
      | plain hplain hne =>
        simp only [mustEscape, List.mem_cons, List.not_mem_nil, or_false, not_or] at hplain
        obtain ⟨hamp, hless, -, hnewline, hreturn, htab⟩ := hplain
        rw [List.singleton_append, ValueContext.read_cons hreturn hne hless hamp]
        split
        · next hspace =>
          obtain rfl : c = ' ' := by
            rcases isSpace_iff.mp hspace with h | h | h | h
            exacts [h, absurd h htab, absurd h hnewline, absurd h hreturn]
          rw [ValueContext.space, htoken]
          rfl
        · rfl
      | reference hname =>
        have hamp : ctx.quote ≠ '&' := by rcases hquote with h | h <;> rw [h] <;> decide
        rw [List.cons_append, List.append_assoc]
        exact ValueContext.read_reference hname hamp done _
    rw [List.append_assoc, hnext, ih, List.reverse_cons, List.append_assoc, List.singleton_append]

end Values

/-! ### Attributes -/

/-- An attribute that is scanned is the one that was written. -/
structure RawAttribute.Renders (raw : RawAttribute) (a : String × String) : Prop where
  name : raw.name = a.1.toList
  quote : raw.quote = '"' ∨ raw.quote = '\''
  value : ∃ written rest, raw.value = written ++ raw.quote :: rest ∧
    WritesValue raw.quote a.2.toList written

section Attributes

variable {a : String × String} {as prior : List (String × String)} {raws : List RawAttribute}
  {s rest start element : List Char} {scope : Scope} {isEmpty : Bool}

lemma scanAttribute_append (h : IsAttribute a) (rest : List Char) :
    ∃ raw, scanAttribute (a.1.toList ++ '=' :: (quoteValue a.2.toList ++ rest)) = .ok (raw, rest) ∧
      raw.Renders a := by
  obtain ⟨quote, written, hquote, hvalue, hwrites⟩ := exists_quoteValue a.2.toList
  rw [hvalue, List.cons_append, List.append_assoc, List.singleton_append]
  refine ⟨⟨a.1.toList, a.1.toList ++ '=' :: (quote :: (written ++ quote :: rest)), quote,
    written ++ quote :: rest⟩, ?_, rfl, hquote, written, rest, rfl, hwrites⟩
  have hname := scanQualifiedName_append h.name (d := '=') (by decide) (by decide)
    (quote :: (written ++ quote :: rest))
  have hsign : expect '=' (dropSpaces ('=' :: quote :: (written ++ quote :: rest))) =
      .ok (quote :: (written ++ quote :: rest)) := rfl
  have hscan : scanQuote (dropSpaces (quote :: (written ++ quote :: rest))) =
      .ok (quote, written ++ quote :: rest) := by
    rcases hquote with rfl | rfl <;> rfl
  have hend := scanValueEnd_of_writesValue hwrites hquote h.value rest
  rw [scanAttribute, hname]
  simp only [bind, Except.bind, hsign, hscan, hend]
  rfl

lemma dropSpaces_of_head (h : s.head?.any isSpace = false) : dropSpaces s = s := by
  cases s with
  | nil => rfl
  | cons c s => exact List.dropWhile_cons_of_neg (by simpa using h)

lemma scanAttributes_space {raw : RawAttribute} (hhead : s.head?.any isNameStart = true)
    (h : scanAttribute s = .ok (raw, rest)) :
    scanAttributes (' ' :: s) = (scanAttributes rest).map fun (as, r) => (raw :: as, r) := by
  have hspaces : dropSpaces (' ' :: s) = s := by
    obtain ⟨c, hc, hstart⟩ := (Option.any_eq_true _ _).mp hhead
    have hs : s.head?.any isSpace = false := by
      rw [hc]
      exact isSpace_of_isNameStart hstart
    exact (List.dropWhile_cons_of_pos rfl).trans (dropSpaces_of_head hs)
  have hmore : ((' ' :: s).head?.any isSpace && (dropSpaces (' ' :: s)).head?.any isNameStart) =
      true := by rw [hspaces, hhead]; rfl
  rw [scanAttributes, if_pos hmore]
  split
  · next hfault => rw [hspaces, h] at hfault; cases hfault
  · next heq =>
    rw [hspaces, h] at heq
    cases heq
    rfl

/-- The attributes of a tag are scanned one by one, up to the end of the tag. -/
lemma scanAttributes_append (h : ∀ a ∈ as, IsAttribute a) (hs : s.head?.any isSpace = false)
    (hend : scanTagEnd s = .ok (isEmpty, rest)) :
    ∃ raws, scanAttributes (as.flatMap writeAttribute ++ s) = .ok (raws, isEmpty, rest) ∧
      List.Forall₂ RawAttribute.Renders raws as := by
  induction as with
  | nil =>
    refine ⟨[], ?_, .nil⟩
    rw [List.flatMap_nil, List.nil_append, scanAttributes]
    simp only [hs, Bool.false_and, Bool.false_eq_true, if_false, dropSpaces_of_head hs, hend]
    rfl
  | cons a as ih =>
    obtain ⟨ha, has⟩ := List.forall_mem_cons.mp h
    obtain ⟨raws, hraws, hrender⟩ := ih has
    obtain ⟨raw, hraw, hrendera⟩ := scanAttribute_append ha (as.flatMap writeAttribute ++ s)
    refine ⟨raw :: raws, ?_, .cons hrendera hrender⟩
    have hwritten : (a :: as).flatMap writeAttribute ++ s =
        ' ' :: (a.1.toList ++ '=' :: (quoteValue a.2.toList ++
          (as.flatMap writeAttribute ++ s))) := by
      simp [writeAttribute]
    have hhead : (a.1.toList ++ '=' :: (quoteValue a.2.toList ++
        (as.flatMap writeAttribute ++ s))).head?.any isNameStart = true := by
      obtain ⟨c, more, hname, hstart⟩ := ha.name.exists_cons
      rw [hname]
      exact hstart
    rw [hwritten, scanAttributes_space hhead hraw, hraws]
    rfl

/-- A start tag is scanned with its name and its attributes. -/
lemma scanOpening_append {name : List Char} (hname : IsName name) (h : ∀ a ∈ as, IsAttribute a)
    (hs : s = '>' :: rest ∧ isEmpty = false ∨ s = '/' :: '>' :: rest ∧ isEmpty = true) :
    ∃ raws, scanOpening (name ++ as.flatMap writeAttribute ++ s) =
        .ok (.opening name raws isEmpty, rest) ∧ List.Forall₂ RawAttribute.Renders raws as := by
  have hend : s.head?.any isSpace = false ∧ scanTagEnd s = .ok (isEmpty, rest) := by
    rcases hs with ⟨rfl, rfl⟩ | ⟨rfl, rfl⟩ <;> exact ⟨rfl, rfl⟩
  obtain ⟨raws, hraws, hrender⟩ := scanAttributes_append h hend.1 hend.2
  have hnext : ∃ d more, as.flatMap writeAttribute ++ s = d :: more ∧
      isNameChar d = false ∧ d ≠ ':' := by
    cases as with
    | nil =>
      rcases hs with ⟨rfl, -⟩ | ⟨rfl, -⟩
      · exact ⟨_, _, rfl, by decide, by decide⟩
      · exact ⟨_, _, rfl, by decide, by decide⟩
    | cons a as => exact ⟨_, _, rfl, by decide, by decide⟩
  obtain ⟨d, more, hmore, hd, hcolon⟩ := hnext
  refine ⟨raws, ?_, hrender⟩
  rw [List.append_assoc, scanOpening, hmore, scanQualifiedName_append hname hd hcolon, ← hmore]
  simp only [bind, Except.bind, hraws]
  rfl

lemma declaredPrefix?_of_isAttribute (h : IsAttribute a) : declaredPrefix? a.1.toList = none := by
  have hne : a.1.toList ≠ xmlnsPrefix := fun heq => h.plain (String.toList_inj.mp heq)
  rw [declaredPrefix?, if_neg hne, splitName_of_isName h.name]

lemma TagReading.addRaw_of_renders {raw : RawAttribute} {t : TagReading} (hraw : raw.Renders a)
    (ha : IsAttribute a) (hnew : a.1.toList ∉ t.seen) (start element : List Char) :
    TagReading.addRaw Declarations.none start element t raw =
      .ok ⟨t.scope, a.1.toList :: t.seen, (a.1.toList, a.2.toList) :: t.attributes⟩ := by
  obtain ⟨hname, hquote, written, rest, hvalue, hwrites⟩ := hraw
  have hseen : ¬t.seen.contains raw.name = true := by
    simpa [hname] using hnew
  have hread : ValueContext.read ⟨raw.quote, false, true, start⟩ [] raw.value =
      .ok a.2.toList := by
    rw [hvalue]
    exact ValueContext.read_of_writesValue ⟨raw.quote, false, true, start⟩ hwrites hquote rfl
      [] rest
  have htypes : Declarations.none.isTokenised element raw.name = false := rfl
  have hdecides : Declarations.none.decidesEntities = true := rfl
  rw [TagReading.addRaw, if_neg hseen, htypes, hdecides]
  simp only [bind, Except.bind, hread]
  rw [TagReading.add, hname, declaredPrefix?_of_isAttribute ha]

lemma foldlM_addRaw {t : TagReading} (h : List.Forall₂ RawAttribute.Renders raws as)
    (has : ∀ a ∈ as, IsAttribute a) (hdistinct : (as.map Prod.fst).Nodup)
    (hnew : ∀ a ∈ as, a.1.toList ∉ t.seen) (start element : List Char) :
    ∃ seen, raws.foldlM (TagReading.addRaw Declarations.none start element) t =
      .ok ⟨t.scope, seen, (as.map fun a => (a.1.toList, a.2.toList)).reverse ++ t.attributes⟩ := by
  induction h generalizing t with
  | nil => exact ⟨t.seen, rfl⟩
  | @cons raw a raws as hraw _ ih =>
    obtain ⟨ha, has⟩ := List.forall_mem_cons.mp has
    obtain ⟨hfirst, hdistinct⟩ := List.nodup_cons.mp hdistinct
    obtain ⟨hnewa, hnew⟩ := List.forall_mem_cons.mp hnew
    have hstep := TagReading.addRaw_of_renders hraw ha hnewa start element
    obtain ⟨seen, hseen⟩ := ih
      (t := ⟨t.scope, a.1.toList :: t.seen, (a.1.toList, a.2.toList) :: t.attributes⟩) has
      hdistinct fun b hb => by
        rw [List.mem_cons, not_or, String.toList_inj]
        exact ⟨fun heq => hfirst (heq ▸ List.mem_map_of_mem hb), hnew b hb⟩
    refine ⟨seen, ?_⟩
    rw [List.foldlM_cons, hstep, List.map_cons, List.reverse_cons, List.append_assoc]
    exact hseen

/-- An attribute without a namespace. -/
def expandedAttribute (a : String × String) : ExpandedName × List Char :=
  (⟨none, a.1.toList⟩, a.2.toList)

lemma expandAll_append (prior : List (String × String)) (has : ∀ a ∈ as, IsAttribute a)
    (hdistinct : ((prior ++ as).map Prod.fst).Nodup) (scope : Scope) (start : List Char) :
    expandAll scope start (prior.map expandedAttribute)
      (as.map fun a => (a.1.toList, a.2.toList)) = .ok ((prior ++ as).map expandedAttribute) := by
  induction as generalizing prior with
  | nil => simp [expandAll]
  | cons a as ih =>
    obtain ⟨ha, has⟩ := List.forall_mem_cons.mp has
    have hexpand : scope.expandAttribute a.1.toList = .ok ⟨none, a.1.toList⟩ := by
      rw [Scope.expandAttribute, splitName_of_isName ha.name]
    have hnew : ¬(prior.map expandedAttribute).any (·.1 == ⟨none, a.1.toList⟩) = true := by
      simp only [List.any_eq_true, List.mem_map, not_exists, not_and, beq_iff_eq]
      rintro _ ⟨b, hb, rfl⟩ heq
      obtain ⟨-, -, hcross⟩ := List.nodup_append.mp (List.map_append ▸ hdistinct)
      exact hcross b.1 (List.mem_map_of_mem hb) a.1 List.mem_cons_self
        (String.toList_inj.mp (congrArg ExpandedName.part heq))
    have hmore := ih (prior ++ [a]) has (by simpa using hdistinct)
    rw [List.map_cons, expandAll, hexpand]
    simp only [if_neg hnew]
    simpa [expandedAttribute] using hmore

lemma stripAll_expanded (as : List (String × String)) :
    Attributes.stripAll (as.map expandedAttribute) = as := by
  have hnone : ((as.map expandedAttribute).map Prod.fst).filter (·.uri.isSome) = [] := by
    rw [List.filter_eq_nil_iff]
    intro n hn
    obtain ⟨a, -, rfl⟩ := List.mem_map.mp (List.map_map ▸ hn)
    exact Bool.false_ne_true
  rw [Attributes.stripAll, hnone]
  simp [expandedAttribute, Function.comp_def]

/-- A tag that is written with different names is resolved to the attributes that it is written
with, in their order. -/
lemma readTag_of_renders {name : List Char} (hname : IsName name)
    (h : List.Forall₂ RawAttribute.Renders raws as) (has : ∀ a ∈ as, IsAttribute a)
    (hdistinct : (as.map Prod.fst).Nodup) :
    readTag Declarations.none scope start name raws = .ok ⟨scope, name, as⟩ := by
  obtain ⟨seen, hfold⟩ := foldlM_addRaw (t := ⟨scope, [], []⟩) h has hdistinct
    (fun _ _ => List.not_mem_nil) start name
  have hdefaults : Declarations.none.attributesOf name = [] := rfl
  have hexpand := expandAll_append [] has hdistinct scope start
  have helement : scope.elementName name = .ok name := by
    rw [Scope.elementName, splitName_of_isName hname]
  rw [readTag, hfold, hdefaults]
  simp only [bind, Except.bind, pure, Except.pure, List.foldlM_nil, List.append_nil,
    List.reverse_reverse]
  rw [List.map_nil] at hexpand
  simp only [hexpand, helement, List.nil_append, stripAll_expanded]

end Attributes

end QuizPreflight.Markup
