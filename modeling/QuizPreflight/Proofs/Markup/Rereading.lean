import QuizPreflight.Markup.Document
import QuizPreflight.Proofs.Markup.Nesting
import QuizPreflight.Proofs.Markup.StartTag
import QuizPreflight.Proofs.Text.Character
import QuizPreflight.Proofs.Text.Encoding
import QuizPreflight.Proofs.Text.Matching

/-!
# Written content read back

The inner content of an element may stand in a document as it was written, or with its markup
escaped. The document is read in both cases, and the content of its root element is the same: in the
first the root holds the children again, in the second it holds all of them as text.
-/
namespace QuizPreflight.Markup

open Text

/-- A text that stands in a document as it is. -/
structure IsPlain (s : List Char) : Prop where
  allowed : ∀ c ∈ s, isAllowed c = true
  plain : ∀ c ∈ s, c ≠ '<' ∧ c ≠ '&' ∧ c ≠ '\r'
  unended : ¬ "]]>".toList <:+: s

lemma IsPlain.of_check {s : List Char}
    (h : (s.all fun c => isAllowed c && c != '<' && c != '&' && c != '\r') = true)
    (hend : occurs (literal "]]>".toList) s = false) : IsPlain s := by
  have hall : ∀ c ∈ s, isAllowed c = true ∧ c ≠ '<' ∧ c ≠ '&' ∧ c ≠ '\r' := fun c hc => by
    simpa [and_assoc] using List.all_eq_true.mp h c hc
  refine ⟨fun c hc => (hall c hc).1, fun c hc => (hall c hc).2, ?_⟩
  rintro ⟨before, after, rfl⟩
  have hfound : occurs (literal "]]>".toList) (before ++ "]]>".toList ++ after) = true :=
    occurs_iff.mpr ⟨before, "]]>".toList ++ after, List.append_assoc .., by
      rw [literal_append, Option.isSome_some]⟩
  exact Bool.false_ne_true (hend.symm.trans hfound)

/-- An element of which the parts may stand in a document; its attributes have different names. -/
structure Element.IsWritable (e : Element) : Prop where
  tag : IsName e.tag.toList
  attributes : ∀ a ∈ e.attributes, IsAttribute a
  distinct : (e.attributes.map Prod.fst).Nodup
  text : IsPlain e.text.toList
  tail : IsPlain e.tail.toList

def Element.isWritable (e : Element) : Bool :=
  let isName (s : String) := s.toList.head?.any isNameStart && s.toList.all isNameChar
  let isPlain (s : String) :=
    (s.toList.all fun c => isAllowed c && c != '<' && c != '&' && c != '\r') &&
      !occurs (literal "]]>".toList) s.toList
  isName e.tag && isPlain e.text && isPlain e.tail && decide (e.attributes.map Prod.fst).Nodup &&
    e.attributes.all fun a => isName a.1 && a.1 != "xmlns" && a.2.toList.all isAllowed

lemma Element.IsWritable.of_check {e : Element} (h : e.isWritable = true) : e.IsWritable := by
  simp only [Element.isWritable, Bool.and_eq_true, Bool.not_eq_true', List.all_eq_true,
    decide_eq_true_eq, bne_iff_ne] at h
  obtain ⟨⟨⟨⟨htag, htext⟩, htail⟩, hdistinct⟩, hattributes⟩ := h
  refine ⟨⟨htag.1, htag.2⟩, fun a ha => ?_, hdistinct, .of_check ?_ htext.2, .of_check ?_ htail.2⟩
  · obtain ⟨⟨hname, hplain⟩, hvalue⟩ := hattributes a ha
    exact ⟨⟨hname.1, hname.2⟩, hplain, hvalue⟩
  · simpa [and_assoc] using htext.1
  · simpa [and_assoc] using htail.1

/-! ### Open elements -/

section Open

variable {o : OpenElement} {k : Stack}

def OpenElement.appendAll (o : OpenElement) (s : List Char) : OpenElement :=
  { o with pending := s.reverse ++ o.pending }

def Stack.appendAll (k : Stack) (s : List Char) : Stack := { k with top := k.top.appendAll s }

/-- Takes in elements, each with its tail. -/
def OpenElement.takeIn (o : OpenElement) : List Element → OpenElement
  | [] => o
  | e :: es => ((o.addChild (e.withTail "")).appendAll e.tail.toList).takeIn es

/-- The text and the children that an open element has so far. -/
def OpenElement.content (o : OpenElement) : String × List Element :=
  (o.flush.text, o.flush.children.reverse)

lemma OpenElement.flush_eq (o : OpenElement) :
    o.flush.rawName = o.rawName ∧ o.flush.tag = o.tag ∧ o.flush.pending = [] := by
  unfold OpenElement.flush
  dsimp only
  split <;> exact ⟨rfl, rfl, rfl⟩

lemma OpenElement.content_take (o : OpenElement) (e : Element) (s : List Char) :
    ((o.addChild e).appendAll s).content =
      (o.content.1, o.content.2 ++ [e.withTail (String.ofList s)]) := by
  have hpending := o.flush_eq.2.2
  simp only [OpenElement.content, OpenElement.addChild]
  generalize o.flush = flushed at hpending ⊢
  simp [OpenElement.appendAll, OpenElement.flush, hpending]

lemma withTail_withTail (e : Element) : (e.withTail "").withTail e.tail = e := by
  cases e
  rfl

/-- Elements that are taken in are the next children, each with its tail. -/
lemma OpenElement.content_takeIn (o : OpenElement) (es : List Element) :
    (o.takeIn es).content = (o.content.1, o.content.2 ++ es) := by
  induction es generalizing o with
  | nil => simp [OpenElement.takeIn]
  | cons e es ih =>
    rw [OpenElement.takeIn, ih, OpenElement.content_take, String.ofList_toList, withTail_withTail]
    simp

lemma OpenElement.takeIn_eq (o : OpenElement) (es : List Element) :
    (o.takeIn es).rawName = o.rawName ∧ (o.takeIn es).tag = o.tag := by
  induction es generalizing o with
  | nil => exact ⟨rfl, rfl⟩
  | cons e es ih =>
    obtain ⟨hname, htag⟩ := ih ((o.addChild (e.withTail "")).appendAll e.tail.toList)
    exact ⟨hname.trans o.flush_eq.1, htag.trans o.flush_eq.2.1⟩

/-- An element is closed with the text and the children that were taken in. -/
lemma OpenElement.close_takeIn (rawName : List Char) (tag : Tag) (s : List Char)
    (es : List Element) :
    ((OpenElement.appendAll ⟨rawName, tag, "", [], []⟩ s).takeIn es).close =
      .mk (String.ofList tag.name) tag.attributes (String.ofList s) es "" := by
  have hcontent := OpenElement.content_takeIn (OpenElement.appendAll ⟨rawName, tag, "", [], []⟩ s) es
  have hstart : (OpenElement.appendAll ⟨rawName, tag, "", [], []⟩ s).content =
      (String.ofList s, []) := by
    simp [OpenElement.content, OpenElement.appendAll, OpenElement.flush]
  rw [hstart, List.nil_append, OpenElement.content] at hcontent
  obtain ⟨htext, hchildren⟩ := Prod.mk.inj hcontent
  rw [OpenElement.close, (OpenElement.takeIn_eq _ es).2, htext, hchildren]
  rfl

end Open

/-! ### Tokens -/

section Tokens

variable {k k' k'' : Stack} {s t rest rest' written name : List Char} {c : Char}

/-- Reading goes on from one place to another. Each character in between gives one unit of fuel, so
that enough is left for the rest. -/
def Reads (k : Stack) (s : List Char) (k' : Stack) (rest : List Char) : Prop :=
  ∃ n, n + rest.length ≤ s.length ∧ ∀ fuel,
    readContent Declarations.none (n + fuel) k s = readContent Declarations.none fuel k' rest

lemma Reads.refl (k : Stack) (s : List Char) : Reads k s k s :=
  ⟨0, by simp, fun fuel => by rw [Nat.zero_add]⟩

lemma Reads.trans (h : Reads k s k' t) (h' : Reads k' t k'' rest) : Reads k s k'' rest := by
  obtain ⟨n, hn, hread⟩ := h
  obtain ⟨m, hm, hread'⟩ := h'
  exact ⟨n + m, by omega, fun fuel => by rw [Nat.add_assoc, hread, hread']⟩

/-- What one token leads to. -/
lemma readContent_succ {token : Token × List Char} (hc : c ≠ '\r')
    (hscan : scanContent (c :: s) = .ok token) (fuel : Nat) :
    readContent Declarations.none (fuel + 1) k (c :: s) =
      (k.step Declarations.none (c :: s) token).bind fun (p, rest) =>
        match p with
        | .done root => .ok (root, rest)
        | .inside k' => readContent Declarations.none fuel k' rest := by
  have hmore : ¬isExhausted (c :: s) = true := by simp [isExhausted, hc]
  rw [readContent, if_neg hmore, hscan]
  dsimp only
  cases k.step Declarations.none (c :: s) token with
  | error f => rfl
  | ok p =>
    obtain ⟨p, rest⟩ := p
    cases p <;> rfl

lemma reads_token {token : Token × List Char} (hc : c ≠ '\r')
    (hscan : scanContent (c :: s) = .ok token)
    (hstep : k.step Declarations.none (c :: s) token = .ok (.inside k', rest))
    (hrest : rest.length ≤ s.length) : Reads k (c :: s) k' rest := by
  refine ⟨1, by rw [List.length_cons]; omega, fun fuel => ?_⟩
  rw [Nat.add_comm 1 fuel, readContent_succ hc hscan, hstep]
  rfl

/-- A character is a token of its own unless it begins markup or ends a section. -/
lemma scanContent_character (hallowed : isAllowed c = true) (hc : c ≠ '<' ∧ c ≠ '&' ∧ c ≠ '\r')
    (hend : ¬"]]>".toList <+: c :: s) : scanContent (c :: s) = .ok (.character c, s) := by
  obtain ⟨hless, hamp, hreturn⟩ := hc
  unfold scanContent
  split
  · next heq => cases heq
  · next heq => exact absurd (List.cons.inj heq).1 hless
  · next heq => exact absurd (List.cons.inj heq).1 hamp
  · next rest heq => exact absurd ⟨rest, heq.symm⟩ hend
  · next heq => exact absurd (List.cons.inj heq).1 hreturn
  · next heq =>
    obtain ⟨rfl, rfl⟩ := List.cons.inj heq
    rw [if_neg (by simp [hallowed]), if_neg hreturn]

/-- A text as it is written in content, with references for some of its characters. -/
inductive WritesText : List Char → List Char → Prop
  | nil : WritesText [] []
  | plain {c : Char} {s written : List Char} (hallowed : isAllowed c = true)
      (hc : c ≠ '<' ∧ c ≠ '&' ∧ c ≠ '\r') (h : WritesText s written) :
      WritesText (c :: s) (c :: written)
  | reference {name : List Char} {c : Char} {s written : List Char}
      (hname : (name, c) ∈ valueReferences) (h : WritesText s written) :
      WritesText (c :: s) ('&' :: (name ++ ';' :: written))

lemma IsPlain.writesText (h : IsPlain s) : WritesText s s := by
  obtain ⟨hallowed, hplain, -⟩ := h
  induction s with
  | nil => exact .nil
  | cons c s ih =>
    obtain ⟨hc, hallowed⟩ := List.forall_mem_cons.mp hallowed
    obtain ⟨hcplain, hplain⟩ := List.forall_mem_cons.mp hplain
    exact .plain hc hcplain (ih hallowed hplain)

lemma Stack.appendAll_cons (k : Stack) (c : Char) (s : List Char) :
    (k.append c).appendAll s = k.appendAll (c :: s) := by
  simp [Stack.append, Stack.appendAll, OpenElement.append, OpenElement.appendAll]

/-- A text that is written in content is read up to the next tag. -/
lemma reads_text (h : WritesText s written) (hend : ¬"]]>".toList <:+: written)
    (k : Stack) (rest : List Char) :
    Reads k (written ++ '<' :: rest) (k.appendAll s) ('<' :: rest) := by
  induction h generalizing k with
  | nil => exact Reads.refl k _
  | @plain c s written hallowed hc _ ih =>
    have hhere : ¬"]]>".toList <+: c :: written ++ '<' :: rest := fun hprefix =>
      hend (prefix_of_append_cons (by decide) hprefix).isInfix
    have hfirst : Reads k (c :: written ++ '<' :: rest) (k.append c) (written ++ '<' :: rest) :=
      reads_token hc.2.2 (scanContent_character hallowed hc hhere) rfl le_rfl
    have hmore := ih (fun h => hend (h.trans (List.suffix_cons c written).isInfix)) (k.append c)
    exact hfirst.trans (k.appendAll_cons c s ▸ hmore)
  | @reference name c s written hname _ ih =>
    obtain ⟨r, hscan, hr⟩ := scanReference_append hname (written ++ '<' :: rest)
    have hafter : '&' :: (name ++ ';' :: written) ++ '<' :: rest =
        '&' :: (name ++ ';' :: (written ++ '<' :: rest)) := by simp
    have htoken : scanContent ('&' :: (name ++ ';' :: (written ++ '<' :: rest))) =
        .ok (.reference r, written ++ '<' :: rest) := by
      rw [scanContent, hscan]
      rfl
    have hresolve (start : List Char) : resolve Declarations.none start r = .ok c := by
      rcases hr with ⟨rfl, -⟩ | ⟨rfl, hlookup⟩
      · rfl
      · rw [resolve, hlookup]
    have hstep (start : List Char) : k.step Declarations.none start
        (.reference r, written ++ '<' :: rest) =
          .ok (.inside (k.append c), written ++ '<' :: rest) := by
      rw [Stack.step, hresolve]
      rfl
    have hfirst : Reads k ('&' :: (name ++ ';' :: (written ++ '<' :: rest))) (k.append c)
        (written ++ '<' :: rest) :=
      reads_token (by decide) htoken (hstep _) (by simp; omega)
    have hsuffix : written <:+ '&' :: (name ++ ';' :: written) :=
      (List.suffix_cons ';' written).trans ((List.suffix_append name _).trans (List.suffix_cons _ _))
    have hmore := ih (fun h => hend (h.trans hsuffix.isInfix)) (k.append c)
    exact hafter ▸ hfirst.trans (k.appendAll_cons c s ▸ hmore)

lemma reads_plain (h : IsPlain s) (k : Stack) (rest : List Char) :
    Reads k (s ++ '<' :: rest) (k.appendAll s) ('<' :: rest) :=
  reads_text h.writesText h.unended k rest

end Tokens

/-! ### Elements -/

section Elements

variable {k : Stack} {e : Element} {es : List Element} {s rest name : List Char} {isEmpty : Bool}

/-- Takes in the content of an element: its text and its children. -/
def Stack.takeIn (k : Stack) (text : List Char) (es : List Element) : Stack :=
  { k with top := (k.top.appendAll text).takeIn es }

/-- The tag that an element is written with, in a scope. -/
def Element.tagIn (e : Element) (scope : Scope) : Tag := ⟨scope, e.tag.toList, e.attributes⟩

lemma scanMarkup_of_name (h : s.head?.any isNameStart = true) : scanMarkup s = scanOpening s := by
  cases s with
  | nil => cases h
  | cons c s =>
    have hne (d : Char) (hd : isNameStart d = false) : c ≠ d := by
      rintro rfl
      exact absurd h (by simp [hd])
    unfold scanMarkup
    split
    · next heq => cases heq
    · next heq => exact absurd (List.cons.inj heq).1 (hne '!' (by decide))
    · next heq => exact absurd (List.cons.inj heq).1 (hne '!' (by decide))
    · next heq => exact absurd (List.cons.inj heq).1 (hne '!' (by decide))
    · next heq => exact absurd (List.cons.inj heq).1 (hne '!' (by decide))
    · next heq => exact absurd (List.cons.inj heq).1 (hne '?' (by decide))
    · next heq => exact absurd (List.cons.inj heq).1 (hne '/' (by decide))
    · rfl

lemma head?_opening (h : IsName e.tag.toList) (s : List Char) :
    (e.opening ++ s).head?.any isNameStart = true := by
  obtain ⟨c, more, hname, hstart⟩ := h.exists_cons
  rw [Element.opening, hname]
  exact hstart

/-- The first tag of an element is read to its name and its attributes. -/
lemma step_opening (he : e.IsWritable) (k : Stack)
    (hs : s = '>' :: rest ∧ isEmpty = false ∨ s = '/' :: '>' :: rest ∧ isEmpty = true) :
    ∃ token, scanContent ('<' :: (e.opening ++ s)) = .ok token ∧ ∀ start,
      k.step Declarations.none start token =
        .ok (if isEmpty then (k.push e.tag.toList (e.tagIn k.top.tag.scope)).pop
          else .inside (k.push e.tag.toList (e.tagIn k.top.tag.scope)), rest) := by
  obtain ⟨raws, hscan, hrender⟩ := scanOpening_append he.tag he.attributes hs
  refine ⟨_, (scanMarkup_of_name (head?_opening he.tag s)).trans hscan, fun start => ?_⟩
  rw [Stack.step, readTag_of_renders he.tag hrender he.attributes he.distinct]
  rfl

lemma reads_opening (he : e.IsWritable) (k : Stack) (rest : List Char) :
    Reads k ('<' :: (e.opening ++ '>' :: rest)) (k.push e.tag.toList (e.tagIn k.top.tag.scope))
      rest := by
  obtain ⟨token, hscan, hstep⟩ := step_opening he k (.inl ⟨rfl, rfl⟩)
  exact reads_token (by decide) hscan (hstep _) (by simp; omega)

lemma scanContent_closing (h : IsName name) (rest : List Char) :
    ∃ place, scanContent ('<' :: '/' :: (name ++ '>' :: rest)) =
      .ok (.closing name place, rest) := by
  obtain ⟨c, more, hname, hstart⟩ := h.exists_cons
  have hexpect : expectName (name ++ '>' :: rest) = .ok () := by
    rw [hname, List.cons_append, expectName, if_pos hstart]
  have hall : ∀ c ∈ name, (isNameChar c || c == ':') = true := fun c hc => by
    rw [h.chars c hc, Bool.true_or]
  have hend : (isNameChar '>' || '>' == ':') = false := by decide
  refine ⟨name ++ '>' :: rest, ?_⟩
  have hscan : scanClosing (name ++ '>' :: rest) =
      .ok (.closing name (name ++ '>' :: rest), rest) := by
    rw [scanClosing, hexpect]
    simp only [bind, Except.bind]
    rw [takeWhile_append_cons hend, dropWhile_append_cons hend, List.takeWhile_eq_self_iff.mpr hall,
      List.dropWhile_eq_nil_iff.mpr hall]
    rfl
  exact hscan

lemma step_closing (hname : IsName name) (hraw : k.top.rawName = name) (rest : List Char) :
    ∃ token, scanContent ('<' :: '/' :: (name ++ '>' :: rest)) = .ok token ∧ ∀ start,
      k.step Declarations.none start token = .ok (k.pop, rest) := by
  obtain ⟨place, hscan⟩ := scanContent_closing hname rest
  exact ⟨_, hscan, fun start => if_pos hraw.symm⟩

/-- Where the content of an element has been taken in, closing it makes it a child. -/
lemma pop_takeIn (k : Stack) (e : Element) (scope : Scope) :
    ((k.push e.tag.toList (e.tagIn scope)).takeIn e.text.toList e.children).pop =
      .inside (k.addChild (e.withTail "")) := by
  have hclose := OpenElement.close_takeIn e.tag.toList (e.tagIn scope) e.text.toList e.children
  rw [String.ofList_toList, Element.tagIn, String.ofList_toList] at hclose
  have heq : e.withTail "" = .mk e.tag e.attributes e.text e.children "" := by
    cases e
    rfl
  rw [heq, ← hclose]
  rfl

lemma eq_nil_of_innerChars (h : e.innerChars.isEmpty = true) :
    e.text.toList = [] ∧ e.children = [] := by
  rw [innerChars_eq, List.isEmpty_iff, List.append_eq_nil_iff] at h
  refine ⟨h.1, ?_⟩
  cases hchildren : e.children with
  | nil => rfl
  | cons child more =>
    have hprefix := opening_prefix_writeAll child more
    rw [← hchildren, h.2] at hprefix
    cases List.prefix_nil.mp hprefix

/-- A written element is read to a child without a tail. -/
lemma reads_written (he : e.IsWritable)
    (hinner : ∀ k rest, Reads k (e.innerChars ++ '<' :: rest)
      (k.takeIn e.text.toList e.children) ('<' :: rest)) (k : Stack) (rest : List Char) :
    Reads k (e.written ++ rest) (k.addChild (e.withTail "")) rest := by
  have hpop := pop_takeIn k e k.top.tag.scope
  rw [Element.written]
  split
  · next h =>
    obtain ⟨htext, hchildren⟩ := eq_nil_of_innerChars h
    obtain ⟨token, hscan, hstep⟩ := step_opening he k (s := '/' :: '>' :: rest) (.inr ⟨rfl, rfl⟩)
    rw [htext, hchildren] at hpop
    have hfirst : Reads k ('<' :: (e.opening ++ '/' :: '>' :: rest)) (k.addChild (e.withTail ""))
        rest := by
      refine reads_token (by decide) hscan ((hstep _).trans ?_) (by simp; omega)
      rw [if_pos rfl, ← hpop]
      rfl
    simpa using hfirst
  · have hopened := reads_opening he k (e.innerChars ++ '<' :: '/' :: (e.tag.toList ++ '>' :: rest))
    have hmiddle := hinner (k.push e.tag.toList (e.tagIn k.top.tag.scope))
      ('/' :: (e.tag.toList ++ '>' :: rest))
    have hclosed : Reads ((k.push e.tag.toList (e.tagIn k.top.tag.scope)).takeIn e.text.toList
        e.children) ('<' :: '/' :: (e.tag.toList ++ '>' :: rest)) (k.addChild (e.withTail ""))
        rest := by
      have hraw := (OpenElement.takeIn_eq ((k.push e.tag.toList
        (e.tagIn k.top.tag.scope)).top.appendAll e.text.toList) e.children).1
      obtain ⟨token, hscan, hstep⟩ := step_closing
        (k := (k.push e.tag.toList (e.tagIn k.top.tag.scope)).takeIn e.text.toList e.children)
        he.tag hraw rest
      exact reads_token (by decide) hscan ((hstep _).trans (by rw [hpop])) (by simp; omega)
    simpa using hopened.trans (hmiddle.trans hclosed)

lemma exists_writeAll_append (es : List Element) (rest : List Char) :
    ∃ more, writeAll es ++ '<' :: rest = '<' :: more := by
  cases es with
  | nil => exact ⟨rest, by rw [writeAll, List.nil_append]⟩
  | cons e es =>
    obtain ⟨more, hmore⟩ := opening_prefix_writeAll e es
    exact ⟨e.opening ++ (more ++ '<' :: rest), by rw [← hmore]; simp⟩

mutual

lemma reads_innerChars : ∀ e : Element, IsPlain e.text.toList →
    (∀ y ∈ Element.subtrees e.children, y.IsWritable) → ∀ k rest,
    Reads k (e.innerChars ++ '<' :: rest) (k.takeIn e.text.toList e.children) ('<' :: rest)
  | .mk _ _ text children _, htext, hbelow, k, rest => by
    obtain ⟨more, hmore⟩ := exists_writeAll_append children rest
    have hplain : IsPlain text.toList := htext
    have hread := reads_plain hplain k more
    rw [← hmore] at hread
    rw [Element.innerChars, List.append_assoc]
    exact hread.trans (reads_writeAll children hbelow _ rest)

/-- Written elements are taken in one by one, up to a tag that is not theirs. -/
lemma reads_writeAll : ∀ es : List Element, (∀ y ∈ Element.subtrees es, y.IsWritable) →
    ∀ (k : Stack) (rest : List Char),
    Reads k (writeAll es ++ '<' :: rest) { k with top := k.top.takeIn es } ('<' :: rest)
  | [], _, k, rest => by
    rw [writeAll]
    exact Reads.refl k _
  | e :: es, h, k, rest => by
    rw [Element.subtrees, List.forall_mem_append, Element.subtree_eq, List.forall_mem_cons] at h
    obtain ⟨⟨he, hbelow⟩, hes⟩ := h
    obtain ⟨more, hmore⟩ := exists_writeAll_append es rest
    have hchild := reads_written he (reads_innerChars e he.text hbelow) k
      (e.tail.toList ++ '<' :: more)
    have htail := reads_plain he.tail (k.addChild (e.withTail "")) more
    have hread := hchild.trans htail
    rw [← hmore] at hread
    rw [writeAll_cons, List.append_assoc, List.append_assoc]
    exact hread.trans (reads_writeAll es hes _ rest)

end

end Elements

/-! ### Documents -/

section Documents

variable {e root : Element} {es : List Element} {s rest written : List Char} {isEmpty : Bool}
  {c : Char}

/-- One character of text with an entity where it would be read as markup. -/
def escapeMarkupChar (c : Char) : List Char :=
  if c = '&' then "&amp;".toList
  else if c = '<' then "&lt;".toList
  else if c = '>' then "&gt;".toList
  else [c]

def escapeMarkup (s : String) : String := String.ofList (s.toList.flatMap escapeMarkupChar)

/-- A document with one element around a text. -/
def wrap (s : String) : String := "<m>" ++ s ++ "</m>"

/-- No zero is among the first bytes of a document that begins with a name in a tag. -/
lemma byteOrder?_of_isNameStart (hc : isNameStart c = true) :
    byteOrder? (Utf8.encode (('<' :: c :: s).take 2)) = none := by
  have hzero : c ≠ '\x00' := by
    rintro rfl
    exact absurd hc (by decide)
  obtain ⟨a, more, hchar, hfront⟩ := Utf8.front_encodeChar c []
  have ha : a ≠ 0 := by
    rintro rfl
    exact hzero (Utf8.Front.char.inj hfront).1.symm
  have hbytes : Utf8.encode (('<' :: c :: s).take 2) = 0x3c :: a :: (more ++ []) := by
    rw [List.take_succ_cons, List.take_succ_cons, List.take_zero, Utf8.encode, List.flatMap_cons,
      List.flatMap_cons, List.flatMap_nil, hchar]
    rfl
  rw [hbytes]
  unfold byteOrder?
  split
  · next heq => exact absurd (List.cons.inj heq).1 (by decide)
  · next heq => exact absurd (List.cons.inj (List.cons.inj heq).2).1 ha
  · rfl

lemma scanOuter_of_isNameStart (hc : isNameStart c = true) :
    scanOuter ('<' :: c :: s) = .ok (.root, '<' :: c :: s) := by
  have hne (d : Char) (hd : isNameStart d = false) : c ≠ d := by
    rintro rfl
    exact Bool.false_ne_true (hd.symm.trans hc)
  have hword : (isKeywordChar c || decide (128 ≤ c.toNat)) = true := by
    unfold isNameStart at hc
    split at hc
    · rw [isKeywordChar, hc, Bool.true_or]
    · next h => rw [decide_eq_true (by omega), Bool.or_true]
  rw [scanOuter, if_pos hword]
  · exact hne '!' (by decide)
  · exact hne '?' (by decide)

lemma isName_root : IsName "m".toList := ⟨rfl, List.forall_mem_singleton.mpr rfl⟩

/-- The stack on which an element is the root and has just been opened. -/
def openedRoot (e : Element) : Stack :=
  ⟨⟨e.tag.toList, e.tagIn Scope.initial, "", [], []⟩, []⟩

/-- An element with a written content between its tags. -/
def Element.enclose (e : Element) (written : List Char) : List Char :=
  '<' :: (e.opening ++ '>' :: (written ++ '<' :: '/' :: (e.tag.toList ++ ['>'])))

/-- The first tag of a root element is read to its name and its attributes. -/
lemma readRoot_opening (htag : IsName e.tag.toList) (hattributes : ∀ a ∈ e.attributes, IsAttribute a)
    (hdistinct : (e.attributes.map Prod.fst).Nodup)
    (hs : s = '>' :: rest ∧ isEmpty = false ∨ s = '/' :: '>' :: rest ∧ isEmpty = true) :
    readRoot Declarations.none ('<' :: (e.opening ++ s)) =
      if isEmpty then .ok ((openedRoot e).top.close, rest)
      else readContent Declarations.none rest.length (openedRoot e) rest := by
  obtain ⟨raws, hscan, hrender⟩ := scanOpening_append htag hattributes hs
  have htoken : scanContent ('<' :: (e.opening ++ s)) =
      .ok (.opening e.tag.toList raws isEmpty, rest) :=
    (scanMarkup_of_name (head?_opening htag s)).trans hscan
  rw [readRoot, htoken]
  simp only [readTag_of_renders htag hrender hattributes hdistinct, bind, Except.bind]
  rfl

/-- The content of the root is read up to its end tag. -/
lemma readRoot_enclose (htag : IsName e.tag.toList) (hattributes : ∀ a ∈ e.attributes, IsAttribute a)
    (hdistinct : (e.attributes.map Prod.fst).Nodup)
    (h : ∀ k rest, Reads k (written ++ '<' :: rest) (k.takeIn e.text.toList e.children)
      ('<' :: rest)) :
    readRoot Declarations.none (e.enclose written) = .ok (e.withTail "", []) := by
  obtain ⟨n, hn, hread⟩ := h (openedRoot e) ('/' :: (e.tag.toList ++ ['>']))
  obtain ⟨fuel, hfuel⟩ : ∃ fuel,
      (written ++ '<' :: '/' :: (e.tag.toList ++ ['>'])).length = n + (fuel + 1) :=
    ⟨(written ++ '<' :: '/' :: (e.tag.toList ++ ['>'])).length - n - 1, by
      rw [List.length_cons] at hn
      omega⟩
  have hraw : ((openedRoot e).takeIn e.text.toList e.children).top.rawName = e.tag.toList :=
    (OpenElement.takeIn_eq _ e.children).1
  obtain ⟨token, hend, hstep⟩ := step_closing htag hraw []
  have hlast := readContent_succ (k := (openedRoot e).takeIn e.text.toList e.children) (by decide)
    hend fuel
  rw [hstep] at hlast
  have hclose := OpenElement.close_takeIn e.tag.toList (e.tagIn Scope.initial) e.text.toList
    e.children
  rw [String.ofList_toList, Element.tagIn, String.ofList_toList] at hclose
  rw [Element.enclose, readRoot_opening htag hattributes hdistinct (.inl ⟨rfl, rfl⟩),
    if_neg Bool.false_ne_true, hfuel, hread (fuel + 1)]
  refine hlast.trans (congrArg (fun root => Except.ok (root, [])) (hclose.trans ?_))
  cases e
  rfl

/-- A document whose root is read to its end begins with the root. -/
lemma parse_of_readRoot (htag : IsName e.tag.toList)
    (hread : readRoot Declarations.none ('<' :: (e.opening ++ s)) = .ok (root, [])) :
    parse (String.ofList ('<' :: (e.opening ++ s))) = .ok root := by
  obtain ⟨c, name, hname, hstart⟩ := htag.exists_cons
  obtain ⟨more, hmore⟩ : ∃ more, e.opening ++ s = c :: more := by
    rw [Element.opening, hname]
    exact ⟨_, rfl⟩
  rw [hmore] at hread ⊢
  have hsource : sourceOf (('<' :: c :: more).dropWhile isLeading) = ⟨'<' :: c :: more, false⟩ := by
    rw [List.dropWhile_cons_of_neg (by decide), sourceOf, byteOrder?_of_isNameStart hstart]
  have hprolog (fuel : Nat) : readProlog (fuel + 1) .start Declarations.none ('<' :: c :: more) =
      .ok (Declarations.none, '<' :: c :: more) := by
    rw [readProlog, scanOuter_of_isNameStart hstart]
    rfl
  have hdocument : readDocument ('<' :: c :: more) = .ok root := by
    rw [readDocument, List.length_cons, hprolog]
    simp only [bind, Except.bind, hread]
    rfl
  rw [parse, String.toList_ofList, hsource, Source.read, hdocument]
  rfl

/-- A document is read to one element with the content that its text is read to. -/
lemma parse_wrap {text : List Char} (h : ∀ k rest,
    Reads k (written ++ '<' :: rest) (k.takeIn text es) ('<' :: rest)) :
    parse (wrap (String.ofList written)) = .ok (.mk "m" [] (String.ofList text) es "") := by
  have hwrap : wrap (String.ofList written) =
      String.ofList ((Element.mk "m" [] (String.ofList text) es "").enclose written) := by
    rw [← String.toList_inj, String.toList_ofList]
    simp [wrap, Element.enclose, Element.opening, Element.tag, Element.attributes]
  have hread : ∀ k rest, Reads k (written ++ '<' :: rest)
      (k.takeIn (String.ofList text).toList es) ('<' :: rest) := by
    rwa [String.toList_ofList]
  rw [hwrap]
  exact parse_of_readRoot isName_root
    (readRoot_enclose isName_root (List.forall_mem_nil _) List.nodup_nil hread)

/-- A written element is a document that is read to the element again. -/
theorem parse_element_written (he : e.IsWritable)
    (hbelow : ∀ y ∈ Element.subtrees e.children, y.IsWritable) :
    parse (String.ofList e.written) = .ok (e.withTail "") := by
  rw [Element.written]
  split
  · next h =>
    obtain ⟨htext, hchildren⟩ := eq_nil_of_innerChars h
    have hclose : (openedRoot e).top.close = e.withTail "" := by
      obtain ⟨tag, attributes, text, children, tail⟩ := e
      obtain rfl : text = "" := String.toList_eq_nil_iff.mp htext
      obtain rfl : children = [] := hchildren
      simp [openedRoot, OpenElement.close, OpenElement.flush, Element.tagIn, Element.withTail,
        Element.tag, Element.attributes]
    refine parse_of_readRoot he.tag ?_
    rw [readRoot_opening he.tag he.attributes he.distinct (.inr ⟨rfl, rfl⟩), if_pos rfl, hclose]
  · exact parse_of_readRoot he.tag (readRoot_enclose he.tag he.attributes he.distinct
      (reads_innerChars e he.text hbelow))

/-- A character that is read as it is, or stands in a reference to the character. -/
def IsReadable (c : Char) : Prop := isAllowed c = true ∧ c ≠ '\r'

set_option maxRecDepth 4096 in
lemma nameRanges_lt : (letterRanges.all fun r => r.2 < 0xfffe) = true ∧
    (extensionRanges.all fun r => r.2 < 0xfffe) = true := ⟨rfl, rfl⟩

lemma isReadable_of_isNameChar {c : Char} (h : isNameChar c = true) : IsReadable c := by
  by_cases hascii : c.toNat < 128
  · exact forall_ascii (P := fun c => isNameChar c = true → isAllowed c = true ∧ c ≠ '\r')
      (by decide) hascii h
  · rw [isNameChar, if_neg hascii, Bool.or_eq_true_iff] at h
    have hlast : c.toNat < 0xfffe := h.elim
      (toNat_lt_of_inRanges nameRanges_lt.1) (toNat_lt_of_inRanges nameRanges_lt.2)
    refine ⟨?_, fun heq => hascii (heq ▸ by decide)⟩
    simp only [isAllowed, Bool.and_eq_true, Bool.or_eq_true, decide_eq_true_eq, bne_iff_ne]
    exact ⟨⟨.inl (by omega), by omega⟩, by omega⟩

/-- A written value has no character that its reader would change. -/
lemma WritesValue.isReadable {quote : Char} {value : List Char}
    (h : WritesValue quote value written) (hvalue : ∀ c ∈ value, isAllowed c = true) :
    ∀ c ∈ written, IsReadable c := by
  intro c hc
  rcases h.mem_or hc with ⟨hmem, hescape, -⟩ | hreference
  · refine ⟨hvalue c hmem, ?_⟩
    rintro rfl
    exact hescape (by decide)
  · have htable : (referenceChars.all fun d => isAllowed d && d != '\r') = true := rfl
    have hd := List.all_eq_true.mp htable c hreference
    rw [Bool.and_eq_true, bne_iff_ne] at hd
    exact hd

lemma IsAttribute.isReadable {a : String × String} (h : IsAttribute a) :
    ∀ c ∈ writeAttribute a, IsReadable c := by
  obtain ⟨quote, value, hquote, hvalue, hwrites⟩ := exists_quoteValue a.2.toList
  have hends : IsReadable quote := by
    rcases hquote with rfl | rfl <;> exact ⟨rfl, by decide⟩
  rw [writeAttribute, hvalue]
  simp only [List.forall_mem_cons, List.forall_mem_append]
  exact ⟨⟨rfl, by decide⟩, fun c hc => isReadable_of_isNameChar (h.name.chars c hc),
    ⟨rfl, by decide⟩, hends, hwrites.isReadable h.value, hends, List.forall_mem_nil _⟩

lemma IsPlain.isReadable (h : IsPlain s) : ∀ c ∈ s, IsReadable c :=
  fun c hc => ⟨h.allowed c hc, (h.plain c hc).2.2⟩

lemma Element.IsWritable.consists (h : e.IsWritable) : e.Consists IsReadable where
  opening := by
    refine List.forall_mem_append.mpr
      ⟨fun c hc => isReadable_of_isNameChar (h.tag.chars c hc), fun c hc => ?_⟩
    obtain ⟨a, ha, hc⟩ := List.mem_flatMap.mp hc
    exact (h.attributes a ha).isReadable c hc
  text := h.text.isReadable
  tail := h.tail.isReadable

/-- No character of a written element ends a line in another way than a newline. -/
lemma notMem_written (he : e.IsWritable)
    (hbelow : ∀ y ∈ Element.subtrees e.children, y.IsWritable) : '\r' ∉ e.written := by
  have hmarks : IsReadable '<' ∧ IsReadable '>' ∧ IsReadable '/' :=
    ⟨⟨rfl, by decide⟩, ⟨rfl, by decide⟩, ⟨rfl, by decide⟩⟩
  have hinner := forall_mem_innerChars hmarks e he.text.isReadable fun y hy => (hbelow y hy).consists
  exact fun hmem => (forall_mem_written hmarks he.consists hinner _ hmem).2 rfl

lemma writesText_escapeMarkup (h : ∀ c ∈ s, IsReadable c) :
    WritesText s (s.flatMap escapeMarkupChar) := by
  induction s with
  | nil => exact .nil
  | cons c s ih =>
    obtain ⟨⟨hallowed, hreturn⟩, hs⟩ := List.forall_mem_cons.mp h
    have hmore := ih hs
    rw [List.flatMap_cons, escapeMarkupChar]
    split
    · next hc => exact hc ▸ .reference (show ("amp".toList, '&') ∈ valueReferences by decide) hmore
    · next hamp =>
      split
      · next hc => exact hc ▸ .reference (show ("lt".toList, '<') ∈ valueReferences by decide) hmore
      · next hless =>
        split
        · next hc => exact hc ▸ .reference (show ("gt".toList, '>') ∈ valueReferences by decide) hmore
        · exact .plain hallowed ⟨hless, hamp, hreturn⟩ hmore

/-- Where markup is escaped, nothing ends a section. -/
lemma unended_escapeMarkup (s : List Char) : ¬"]]>".toList <:+: s.flatMap escapeMarkupChar := by
  intro hended
  obtain ⟨c, -, hc⟩ := List.mem_flatMap.mp (hended.subset (by decide : '>' ∈ "]]>".toList))
  revert hc
  unfold escapeMarkupChar
  split
  · decide
  · split
    · decide
    · split
      · decide
      · next h => exact fun hc => h (List.mem_singleton.mp hc).symm

/-- The written content of an element that is put into a document is read to the same content,
whether it stands there as markup or escaped. -/
theorem parse_wrap_innerHtml (e : Element) (htext : IsPlain e.text.toList)
    (hbelow : ∀ y ∈ Element.subtrees e.children, y.IsWritable) :
    parse (wrap e.innerHtml) = .ok (.mk "m" [] e.text e.children "") ∧
      (Element.mk "m" [] e.text e.children "").innerHtml = e.innerHtml ∧
      ∃ root, parse (wrap (escapeMarkup e.innerHtml)) = .ok root ∧
        root.innerHtml = e.innerHtml := by
  have hsame : (Element.mk "m" [] e.text e.children "").innerHtml = e.innerHtml := by
    rw [Element.innerHtml, Element.innerHtml, innerChars_eq e, Element.innerChars]
  have hreadable : ∀ c ∈ e.innerChars, IsReadable c :=
    forall_mem_innerChars ⟨⟨rfl, by decide⟩, ⟨rfl, by decide⟩, ⟨rfl, by decide⟩⟩ e
      htext.isReadable fun y hy => (hbelow y hy).consists
  have hescaped := reads_text (writesText_escapeMarkup hreadable) (unended_escapeMarkup e.innerChars)
  refine ⟨?markup, hsame, .mk "m" [] e.innerHtml [] "", ?escaped, ?_⟩
  case markup =>
    have hread := parse_wrap (reads_innerChars e htext hbelow)
    rwa [String.ofList_toList] at hread
  case escaped =>
    rw [escapeMarkup, Element.innerHtml, String.toList_ofList]
    exact parse_wrap hescaped
  · rw [Element.innerHtml, Element.innerChars, writeAll, List.append_nil, String.ofList_toList]

/-- A picture with both kinds of quotes and a line break in its attributes, and text after it. -/
def framedPicture : Element :=
  .mk "p" [] "a > " [.mk "img" [("src", "a&b.png"), ("alt", "\"it's\"\n<")] "" [] " c"] ""

theorem parse_wrap_framedPicture :
    IsPlain framedPicture.text.toList ∧
      (∀ y ∈ Element.subtrees framedPicture.children, y.IsWritable) ∧
      parse (wrap framedPicture.innerHtml) =
        .ok (.mk "m" [] framedPicture.text framedPicture.children "") ∧
      ∃ root, parse (wrap (escapeMarkup framedPicture.innerHtml)) = .ok root ∧
        root.innerHtml = framedPicture.innerHtml := by
  have htext : IsPlain framedPicture.text.toList := .of_check rfl rfl
  have hbelow : ∀ y ∈ Element.subtrees framedPicture.children, y.IsWritable := by
    intro y hy
    obtain rfl := List.mem_singleton.mp hy
    have hsrc : IsAttribute ("src", "a&b.png") :=
      ⟨⟨rfl, List.all_eq_true.mp rfl⟩, by decide, List.all_eq_true.mp rfl⟩
    have halt : IsAttribute ("alt", "\"it's\"\n<") :=
      ⟨⟨rfl, List.all_eq_true.mp rfl⟩, by decide, List.all_eq_true.mp rfl⟩
    exact ⟨⟨rfl, List.all_eq_true.mp rfl⟩,
      List.forall_mem_cons.mpr ⟨hsrc, List.forall_mem_singleton.mpr halt⟩, by decide,
      .of_check rfl rfl, .of_check rfl rfl⟩
  obtain ⟨hmarkup, -, hescaped⟩ := parse_wrap_innerHtml framedPicture htext hbelow
  exact ⟨htext, hbelow, hmarkup, hescaped⟩

end Documents

end QuizPreflight.Markup
