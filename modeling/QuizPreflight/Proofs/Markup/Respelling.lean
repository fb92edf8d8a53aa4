import QuizPreflight.Proofs.Markup.Expansion
import QuizPreflight.Proofs.Markup.Naming

/-!
# Other spellings of a document

A document may spell the same names with other prefixes, or with a default namespace in place of
a prefix, and it may call its namespaces otherwise. The reader that resolves names while it reads
is compared with one that keeps them as they are written, so that two spellings of one document
can be recognised by what their names stand for.
-/
namespace QuizPreflight.Markup

/-! ### Documents as they are written -/

/-- One more attribute that is written in a tag. -/
def addWritten (d : Declarations) (start element : List Char)
    (written : List (List Char × List Char)) (a : RawAttribute) :
    Except Fault (List (List Char × List Char)) :=
  if written.any (·.1 == a.name) then .error (.at .duplicateAttribute a.start)
  else do
    let ctx : ValueContext := ⟨a.quote, d.isTokenised element a.name, d.decidesEntities, start⟩
    return written ++ [(a.name, ← ctx.read [] a.value)]

/-- A declared value stands for an attribute that is left out. -/
def addAbsent (written : List (List Char × List Char)) (a : DeclaredAttribute) :
    List (List Char × List Char) :=
  a.value.elim written fun value =>
    if written.any (·.1 == a.name) then written else written ++ [(a.name, value)]

/-- A start tag whose names are left as they are written. Declarations of prefixes are attributes
like all others. -/
def draftTag (d : Declarations) (start name : List Char) (raws : List RawAttribute) :
    Except Fault Tag := do
  let written ← raws.foldlM (addWritten d start name) []
  let all := (d.attributesOf name).foldl addAbsent written
  return ⟨[], name, all.map fun a => (String.ofList a.1, String.ofList a.2)⟩

/-- Takes in one token; all but start tags are taken in as usual. -/
def Stack.stepDraft (d : Declarations) (k : Stack) (start : List Char) :
    Token × List Char → Except Fault (Progress × List Char)
  | (.opening name raws isEmpty, s) => do
    let tag ← draftTag d start name raws
    let opened := k.push name tag
    return (if isEmpty then opened.pop else .inside opened, s)
  | t => k.step d start t

/-- Reads up to the end of the root element with at most so many tokens. -/
def readDraftContent (d : Declarations) :
    Stack → List Char → Nat → Except Fault (Element × List Char)
  | _, s, 0 => .error (.at .noElement s)
  | k, s, fuel + 1 => do
    let token ← (scanContent s).mapError (Stop.fault s)
    let next ← k.stepDraft d s token
    match next.1 with
    | .done root => return (root, next.2)
    | .inside k' => readDraftContent d k' next.2 fuel

def readDraftRoot (d : Declarations) (s : List Char) : Except Fault (Element × List Char) := do
  let token ← (scanContent s).mapError (Stop.fault s)
  match token.1 with
  | .opening name raws isEmpty =>
    let tag ← draftTag d s name raws
    let opened : Stack := ⟨⟨name, tag, "", [], []⟩, []⟩
    if isEmpty then return (opened.top.close, token.2)
    else readDraftContent d opened token.2 token.2.length
  | _ => .error (.at .invalidToken token.2)

/-- The tree of a document with all names as they are written, where as much of its attribute
declarations is in force as is left over. -/
def readDraft (inForce : Declarations → Declarations) (text : String) : Except Fault Element := do
  let source := sourceOf (text.toList.dropWhile isLeading)
  let prolog ← readProlog source.chars.length .start Declarations.none source.chars
  let root ← readDraftRoot (inForce prolog.1) prolog.2
  readEpilog root.2.length root.2
  return root.1

/-- What stands in the tags of a document and nothing else. -/
def asWritten : String → Except Fault Element := readDraft fun d => { d with attributes := [] }

/-- What stands in the tags of a document after its attribute declarations have been applied. -/
def asDeclared : String → Except Fault Element := readDraft id

/-- What the names in a document stand for, if all its prefixes are declared. -/
def expansion (read : String → Except Fault Element) (text : String) : Option Expanded :=
  (read text).toOption.bind (Element.expand Scope.initial)

/-- Two documents differ only in prefixes and in declarations of prefixes, while the namespaces of
the second go by other names: element by element, their names stand for the same ones. -/
def Respelled (read : String → Except Fault Element) (ρ : List Char → List Char)
    (text text' : String) : Prop :=
  ∃ x, expansion read text = some x ∧ expansion read text' = some (x.renamed ρ)

/-! ### Tags -/

/-- What a tag is written with stands, in the scope around it, for what it has been resolved to. -/
def Tag.Denotes (scope : Scope) (w t : Tag) : Prop :=
  ∃ x, scope.expandTag (String.ofList w.name).toList
      (w.attributes.map fun a => (a.1.toList, a.2.toList)) = some x ∧
    x.inner = t.scope ∧ x.name.part = t.name ∧ x.attributes.stripAll = t.attributes

/-- The attributes that have been read are those that are written, with their declarations in
force. -/
structure TagReading.Follows (scope : Scope) (t : TagReading)
    (written : List (List Char × List Char)) : Prop where
  seen : ∀ name, t.seen.contains name = written.any (·.1 == name)
  scope : scope.declareAll written = .ok t.scope
  attributes : t.attributes.reverse = proper written

section Tags

variable {d : Declarations} {scope : Scope} {start element name value : List Char}
  {t t' : TagReading} {written : List (List Char × List Char)}

lemma Scope.declareAll_append (scope : Scope) (written : List (List Char × List Char))
    (a : List Char × List Char) :
    scope.declareAll (written ++ [a]) = scope.declareAll written >>= (·.declare a) := by
  simp [Scope.declareAll, List.foldlM_append]

/-- What the rest of the steps hands on is found by the other fold as well. -/
lemma exists_foldlM {ε σ τ α : Type} {R : σ → τ → Prop} {f : σ → α → Except ε σ}
    {g : τ → α → Except ε τ} {l : List α} {s s' : σ} {u : τ} (h : l.foldlM f s = .ok s')
    (hs : R s u) (hstep : ∀ a s s' u, R s u → f s a = .ok s' → ∃ u', g u a = .ok u' ∧ R s' u') :
    ∃ u', l.foldlM g u = .ok u' ∧ R s' u' := by
  induction l generalizing s u with
  | nil =>
    cases h
    exact ⟨u, rfl, hs⟩
  | cons a l ih =>
    rw [List.foldlM_cons] at h
    obtain ⟨s₁, h₁, h⟩ := bind_eq_ok_iff.mp h
    obtain ⟨u₁, hu₁, hs₁⟩ := hstep a s s₁ u hs h₁
    obtain ⟨u', hu', hs'⟩ := ih h hs₁
    exact ⟨u', by rw [List.foldlM_cons, hu₁]; exact hu', hs'⟩

namespace TagReading.Follows

lemma add (ht : t.Follows scope written) (h : t.add start name value = .ok t') :
    t'.Follows scope (written ++ [(name, value)]) := by
  have hseen (n : List Char) : (name :: t.seen).contains n =
      (written ++ [(name, value)]).any (·.1 == n) := by
    rw [List.contains_cons, ht.seen n, List.any_append, Bool.or_comm]
    simp [Bool.beq_eq_decide_eq, eq_comm]
  unfold TagReading.add at h
  split at h
  · next hdeclares =>
    cases h
    refine ⟨hseen, ?_, ?_⟩
    · rw [Scope.declareAll_append, ht.scope]
      simp [bind, Except.bind, Scope.declare, hdeclares]
    · simpa [proper, hdeclares] using ht.attributes
  · next pfx hdeclares =>
    split at h
    · cases h
    · next inner hbind =>
      cases h
      refine ⟨hseen, ?_, ?_⟩
      · rw [Scope.declareAll_append, ht.scope]
        simp [bind, Except.bind, Scope.declare, hdeclares, hbind]
      · simpa [proper, hdeclares] using ht.attributes

lemma addRaw {a : RawAttribute} (ht : t.Follows scope written)
    (h : TagReading.addRaw d start element t a = .ok t') :
    ∃ written', addWritten d start element written a = .ok written' ∧
      t'.Follows scope written' := by
  unfold TagReading.addRaw at h
  unfold addWritten
  rw [ht.seen] at h
  split at h
  · cases h
  · next hfresh =>
    obtain ⟨value, hvalue, h⟩ := bind_eq_ok_iff.mp h
    refine ⟨written ++ [(a.name, value)], ?_, ht.add h⟩
    rw [if_neg hfresh]
    exact bind_eq_ok_iff.mpr ⟨value, hvalue, rfl⟩

lemma addDefault {a : DeclaredAttribute} (ht : t.Follows scope written)
    (h : TagReading.addDefault start t a = .ok t') :
    t'.Follows scope (addAbsent written a) := by
  unfold TagReading.addDefault at h
  unfold addAbsent
  split at h
  · next hnone =>
    cases h
    rw [hnone]
    exact ht
  · next value hvalue =>
    rw [hvalue]
    rw [ht.seen] at h
    simp only [Option.elim_some]
    split at h
    · next hpresent =>
      cases h
      rw [if_pos hpresent]
      exact ht
    · next habsent =>
      rw [if_neg habsent]
      exact ht.add h

lemma addDefaults {l : List DeclaredAttribute} (ht : t.Follows scope written)
    (h : l.foldlM (TagReading.addDefault start) t = .ok t') :
    t'.Follows scope (l.foldl addAbsent written) := by
  induction l generalizing t written with
  | nil =>
    cases h
    exact ht
  | cons a l ih =>
    rw [List.foldlM_cons] at h
    obtain ⟨t₁, h₁, h⟩ := bind_eq_ok_iff.mp h
    exact ih (ht.addDefault h₁) h

end TagReading.Follows

lemma Scope.exists_expandElement {part : List Char} (h : scope.elementName name = .ok part) :
    ∃ n, scope.expandElement name = .ok n ∧ n.part = part := by
  unfold Scope.elementName at h
  unfold Scope.expandElement
  split at h
  · next hsplit =>
    cases h
    rw [hsplit]
    exact ⟨_, rfl, rfl⟩
  · next hsplit =>
    obtain ⟨uri, huri, h⟩ := bind_eq_ok_iff.mp h
    cases h
    exact ⟨⟨some uri, _⟩, by simp [hsplit, huri, Except.map], rfl⟩

/-- A tag that is resolved can be drafted, and the draft stands for it. -/
lemma exists_draftTag {raws : List RawAttribute} {tag : Tag}
    (h : readTag d scope start name raws = .ok tag) :
    ∃ w, draftTag d start name raws = .ok w ∧ w.Denotes scope tag := by
  obtain ⟨t₁, h₁, h⟩ := bind_eq_ok_iff.mp h
  obtain ⟨t₂, h₂, h⟩ := bind_eq_ok_iff.mp h
  obtain ⟨attributes, hattributes, h⟩ := bind_eq_ok_iff.mp h
  have hnone : TagReading.Follows scope ⟨scope, [], []⟩ [] := ⟨fun _ => rfl, rfl, rfl⟩
  obtain ⟨written, hwritten, hfollows₁⟩ := exists_foldlM h₁ hnone
    fun a s s' u hs hstep => hs.addRaw hstep
  have hfollows₂ := hfollows₁.addDefaults h₂
  split at h
  · cases h
  · next part hpart =>
    cases h
    obtain ⟨n, hn, rfl⟩ := Scope.exists_expandElement hpart
    refine ⟨_, bind_eq_ok_iff.mpr ⟨written, hwritten, rfl⟩, ⟨t₂.scope, n, attributes⟩, ?_, rfl,
      rfl, rfl⟩
    rw [Scope.expandTag_eq_some_iff]
    simp only [List.map_map, Function.comp_def, String.toList_ofList, List.map_id']
    exact ⟨hfollows₂.scope, hn,
      expandAll_eq_ok_of_start (hfollows₂.attributes ▸ hattributes) []⟩

end Tags

/-! ### Elements -/

/-- What an element is written with stands, in the scope around it, for an element that is left
with local parts. -/
def Element.Denotes (scope : Scope) (w e : Element) : Prop :=
  ∃ x, w.expand scope = some x ∧ x.stripped = e

structure OpenElement.Denotes (scope : Scope) (w o : OpenElement) : Prop where
  rawName : w.rawName = o.rawName
  tag : w.tag.Denotes scope o.tag
  text : w.text = o.text
  children : List.Forall₂ (Element.Denotes o.tag.scope) w.children o.children
  pending : w.pending = o.pending

/-- The scope inside the innermost of the open elements. -/
def scopeWithin : List OpenElement → Scope
  | [] => Scope.initial
  | o :: _ => o.tag.scope

/-- Open elements, the innermost first, stand for others in the scopes that these make. -/
inductive DenoteAll : List OpenElement → List OpenElement → Prop
  | nil : DenoteAll [] []
  | cons {w o : OpenElement} {ws os : List OpenElement} :
      w.Denotes (scopeWithin os) o → DenoteAll ws os → DenoteAll (w :: ws) (o :: os)

def Stack.Denotes (w k : Stack) : Prop := DenoteAll (w.top :: w.below) (k.top :: k.below)

inductive Progress.Denotes : Progress → Progress → Prop
  | inside {w k : Stack} : w.Denotes k → Progress.Denotes (.inside w) (.inside k)
  | done {w e : Element} : w.Denotes Scope.initial e → Progress.Denotes (.done w) (.done e)

section Elements

variable {scope : Scope} {w e : Element} {c : Char}

lemma Element.Denotes.withTail (h : w.Denotes scope e) (s : String) :
    (w.withTail s).Denotes scope (e.withTail s) := by
  obtain ⟨x, hx, rfl⟩ := h
  exact Element.stripped_expand_withTail hx s

/-- An element stands for what its tag and its children stand for. -/
lemma denotes_mk {tag text tail : String} {attributes : List (String × String)} {x : ExpandedTag}
    {ws es : List Element}
    (h : scope.expandTag tag.toList (attributes.map fun a => (a.1.toList, a.2.toList)) = some x)
    (hchildren : List.Forall₂ (Element.Denotes x.inner) ws es) :
    (Element.mk tag attributes text ws tail).Denotes scope
      (.mk (String.ofList x.name.part) x.attributes.stripAll text es tail) := by
  obtain ⟨xs, hxs, hstripped⟩ : ∃ xs, List.Forall₂ (fun w y => w.expand x.inner = some y) ws xs ∧
      xs.map Expanded.stripped = es := by
    induction hchildren with
    | nil => exact ⟨[], .nil, rfl⟩
    | cons hchild _ ih =>
      obtain ⟨y, hy, rfl⟩ := hchild
      obtain ⟨ys, hys, rfl⟩ := ih
      exact ⟨y :: ys, .cons hy hys, rfl⟩
  refine ⟨.mk x.name x.attributes text xs tail, Element.expand_mk_eq_some_iff.mpr
    ⟨x, xs, h, Element.expandEach_eq_some_iff.mpr hxs, rfl⟩, ?_⟩
  rw [Expanded.stripped, Expanded.strippedEach_eq, hstripped]

lemma OpenElement.tag_flush (o : OpenElement) : o.flush.tag = o.tag := by
  unfold OpenElement.flush
  dsimp only
  split <;> rfl

namespace OpenElement.Denotes

variable {w o : OpenElement} {v e : Element}

lemma append (h : w.Denotes scope o) (c : Char) : (w.append c).Denotes scope (o.append c) :=
  ⟨h.rawName, h.tag, h.text, h.children, congrArg (c :: ·) h.pending⟩

lemma flush (h : w.Denotes scope o) : w.flush.Denotes scope o.flush := by
  obtain ⟨rawName, tag, text, children, pending⟩ := w
  obtain ⟨rawName', tag', text', children', pending'⟩ := o
  obtain ⟨rfl, htag, rfl, hchildren, rfl⟩ := h
  cases hchildren with
  | nil => exact ⟨rfl, htag, rfl, .nil, rfl⟩
  | cons hchild hchildren => exact ⟨rfl, htag, rfl, .cons (hchild.withTail _) hchildren, rfl⟩

lemma addChild (h : w.Denotes scope o) (he : v.Denotes o.tag.scope e) :
    (w.addChild v).Denotes scope (o.addChild e) := by
  have hflush := h.flush
  have hchild : v.Denotes o.flush.tag.scope e := by rwa [tag_flush]
  exact ⟨hflush.rawName, hflush.tag, hflush.text, .cons hchild hflush.children, hflush.pending⟩

lemma close (h : w.Denotes scope o) : w.close.Denotes scope o.close := by
  have hflush := h.flush
  obtain ⟨x, hx, hinner, hname, hattributes⟩ := h.tag
  have hchildren := List.rel_reverse hflush.children
  rw [tag_flush, ← hinner] at hchildren
  unfold OpenElement.close
  rw [← hname, ← hattributes, hflush.text]
  exact denotes_mk hx hchildren

end OpenElement.Denotes

namespace Stack.Denotes

variable {w k : Stack} {tag tag' : Tag}

lemma append (h : w.Denotes k) (c : Char) : (w.append c).Denotes (k.append c) := by
  cases h with
  | cons htop hbelow => exact .cons (htop.append c) hbelow

lemma push (h : w.Denotes k) (rawName : List Char) (htag : tag.Denotes k.top.tag.scope tag') :
    (w.push rawName tag).Denotes (k.push rawName tag') :=
  .cons ⟨rfl, htag, rfl, .nil, rfl⟩ h

lemma pop (h : w.Denotes k) : w.pop.Denotes k.pop := by
  obtain ⟨top, below⟩ := w
  obtain ⟨top', below'⟩ := k
  cases h with
  | cons htop hbelow =>
    cases hbelow with
    | nil => exact .done htop.close
    | cons ho hbelow => exact .inside (.cons (ho.addChild htop.close) hbelow)

end Stack.Denotes

end Elements

/-! ### Content -/

section Content

variable {d : Declarations} {w k k' : Stack} {p : Progress} {s rest start : List Char}
  {t : Token × List Char} {root : Element}

lemma exists_readSection (hk : w.Denotes k) (h : readSection k s = .ok (k', rest)) :
    ∃ w', readSection w s = .ok (w', rest) ∧ w'.Denotes k' := by
  fun_induction readSection k s generalizing w with
  | case1 => cases h
  | case2 =>
    cases h
    exact ⟨w, rfl, hk⟩
  | case3 => cases h
  | case4 => cases h
  | case5 => cases h
  | case6 k s ih => exact ih (hk.append _) h
  | case7 => cases h
  | case8 k c s _ _ _ _ _ hallowed ih =>
    rw [readSection, if_neg hallowed]
    · exact ih (hk.append _) h
    -- no other clause is for this text
    all_goals assumption

/-- One token is taken in by the draft as well, and the draft goes on to stand for what is read. -/
lemma exists_stepDraft (hk : w.Denotes k) (h : k.step d start t = .ok (p, rest)) :
    ∃ q, w.stepDraft d start t = .ok (q, rest) ∧ q.Denotes p := by
  unfold Stack.step at h
  split at h
  · cases h
    exact ⟨_, rfl, .inside (hk.append _)⟩
  · obtain ⟨c, hc, h⟩ := bind_eq_ok_iff.mp h
    cases h
    exact ⟨_, bind_eq_ok_iff.mpr ⟨c, hc, rfl⟩, .inside (hk.append c)⟩
  · next name raws isEmpty rest =>
    obtain ⟨tag, htag, h⟩ := bind_eq_ok_iff.mp h
    obtain ⟨drafted, hdrafted, hdenotes⟩ := exists_draftTag htag
    have hpush := hk.push name hdenotes
    cases h
    refine ⟨_, bind_eq_ok_iff.mpr ⟨drafted, hdrafted, rfl⟩, ?_⟩
    split
    · exact hpush.pop
    · exact .inside hpush
  · next name place rest =>
    have hname : w.top.rawName = k.top.rawName := by
      cases hk with
      | cons htop hbelow => exact htop.rawName
    split at h
    · next heq =>
      cases h
      refine ⟨_, ?_, hk.pop⟩
      exact if_pos (heq.trans hname.symm)
    · cases h
  · obtain ⟨⟨k', _⟩, hsection, h⟩ := bind_eq_ok_iff.mp h
    obtain ⟨w', hw', hdenotes⟩ := exists_readSection hk hsection
    cases h
    exact ⟨_, bind_eq_ok_iff.mpr ⟨_, hw', rfl⟩, .inside hdenotes⟩
  · cases h
  · cases h
    exact ⟨_, rfl, .inside hk⟩
  · cases h
    exact ⟨_, rfl, .inside hk⟩

lemma exists_readDraftContent {fuel : Nat} (hk : w.Denotes k)
    (h : readContent d fuel k s = .ok (root, rest)) :
    ∃ draft, readDraftContent d w s fuel = .ok (draft, rest) ∧
      draft.Denotes Scope.initial root := by
  induction fuel generalizing w k s with
  | zero => cases h
  | succ fuel ih =>
    rw [readContent] at h
    split at h
    · cases h
    · split at h
      · cases h
      · next token hscan =>
        rw [readDraftContent, hscan]
        split at h
        · cases h
        · next hstep =>
          cases h
          obtain ⟨q, hq, hdenotes⟩ := exists_stepDraft hk hstep
          cases hdenotes with
          | done hroot =>
            exact ⟨_, bind_eq_ok_iff.mpr ⟨token, rfl, bind_eq_ok_iff.mpr ⟨_, hq, rfl⟩⟩, hroot⟩
        · next hstep =>
          obtain ⟨q, hq, hdenotes⟩ := exists_stepDraft hk hstep
          cases hdenotes with
          | inside hinside =>
            obtain ⟨draft, hdraft, hroot⟩ := ih hinside h
            exact ⟨draft, bind_eq_ok_iff.mpr ⟨token, rfl, bind_eq_ok_iff.mpr ⟨_, hq, hdraft⟩⟩,
              hroot⟩

lemma exists_readDraftRoot (h : readRoot d s = .ok (root, rest)) :
    ∃ draft, readDraftRoot d s = .ok (draft, rest) ∧ draft.Denotes Scope.initial root := by
  unfold readRoot at h
  split at h
  · cases h
  · next name raws isEmpty rest hscan =>
    obtain ⟨tag, htag, h⟩ := bind_eq_ok_iff.mp h
    obtain ⟨drafted, hdrafted, hdenotes⟩ := exists_draftTag htag
    have hopened : OpenElement.Denotes Scope.initial ⟨name, drafted, "", [], []⟩
        ⟨name, tag, "", [], []⟩ := ⟨rfl, hdenotes, rfl, .nil, rfl⟩
    unfold readDraftRoot
    rw [hscan]
    dsimp only at h
    split at h
    · next hempty =>
      cases h
      refine ⟨_, bind_eq_ok_iff.mpr ⟨_, rfl, bind_eq_ok_iff.mpr ⟨drafted, hdrafted, ?_⟩⟩,
        hopened.close⟩
      exact if_pos hempty
    · next hopen =>
      have hstack : Stack.Denotes ⟨⟨name, drafted, "", [], []⟩, []⟩ ⟨⟨name, tag, "", [], []⟩, []⟩ :=
        .cons hopened .nil
      obtain ⟨draft, hdraft, hroot⟩ := exists_readDraftContent hstack h
      refine ⟨draft, bind_eq_ok_iff.mpr ⟨_, rfl, bind_eq_ok_iff.mpr ⟨drafted, hdrafted, ?_⟩⟩,
        hroot⟩
      exact (if_neg hopen).trans hdraft
  · cases h

end Content

/-! ### Spellings -/

/-- A name without the marks that set a namespace off. -/
def Braceless (name : String) : Prop := '{' ∉ name.toList ∧ '}' ∉ name.toList

section Spellings

variable {text : String} {root : Element}

lemma braceless_of_nominal {name : String} (h : Nominal name.toList) : Braceless name := by
  have hopen : isTokenChar '{' = false := by decide
  have hclose : isTokenChar '}' = false := by decide
  constructor <;> intro hmem
  · simp [h _ hmem] at hopen
  · simp [h _ hmem] at hclose

/-- What a document that is accepted is left with is what its names stand for. -/
lemma exists_asDeclared (h : parse text = .ok root) :
    ∃ draft, asDeclared text = .ok draft ∧ draft.Denotes Scope.initial root := by
  obtain ⟨⟨d, s⟩, hprolog, hread⟩ := bind_eq_ok_iff.mp (readDocument_of_parse h)
  obtain ⟨⟨e, rest⟩, hroot, hread⟩ := bind_eq_ok_iff.mp hread
  obtain ⟨done, hepilog, hread⟩ := bind_eq_ok_iff.mp hread
  cases hread
  obtain ⟨draft, hdraft, hdenotes⟩ := exists_readDraftRoot hroot
  refine ⟨draft, ?_, hdenotes⟩
  unfold asDeclared readDraft
  exact bind_eq_ok_iff.mpr ⟨_, hprolog, bind_eq_ok_iff.mpr ⟨_, hdraft,
    bind_eq_ok_iff.mpr ⟨done, hepilog, rfl⟩⟩⟩

lemma expansion_eq_some_iff {read : String → Except Fault Element} {x : Expanded} :
    expansion read text = some x ↔
      ∃ draft, read text = .ok draft ∧ draft.expand Scope.initial = some x := by
  simp only [expansion, Option.bind_eq_some_iff, toOption_eq_some_iff]

/-- The tree of a document is what its names stand for, under their local parts. -/
lemma exists_expansion (h : parse text = .ok root) :
    ∃ x, expansion asDeclared text = some x ∧ x.stripped = root := by
  obtain ⟨draft, hdraft, x, hx, hroot⟩ := exists_asDeclared h
  exact ⟨x, expansion_eq_some_iff.mpr ⟨draft, hdraft, hx⟩, hroot⟩

/-- Namespaces do not matter. No name in the tree of a document holds a brace, each tag is the
local part of what the document has there, and another spelling of the document has the same tree,
whatever it calls its namespaces. -/
theorem parse_respelled (h : parse text = .ok root) :
    (∀ e ∈ root.subtree, Braceless e.tag ∧ ∀ a ∈ e.attributes, Braceless a.1) ∧
    (∃ draft, asDeclared text = .ok draft ∧ (draft.expand Scope.initial).isSome ∧
      root.subtree.map Element.tag = draft.subtree.map fun e => localPart e.tag) ∧
    ∀ ρ text' root', Respelled asDeclared ρ text text' → parse text' = .ok root' →
      root' = root := by
  obtain ⟨draft, hdraft, x, hx, rfl⟩ := exists_asDeclared h
  refine ⟨fun e he => ?_, ⟨draft, hdraft, Option.isSome_of_eq_some hx,
    Element.tags_of_expand draft hx⟩, ?_⟩
  · obtain ⟨htag, hattributes⟩ := named_of_parse h e he
    exact ⟨braceless_of_nominal htag, fun a ha => braceless_of_nominal (hattributes a ha)⟩
  · rintro ρ text' root' ⟨y, hy, hrenamed⟩ hroot'
    have hxy := expansion_eq_some_iff.mpr ⟨draft, hdraft, hx⟩
    obtain rfl : x = y := Option.some.inj (hxy.symm.trans hy)
    obtain ⟨x', hx', rfl⟩ := exists_expansion hroot'
    obtain rfl : x' = x.renamed ρ := Option.some.inj (hx'.symm.trans hrenamed)
    obtain ⟨draft', -, hdraft'⟩ := expansion_eq_some_iff.mp hrenamed
    exact Expanded.stripped_renamed x hdraft'

def defaultText : String := "<a xmlns='u' xmlns:q='u' q:x=''/>"

def prefixedText : String := "<p:a xmlns:p='v' p:x=''/>"

/-- One prefix takes the place of a default namespace and of another prefix, and the namespace gets
another name. -/
theorem parse_prefixed : ∃ root, parse defaultText = .ok root ∧ parse prefixedText = .ok root ∧
    root.attributes = [("x", "")] := by
  have hdefault : (parse defaultText).toOption.map Element.attributes = some [("x", "")] := by
    decide +kernel
  have hprefixed : (parse prefixedText).toOption.map Element.tag = some "a" := by decide +kernel
  have hrespelled : Respelled asDeclared (fun _ => ['v']) defaultText prefixedText := by
    refine ⟨.mk ⟨some ['u'], ['a']⟩ [(⟨some ['u'], ['x']⟩, [])] "" [] "", ?_, ?_⟩
    · decide +kernel
    · decide +kernel
  obtain ⟨root, hroot, hattributes⟩ := exists_of_toOption_map hdefault
  obtain ⟨root', hroot', -⟩ := exists_of_toOption_map hprefixed
  obtain ⟨-, -, hsame⟩ := parse_respelled hroot
  obtain rfl : root' = root := hsame _ _ _ hrespelled hroot'
  exact ⟨root', hroot, hroot', hattributes⟩

def declaredText : String := "<!DOCTYPE a[<!ATTLIST p:a x CDATA '1'>]><p:a xmlns:p='u'/>"

def otherText : String :=
  "<!DOCTYPE a[<!ATTLIST p:a x CDATA '1'>]><q:a xmlns:p='u' xmlns:q='u'/>"

/-- Attribute declarations are about names as they are written: under another prefix, though it
stands for the same namespace, an element no longer has the attribute that is declared for it. -/
theorem respelled_undeclared : Respelled asWritten id declaredText otherText ∧
    (parse declaredText).toOption.map Element.attributes = some [("x", "1")] ∧
    (parse otherText).toOption.map Element.attributes = some [] := by
  refine ⟨⟨.mk ⟨some ['u'], ['a']⟩ [] "" [] "", ?_, ?_⟩, ?_, ?_⟩
  · decide +kernel
  · decide +kernel
  · decide +kernel
  · decide +kernel

end Spellings

end QuizPreflight.Markup
