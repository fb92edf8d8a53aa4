import Mathlib.Data.List.Basic
import Mathlib.Data.List.TakeWhile
import QuizPreflight.Markup.Document
import QuizPreflight.Proofs.Markup.Nesting
import QuizPreflight.Proofs.Result

/-!
# Names in a tree

The names of elements and attributes come from the tags of a document and from the attributes that
its type declares. All of them are made of name characters, so that no name in the tree of a
document holds an angle bracket, a quote or a blank.
-/
namespace QuizPreflight.Markup

/-- Nothing but name characters and colons. -/
def Nominal (name : List Char) : Prop := ∀ c ∈ name, isTokenChar c = true

structure Tag.Named (t : Tag) : Prop where
  name : Nominal t.name
  attributes : ∀ a ∈ t.attributes, Nominal a.1.toList

/-- The names of an element and of all below it are nominal. -/
def Element.Named (e : Element) : Prop :=
  ∀ x ∈ e.subtree, Nominal x.tag.toList ∧ ∀ a ∈ x.attributes, Nominal a.1.toList

def Declarations.Named (d : Declarations) : Prop := ∀ a ∈ d.attributes, Nominal a.name

/-! ### Tokens -/

section Tokens

variable {s rest name part : List Char} {a : RawAttribute} {raws : List RawAttribute}
  {isEmpty : Bool}

lemma Nominal.of_subset (h : Nominal name) (hpart : part ⊆ name) : Nominal part :=
  fun c hc => h c (hpart hc)

lemma nominal_takeWhile (s : List Char) : Nominal (s.takeWhile isNameChar) := by
  intro c hc
  rw [isTokenChar, List.mem_takeWhile_imp hc, Bool.true_or]

lemma nominal_of_scanName (h : scanName s = .ok (name, rest)) : Nominal name := by
  obtain ⟨_, -, hname⟩ := bind_eq_ok_iff.mp h
  cases hname
  exact nominal_takeWhile s

lemma nominal_of_scanQualifiedName (h : scanQualifiedName s = .ok (name, rest)) :
    Nominal name := by
  obtain ⟨⟨first, s'⟩, hscan, h⟩ := bind_eq_ok_iff.mp h
  have hfirst := nominal_of_scanName hscan
  dsimp only at h
  split at h
  · obtain ⟨⟨second, s''⟩, hscan', h⟩ := bind_eq_ok_iff.mp h
    have hsecond := nominal_of_scanName hscan'
    dsimp only at h
    split at h
    · cases h
    · cases h
      exact List.forall_mem_append.mpr ⟨hfirst, List.forall_mem_cons.mpr ⟨rfl, hsecond⟩⟩
  · cases h
    exact hfirst

lemma nominal_of_scanAttribute (h : scanAttribute s = .ok (a, rest)) : Nominal a.name := by
  obtain ⟨⟨name, _⟩, hname, h⟩ := bind_eq_ok_iff.mp h
  obtain ⟨_, -, h⟩ := bind_eq_ok_iff.mp h
  obtain ⟨⟨_, _⟩, -, h⟩ := bind_eq_ok_iff.mp h
  obtain ⟨_, -, h⟩ := bind_eq_ok_iff.mp h
  cases h
  exact nominal_of_scanQualifiedName hname

lemma nominal_of_scanAttributes (h : scanAttributes s = .ok (raws, isEmpty, rest)) :
    ∀ a ∈ raws, Nominal a.name := by
  fun_induction scanAttributes s generalizing raws with
  | case1 => cases h
  | case2 =>
    rename_i a s' hscan _ ih
    cases hmore : scanAttributes s' with
    | error e => rw [hmore] at h; cases h
    | ok found =>
      obtain ⟨more, flag, after⟩ := found
      rw [hmore] at h
      cases h
      exact List.forall_mem_cons.mpr ⟨nominal_of_scanAttribute hscan, ih hmore⟩
  | case3 s _ =>
    cases hend : scanTagEnd (dropSpaces s) with
    | error e => rw [hend] at h; cases h
    | ok found =>
      rw [hend] at h
      cases h
      exact List.forall_mem_nil _

lemma nominal_of_scanContent (h : scanContent s = .ok (.opening name raws isEmpty, rest)) :
    Nominal name ∧ ∀ a ∈ raws, Nominal a.name := by
  unfold scanContent at h
  split at h
  · cases h
  · unfold scanMarkup at h
    split at h
    · cases h
    · obtain ⟨_, -, h⟩ := bind_eq_ok_iff.mp h
      obtain ⟨_, -, h⟩ := bind_eq_ok_iff.mp h
      cases h
    · obtain ⟨_, -, h⟩ := bind_eq_ok_iff.mp h
      cases h
    · cases h
    · cases h
    · obtain ⟨⟨_, _⟩, -, h⟩ := bind_eq_ok_iff.mp h
      cases h
    · obtain ⟨_, -, h⟩ := bind_eq_ok_iff.mp h
      obtain ⟨_, -, h⟩ := bind_eq_ok_iff.mp h
      cases h
    · obtain ⟨⟨_, _⟩, hname, h⟩ := bind_eq_ok_iff.mp h
      obtain ⟨⟨_, _, _⟩, hraws, h⟩ := bind_eq_ok_iff.mp h
      cases h
      exact ⟨nominal_of_scanQualifiedName hname, nominal_of_scanAttributes hraws⟩
  · obtain ⟨⟨_, _⟩, -, h⟩ := bind_eq_ok_iff.mp h
    cases h
  · cases h
  · cases h
  · split at h <;> cases h

end Tokens

/-! ### Tags -/

section Tags

variable {σ α ε : Type} {P : σ → Prop} {f : σ → α → Except ε σ} {d : Declarations}
  {start name : List Char} {raws : List RawAttribute}

/-- What each step of a fold keeps, the whole fold keeps. -/
lemma of_foldlM {l : List α} {s s' : σ} (h : l.foldlM f s = .ok s') (hs : P s)
    (hstep : ∀ a ∈ l, ∀ s s', P s → f s a = .ok s' → P s') : P s' := by
  induction l generalizing s with
  | nil =>
    cases h
    exact hs
  | cons a l ih =>
    obtain ⟨hfirst, hrest⟩ := List.forall_mem_cons.mp hstep
    rw [List.foldlM_cons] at h
    obtain ⟨s₁, h₁, h⟩ := bind_eq_ok_iff.mp h
    exact ih h (hfirst s s₁ hs h₁) hrest

def TagReading.Named (t : TagReading) : Prop := ∀ a ∈ t.attributes, Nominal a.1

lemma TagReading.named_add {t t' : TagReading} {value : List Char} (ht : t.Named)
    (hname : Nominal name) (h : t.add start name value = .ok t') : t'.Named := by
  unfold TagReading.add at h
  split at h
  · cases h
    exact List.forall_mem_cons.mpr ⟨hname, ht⟩
  · split at h
    · cases h
    · cases h
      exact ht

lemma TagReading.named_addRaw {t t' : TagReading} {a : RawAttribute} {element : List Char}
    (ht : t.Named) (ha : Nominal a.name) (h : TagReading.addRaw d start element t a = .ok t') :
    t'.Named := by
  unfold TagReading.addRaw at h
  split at h
  · cases h
  · obtain ⟨value, -, h⟩ := bind_eq_ok_iff.mp h
    exact named_add ht ha h

lemma TagReading.named_addDefault {t t' : TagReading} {a : DeclaredAttribute} (ht : t.Named)
    (ha : Nominal a.name) (h : TagReading.addDefault start t a = .ok t') : t'.Named := by
  unfold TagReading.addDefault at h
  split at h
  · cases h
    exact ht
  · split at h
    · cases h
      exact ht
    · exact named_add ht ha h

def Attributes.Named (as : Attributes) : Prop := ∀ a ∈ as, Nominal a.1.part

lemma splitName_subset (name : List Char) : (splitName name).2 ⊆ name := by
  unfold splitName
  split
  · exact List.Subset.refl name
  · next h =>
    have hsuffix := List.dropWhile_suffix (l := name) (· != ':')
    rw [h] at hsuffix
    exact List.subset_of_cons_subset hsuffix.subset

lemma nominal_of_expandAttribute {scope : Scope} {expanded : ExpandedName} (hname : Nominal name)
    (h : scope.expandAttribute name = .ok expanded) : Nominal expanded.part := by
  have hpart := hname.of_subset (splitName_subset name)
  unfold Scope.expandAttribute at h
  split at h
  · next hsplit =>
    rw [hsplit] at hpart
    cases h
    exact hpart
  · next hsplit =>
    rw [hsplit] at hpart
    obtain ⟨uri, -, h⟩ := bind_eq_ok_iff.mp h
    cases h
    exact hpart

lemma named_expandAll {scope : Scope} {as : List (List Char × List Char)}
    {done result : Attributes} (hdone : done.Named) (has : ∀ a ∈ as, Nominal a.1)
    (h : expandAll scope start done as = .ok result) : result.Named := by
  induction as generalizing done with
  | nil =>
    cases h
    exact hdone
  | cons a as ih =>
    obtain ⟨name, value⟩ := a
    obtain ⟨hname, has⟩ := List.forall_mem_cons.mp has
    unfold expandAll at h
    split at h
    · cases h
    · next expanded hexpand =>
      split at h
      · cases h
      · have hpart := nominal_of_expandAttribute hname hexpand
        exact ih (List.forall_mem_append.mpr ⟨hdone, List.forall_mem_singleton.mpr hpart⟩) has h

lemma Attributes.Named.foldl_strip {as : Attributes} {names : List ExpandedName} (h : as.Named)
    (hnames : ∀ n ∈ names, Nominal n.part) : (names.foldl Attributes.strip as).Named := by
  induction names generalizing as with
  | nil => exact h
  | cons n names ih =>
    obtain ⟨hn, hnames⟩ := List.forall_mem_cons.mp hnames
    have hstrip : (as.strip n).Named :=
      Attributes.forall_strip (P := fun n => Nominal n.part) h hn
    exact ih hstrip hnames

lemma Attributes.Named.stripAll {as : Attributes} (h : as.Named) :
    ∀ a ∈ as.stripAll, Nominal a.1.toList := by
  intro a ha
  obtain ⟨b, hb, rfl⟩ := List.mem_map.mp ha
  rw [String.toList_ofList]
  refine h.foldl_strip (fun n hn => ?_) b hb
  obtain ⟨a, ha, rfl⟩ := List.mem_map.mp (List.mem_of_mem_filter hn)
  exact h a ha

/-- A tag has the names that it is written with and those that are declared for it. -/
lemma named_of_readTag {scope : Scope} {t : Tag} (hd : d.Named) (hname : Nominal name)
    (hraws : ∀ a ∈ raws, Nominal a.name) (h : readTag d scope start name raws = .ok t) :
    t.Named := by
  obtain ⟨t₁, h₁, h⟩ := bind_eq_ok_iff.mp h
  obtain ⟨t₂, h₂, h⟩ := bind_eq_ok_iff.mp h
  obtain ⟨attributes, hattributes, h⟩ := bind_eq_ok_iff.mp h
  have hwritten : t₁.Named := of_foldlM h₁ (List.forall_mem_nil _)
    fun a ha _ _ ht hstep => TagReading.named_addRaw ht (hraws a ha) hstep
  have hdeclared : t₂.Named := of_foldlM h₂ hwritten fun a ha _ _ ht hstep =>
    TagReading.named_addDefault ht (hd a (List.mem_of_mem_filter ha)) hstep
  have hexpanded : attributes.Named := named_expandAll (List.forall_mem_nil _)
    (fun a ha => hdeclared a (List.mem_reverse.mp ha)) hattributes
  split at h
  · cases h
  · next part hpart =>
    cases h
    refine ⟨?_, hexpanded.stripAll⟩
    have hsubset := hname.of_subset (splitName_subset name)
    unfold Scope.elementName at hpart
    split at hpart
    · next hsplit =>
      rw [hsplit] at hsubset
      cases hpart
      exact hsubset
    · next hsplit =>
      rw [hsplit] at hsubset
      obtain ⟨_, -, hpart⟩ := bind_eq_ok_iff.mp hpart
      cases hpart
      exact hsubset

end Tags

/-! ### Elements -/

section Elements

variable {e : Element} {es : List Element}

lemma named_iff : e.Named ↔ (Nominal e.tag.toList ∧ ∀ a ∈ e.attributes, Nominal a.1.toList) ∧
    ∀ child ∈ e.children, child.Named := by
  rw [Element.Named, Element.subtree_eq, List.forall_mem_cons]
  refine and_congr_right fun _ => ?_
  simp only [Element.mem_subtrees_iff]
  exact ⟨fun h child hchild x hx => h x ⟨child, hchild, hx⟩,
    fun h x ⟨child, hchild, hx⟩ => h child hchild x hx⟩

lemma Element.Named.of_mem {x : Element} (h : e.Named) (hx : x ∈ e.subtree) : x.Named :=
  fun y hy => h y (Element.subtree_subset e hx hy)

lemma Element.Named.withTail (h : e.Named) (s : String) : (e.withTail s).Named := by
  obtain ⟨tag, attributes, text, children, tail⟩ := e
  obtain ⟨hnames, hchildren⟩ := named_iff.mp h
  exact named_iff.mpr ⟨hnames, hchildren⟩

structure OpenElement.Named (o : OpenElement) : Prop where
  tag : o.tag.Named
  children : ∀ e ∈ o.children, e.Named

def Stack.Named (k : Stack) : Prop := ∀ o ∈ k.top :: k.below, o.Named

def Progress.Named : Progress → Prop
  | .inside k => k.Named
  | .done root => root.Named

namespace OpenElement.Named

variable {o : OpenElement}

lemma flush (h : o.Named) : o.flush.Named := by
  unfold OpenElement.flush
  dsimp only
  split
  · next hnone => exact ⟨h.tag, fun e he => h.children e (hnone ▸ he)⟩
  · next e es hsome =>
    obtain ⟨he, hes⟩ := List.forall_mem_cons.mp (hsome ▸ h.children)
    exact ⟨h.tag, List.forall_mem_cons.mpr ⟨he.withTail _, hes⟩⟩

lemma append (h : o.Named) (c : Char) : (o.append c).Named := ⟨h.tag, h.children⟩

lemma addChild (h : o.Named) (he : e.Named) : (o.addChild e).Named :=
  ⟨h.flush.tag, List.forall_mem_cons.mpr ⟨he, h.flush.children⟩⟩

lemma close (h : o.Named) : o.close.Named := by
  refine named_iff.mpr ⟨⟨?_, h.tag.attributes⟩, fun e he => ?_⟩
  · exact String.toList_ofList ▸ h.tag.name
  · exact h.flush.children e (List.mem_reverse.mp he)

end OpenElement.Named

namespace Stack.Named

variable {k : Stack}

lemma append (h : k.Named) (c : Char) : (k.append c).Named := by
  obtain ⟨htop, hbelow⟩ := List.forall_mem_cons.mp h
  exact List.forall_mem_cons.mpr ⟨htop.append c, hbelow⟩

lemma push (h : k.Named) {t : Tag} (ht : t.Named) (rawName : List Char) :
    (k.push rawName t).Named :=
  List.forall_mem_cons.mpr ⟨⟨ht, List.forall_mem_nil _⟩, h⟩

lemma pop (h : k.Named) : k.pop.Named := by
  obtain ⟨top, below⟩ := k
  obtain ⟨htop, hbelow⟩ := List.forall_mem_cons.mp h
  cases below with
  | nil => exact htop.close
  | cons o below =>
    obtain ⟨ho, hbelow⟩ := List.forall_mem_cons.mp hbelow
    exact List.forall_mem_cons.mpr ⟨ho.addChild htop.close, hbelow⟩

end Stack.Named

end Elements

/-! ### Content -/

section Content

variable {d : Declarations} {k k' : Stack} {p : Progress} {s rest start : List Char}
  {t : Token × List Char} {root : Element}

lemma named_of_readSection (hk : k.Named) (h : readSection k s = .ok (k', rest)) : k'.Named := by
  fun_induction readSection k s with
  | case1 => cases h
  | case2 =>
    cases h
    exact hk
  | case3 => cases h
  | case4 => cases h
  | case5 => cases h
  | case6 k s ih => exact ih (hk.append _) h
  | case7 => cases h
  | case8 =>
    rename_i ih
    exact ih (hk.append _) h

/-- One token leaves all names nominal. -/
lemma named_of_step (hd : d.Named) (hk : k.Named) (ht : scanContent s = .ok t)
    (h : k.step d start t = .ok (p, rest)) : p.Named := by
  unfold Stack.step at h
  split at h
  · cases h
    exact hk.append _
  · obtain ⟨c, -, h⟩ := bind_eq_ok_iff.mp h
    cases h
    exact hk.append c
  · next name raws isEmpty rest =>
    obtain ⟨tag, htag, h⟩ := bind_eq_ok_iff.mp h
    obtain ⟨hname, hraws⟩ := nominal_of_scanContent ht
    have hpush := hk.push (named_of_readTag hd hname hraws htag) name
    cases h
    split
    · exact hpush.pop
    · exact hpush
  · split at h
    · cases h
      exact hk.pop
    · cases h
  · obtain ⟨⟨k', _⟩, hsection, h⟩ := bind_eq_ok_iff.mp h
    cases h
    exact named_of_readSection hk hsection
  · cases h
  · cases h
    exact hk
  · cases h
    exact hk

lemma named_of_readContent {fuel : Nat} (hd : d.Named) (hk : k.Named)
    (h : readContent d fuel k s = .ok (root, rest)) : root.Named := by
  induction fuel generalizing k s with
  | zero => cases h
  | succ fuel ih =>
    rw [readContent] at h
    split at h
    · cases h
    · split at h
      · cases h
      · next t ht =>
        split at h
        · cases h
        · next hstep =>
          cases h
          exact named_of_step hd hk ht hstep
        · next hstep => exact ih (named_of_step hd hk ht hstep) h

lemma named_of_readRoot (hd : d.Named) (h : readRoot d s = .ok (root, rest)) : root.Named := by
  unfold readRoot at h
  split at h
  · cases h
  · next name raws isEmpty rest hscan =>
    obtain ⟨hname, hraws⟩ := nominal_of_scanContent hscan
    obtain ⟨tag, htag, h⟩ := bind_eq_ok_iff.mp h
    have hopened : OpenElement.Named ⟨name, tag, "", [], []⟩ :=
      ⟨named_of_readTag hd hname hraws htag, List.forall_mem_nil _⟩
    split at h
    · cases h
      exact hopened.close
    · have hstack : Stack.Named ⟨⟨name, tag, "", [], []⟩, []⟩ :=
        List.forall_mem_singleton.mpr hopened
      exact named_of_readContent hd hstack h
  · cases h

end Content

/-! ### Declared attributes -/

/-- The attribute that a stage is about. -/
def Stage.attributeName? : Stage → Option (List Char)
  | .attributeType _ name | .enumeration _ name _ | .enumerationNext _ name _
  | .enumerationOpening _ name | .defaultKind _ name _ _ | .defaultValue _ name _ => some name
  | _ => none

/-- Where a token leads to, if it fits, all names are nominal. -/
def KeepsNames (r : Outcome) : Prop :=
  ∀ stage d, r = .ok (stage, d) → (∀ name ∈ stage.attributeName?, Nominal name) ∧ d.Named

namespace KeepsNames

variable {stage : Stage} {d : Declarations} {o : Outer} {r : Outcome} {name : List Char} {f : Fault}

lemma error : KeepsNames (.error f) := by
  intro stage d h
  cases h

lemma misfit : KeepsNames o.misfit := by
  unfold Outer.misfit
  split <;> exact error

lemma ok (hd : d.Named) (h : ∀ name ∈ stage.attributeName?, Nominal name) :
    KeepsNames (.ok (stage, d)) := by
  intro stage' d' heq
  cases heq
  exact ⟨h, hd⟩

/-- Of a stage that is about no attribute nothing is asked. -/
lemma plain (hd : d.Named) (h : stage.attributeName? = none) : KeepsNames (.ok (stage, d)) :=
  ok hd (by simp [h])

lemma about (hd : d.Named) (hname : Nominal name) (h : stage.attributeName? = some name) :
    KeepsNames (.ok (stage, d)) :=
  ok hd (by simpa [h] using hname)

lemma after {α : Type} {c : Except Fault α} {g : α → Outcome} (h : ∀ a, KeepsNames (g a)) :
    KeepsNames (c >>= g) := by
  intro stage d heq
  obtain ⟨a, -, hg⟩ := bind_eq_ok_iff.mp heq
  exact h a stage d hg

lemma stepEntity (hd : d.Named) (stage : Stage) : KeepsNames (stepEntity o d stage) := by
  unfold Markup.stepEntity stepEntityValue declareEntity
  -- every stage leads to one that is about no attribute, if it leads anywhere
  repeat' split
  all_goals first
    | exact misfit
    | exact error
    | exact plain hd rfl
    | exact after fun _ => plain hd rfl

lemma stepNotation (hd : d.Named) (stage : Stage) : KeepsNames (stepNotation o d stage) := by
  unfold Markup.stepNotation
  repeat' split
  all_goals first
    | exact misfit
    | exact plain hd rfl
    | exact after fun _ => plain hd rfl

lemma stepElement (hd : d.Named) (stage : Stage) : KeepsNames (stepElement o d stage) := by
  have hconnect (c : Char) (groups : List (Option Char)) : KeepsNames (connect o d c groups) := by
    unfold connect
    split
    · exact misfit
    · split
      · exact plain hd rfl
      · exact error
  unfold Markup.stepElement
  repeat' split
  all_goals first
    | exact misfit
    | exact hconnect _ _
    | exact plain hd rfl

lemma stepDoctype (hd : d.Named) (stage : Stage) : KeepsNames (stepDoctype o d stage) := by
  unfold Markup.stepDoctype
  repeat' split
  all_goals first
    | exact misfit
    | exact plain hd rfl
    | exact after fun _ => plain hd rfl

lemma named_declare {a : DeclaredAttribute} (hd : d.Named) (ha : Nominal a.name) (isId : Bool) :
    (d.declare a isId).Named := by
  unfold Declarations.declare
  split
  · exact hd
  · split
    · exact hd
    · exact List.forall_mem_append.mpr ⟨hd, List.forall_mem_singleton.mpr ha⟩

lemma stepDefault (hd : d.Named) (hname : Nominal name) (element : List Char)
    (isTokenised isId : Bool) (quote : Char) (value : List Char) :
    KeepsNames (stepDefault o d element name isTokenised isId quote value) := by
  unfold Markup.stepDefault
  split
  · exact plain hd rfl
  · exact after fun _ => plain (named_declare hd hname isId) rfl

/-- A declared attribute gets its name from a token. -/
lemma stepAttlist (hd : d.Named) (htoken : ∀ text b, o.token = .name text b → Nominal text)
    (hstage : ∀ name ∈ stage.attributeName?, Nominal name) :
    KeepsNames (stepAttlist o d stage) := by
  unfold Markup.stepAttlist
  split
  · split
    · exact plain hd rfl
    · exact misfit
  · split
    · exact plain hd rfl
    · next text b htext => exact about hd (htoken text b htext) rfl
    · exact misfit
  -- the other stages hand on the name that they are about
  all_goals
    first
    | exact misfit
    | have hname := hstage _ rfl
  · split
    · split
      · exact about hd hname rfl
      · split
        · exact about hd hname rfl
        · split
          · exact about hd hname rfl
          · exact misfit
    · exact about hd hname rfl
    · exact misfit
  · split
    · exact about hd hname rfl
    · exact misfit
  · split
    · exact about hd hname rfl
    · split
      · exact about hd hname rfl
      · exact misfit
    · split
      · exact about hd hname rfl
      · exact misfit
    · exact misfit
  · split
    · exact about hd hname rfl
    · exact about hd hname rfl
    · exact misfit
  · split
    · split
      · exact plain (named_declare hd hname _) rfl
      · split
        · exact about hd hname rfl
        · exact misfit
    · exact stepDefault hd hname _ _ _ _ _
    · exact misfit
  · split
    · exact stepDefault hd hname _ _ _ _ _
    · exact misfit

/-- One token in front of the root element leaves all names nominal. -/
lemma step (hd : d.Named) (htoken : ∀ text b, o.token = .name text b → Nominal text)
    (hstage : ∀ name ∈ stage.attributeName?, Nominal name) : KeepsNames (stage.step o d) := by
  have hdeclaration : KeepsNames (stepDeclaration o d) := by
    unfold stepDeclaration
    dsimp only
    split
    · exact plain hd rfl
    · exact error
  unfold Stage.step
  split
  · split
    · exact hdeclaration
    · exact plain hd rfl
    · exact plain hd rfl
    · exact plain hd rfl
    · split
      · exact plain hd rfl
      · exact misfit
    · exact misfit
  · split
    · exact plain hd rfl
    · exact plain hd rfl
    · exact plain hd rfl
    · split
      · exact plain hd rfl
      · exact misfit
    · exact misfit
  · split
    · exact plain hd rfl
    · exact plain hd rfl
    · exact plain hd rfl
    · exact misfit
  · split
    · exact ok hd hstage
    · split
      all_goals first
        | exact stepEntity hd _
        | exact stepNotation hd _
        | exact stepAttlist hd htoken hstage
        | exact stepElement hd _
        | exact stepDoctype hd _

end KeepsNames

section Prolog

variable {s rest text : List Char} {d d' : Declarations} {t : OuterToken} {b : Bool}

lemma nominal_of_wordKind {word : List Char} (hword : Nominal word)
    (h : wordKind word = .name text b) : Nominal text := by
  unfold wordKind at h
  repeat' split at h
  all_goals cases h
  all_goals exact hword

lemma eq_of_mustPrecede {followers : List Char} {t t' : OuterToken}
    (h : mustPrecede followers t s = .ok (t', rest)) : t' = t := by
  unfold mustPrecede at h
  split at h
  · cases h
    rfl
  · cases h

lemma nominal_of_scanWord (h : scanWord s = .ok (.name text b, rest)) : Nominal text := by
  have hword : Nominal (s.takeWhile isTokenChar) := fun c hc => List.mem_takeWhile_imp hc
  unfold scanWord at h
  dsimp only at h
  split at h
  · split at h
    · cases h
    · exact nominal_of_wordKind hword (Prod.mk.inj (Except.ok.inj h)).1
  · split at h
    · split at h <;> cases h
    · exact nominal_of_wordKind hword (eq_of_mustPrecede h).symm

lemma scanLiteral_ne_name {quote : Char} : scanLiteral quote s ≠ .ok (.name text b, rest) := by
  intro h
  unfold scanLiteral at h
  split at h
  · cases h
  · split at h
    · cases eq_of_mustPrecede h
    · cases h

lemma scanDeclaration_ne_name : scanDeclaration s ≠ .ok (.name text b, rest) := by
  intro h
  unfold scanDeclaration at h
  split at h
  · cases h
  · obtain ⟨_, -, h⟩ := bind_eq_ok_iff.mp h
    obtain ⟨_, -, h⟩ := bind_eq_ok_iff.mp h
    cases h
  · cases h
  · dsimp only at h
    repeat' split at h
    all_goals cases h

lemma scanPercent_ne_name : scanPercent s ≠ .ok (.name text b, rest) := by
  intro h
  unfold scanPercent at h
  split at h
  · cases h
  · split at h
    · cases h
    · obtain ⟨⟨_, _⟩, -, h⟩ := bind_eq_ok_iff.mp h
      obtain ⟨_, -, h⟩ := bind_eq_ok_iff.mp h
      cases h

/-- Names in declarations are words. -/
lemma nominal_of_scanOuter (h : scanOuter s = .ok (.name text b, rest)) : Nominal text := by
  unfold scanOuter at h
  split at h
  · cases h
  · exact absurd h scanLiteral_ne_name
  · exact absurd h scanLiteral_ne_name
  · cases h
  · exact absurd h scanDeclaration_ne_name
  · obtain ⟨⟨_, _⟩, -, h⟩ := bind_eq_ok_iff.mp h
    cases h
  · split at h <;> cases h
  · exact absurd h scanPercent_ne_name
  · cases h
  · cases h
  · cases h
  · cases h
  · cases h
  · cases h
  · split at h
    · cases h
    · cases eq_of_mustPrecede h
  · cases h
  · cases h
  · cases h
  · obtain ⟨⟨_, _⟩, -, h⟩ := bind_eq_ok_iff.mp h
    cases eq_of_mustPrecede h
  · split at h
    · cases h
    · split at h
      · exact nominal_of_scanWord h
      · cases h

lemma named_of_readProlog {fuel : Nat} {stage : Stage} (hd : d.Named)
    (hstage : ∀ name ∈ stage.attributeName?, Nominal name)
    (h : readProlog fuel stage d s = .ok (d', rest)) : d'.Named := by
  induction fuel generalizing stage d s with
  | zero => cases h
  | succ fuel ih =>
    rw [readProlog] at h
    split at h
    · cases h
    · split at h
      · cases h
      · next token after hscan =>
        split at h
        · cases h
          exact hd
        · split at h
          · cases h
          · next hstep =>
            have htoken : ∀ text b, token = .name text b → Nominal text :=
              fun text b htext => nominal_of_scanOuter (htext ▸ hscan)
            obtain ⟨hstage', hd'⟩ := KeepsNames.step hd htoken hstage _ _ hstep
            exact ih hd' hstage' h

/-- A document that is accepted is read as it stands, whatever it is encoded in. -/
lemma readDocument_of_parse {text : String} {root : Element} (h : parse text = .ok root) :
    readDocument (sourceOf (text.toList.dropWhile isLeading)).chars = .ok root := by
  unfold parse Source.read at h
  dsimp only at h
  split at h
  · next hread =>
    split at h
    · cases h
    · cases h
      exact hread
  · cases h
  · cases h

/-- All names in the tree of a document are made of name characters. -/
theorem named_of_parse {text : String} {root : Element} (h : parse text = .ok root) :
    root.Named := by
  obtain ⟨⟨d, _⟩, hprolog, h⟩ := bind_eq_ok_iff.mp (readDocument_of_parse h)
  obtain ⟨⟨e, _⟩, hroot, h⟩ := bind_eq_ok_iff.mp h
  obtain ⟨_, -, h⟩ := bind_eq_ok_iff.mp h
  cases h
  have hnone : Declarations.none.Named := List.forall_mem_nil _
  exact named_of_readRoot (named_of_readProlog hnone (by simp [Stage.attributeName?]) hprolog)
    hroot

end Prolog

end QuizPreflight.Markup
