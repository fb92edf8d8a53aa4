import Mathlib.Data.List.Forall2
import Mathlib.Data.List.Nodup
import Mathlib.Data.Set.Function
import QuizPreflight.Markup.Attribute
import QuizPreflight.Markup.Element
import QuizPreflight.Proofs.Result

/-!
# Expanded names

An element that is written with prefixes stands for an element whose names are pairs of a namespace
and a local part. What is left of it when the namespaces are taken away does not depend on what the
namespaces are called.
-/
namespace QuizPreflight.Markup

/-- The same name where namespaces go by other names. -/
def ExpandedName.renamed (ρ : List Char → List Char) (n : ExpandedName) : ExpandedName :=
  ⟨n.uri.map ρ, n.part⟩

def Attributes.renamed (ρ : List Char → List Char) (as : Attributes) : Attributes :=
  as.map fun a => (a.1.renamed ρ, a.2)

/-! ### Stripped attributes -/

section Stripping

variable {ρ : List Char → List Char} {as : Attributes} {n : ExpandedName} {value : List Char}
  {names : List ExpandedName} {S : Set ExpandedName}

/-- All names of the attributes are in a set. -/
def Attributes.Within (as : Attributes) (S : Set ExpandedName) : Prop := ∀ a ∈ as, a.1 ∈ S

variable (hinj : Set.InjOn (ExpandedName.renamed ρ) S)
include hinj

lemma Attributes.renamed_put (h : as.Within S) (hn : n ∈ S) :
    (Attributes.put n value as).renamed ρ = Attributes.put (n.renamed ρ) value (as.renamed ρ) := by
  induction as with
  | nil => rfl
  | cons a as ih =>
    obtain ⟨ha, has⟩ := List.forall_mem_cons.mp h
    by_cases heq : a.1 = n
    · simp [Attributes.put, Attributes.renamed, heq]
    · have hne : a.1.renamed ρ ≠ n.renamed ρ := fun h => heq (hinj ha hn h)
      simpa [Attributes.put, Attributes.renamed, heq, hne] using ih has

lemma Attributes.lookup_renamed (h : as.Within S) (hn : n ∈ S) :
    (as.renamed ρ).lookup (n.renamed ρ) = as.lookup n := by
  induction as with
  | nil => rfl
  | cons a as ih =>
    obtain ⟨m, value⟩ := a
    obtain ⟨hm, has⟩ := List.forall_mem_cons.mp h
    have hbeq : (n.renamed ρ == m.renamed ρ) = (n == m) := by
      rw [Bool.eq_iff_iff, beq_iff_eq, beq_iff_eq]
      exact hinj.eq_iff hn hm
    simp only [Attributes.renamed, List.map_cons, List.lookup_cons, hbeq]
    cases n == m with
    | true => rfl
    | false => exact ih has

lemma Attributes.renamed_filter_ne (h : as.Within S) (hn : n ∈ S) :
    Attributes.renamed ρ (as.filter (·.1 != n)) =
      (as.renamed ρ).filter (·.1 != n.renamed ρ) := by
  unfold Attributes.renamed
  rw [List.filter_map]
  refine congrArg _ (List.filter_congr fun a ha => ?_)
  rw [Function.comp_apply, Bool.eq_iff_iff, bne_iff_ne, bne_iff_ne]
  exact (hinj.ne_iff (h a ha) hn).symm

/-- An attribute leaves its place and comes back in the same way under the other names. -/
lemma Attributes.renamed_strip (hlocal : ∀ part, ⟨none, part⟩ ∈ S) (h : as.Within S)
    (hn : n ∈ S) : (as.strip n).renamed ρ = (as.renamed ρ).strip (n.renamed ρ) := by
  unfold Attributes.strip
  rw [lookup_renamed hinj h hn]
  split
  · rfl
  · rw [renamed_put hinj (fun a ha => h a (List.mem_of_mem_filter ha)) (hlocal n.part), renamed_filter_ne hinj h hn]
    rfl

lemma Attributes.renamed_foldl_strip (hlocal : ∀ part, ⟨none, part⟩ ∈ S) (h : as.Within S)
    (hnames : ∀ n ∈ names, n ∈ S) :
    (names.foldl Attributes.strip as).renamed ρ =
      (names.map (ExpandedName.renamed ρ)).foldl Attributes.strip (as.renamed ρ) := by
  induction names generalizing as with
  | nil => rfl
  | cons n names ih =>
    obtain ⟨hn, hnames⟩ := List.forall_mem_cons.mp hnames
    have hstrip : (as.strip n).Within S := Attributes.forall_strip h (hlocal n.part)
    rw [List.foldl_cons, ih hstrip hnames, renamed_strip hinj hlocal h hn]
    rfl

end Stripping

section Renaming

variable {ρ : List Char → List Char} {as : Attributes} {n m : ExpandedName}

lemma ExpandedName.eq_of_renamed_eq (hn : n.uri = none) (h : n.renamed ρ = m.renamed ρ) :
    n = m := by
  obtain ⟨uri, part⟩ := n
  obtain ⟨uri', part'⟩ := m
  obtain rfl : uri = none := hn
  simp only [renamed, mk.injEq, Option.map_none] at h
  obtain ⟨huri, hpart⟩ := h
  rw [Option.map_eq_none_iff.mp huri.symm, hpart]

/-- A renaming that keeps the names of a tag apart keeps them apart from all local ones too. -/
lemma ExpandedName.injOn_renamed (h : ((as.renamed ρ).map Prod.fst).Nodup) :
    Set.InjOn (ExpandedName.renamed ρ) {n | n ∈ as.map Prod.fst ∨ n.uri = none} := by
  have hnodup : ((as.map Prod.fst).map (ExpandedName.renamed ρ)).Nodup := by
    simpa [Attributes.renamed, Function.comp_def] using h
  intro n hn m hm heq
  rcases hn with hn | hn
  · rcases hm with hm | hm
    · exact List.inj_on_of_nodup_map hnodup hn hm heq
    · exact (ExpandedName.eq_of_renamed_eq hm heq.symm).symm
  · exact ExpandedName.eq_of_renamed_eq hn heq

lemma Attributes.map_renamed_qualified :
    ((as.map Prod.fst).filter (·.uri.isSome)).map (ExpandedName.renamed ρ) =
      ((as.renamed ρ).map Prod.fst).filter (·.uri.isSome) := by
  induction as with
  | nil => rfl
  | cons a as ih =>
    obtain ⟨⟨uri, part⟩, value⟩ := a
    cases uri <;> simpa [Attributes.renamed, ExpandedName.renamed] using ih

/-- Attributes are the same under their local parts whatever their namespaces are called. Two that
meet under one local part do so in the same order, and the later value stays. -/
theorem Attributes.stripAll_renamed (h : ((as.renamed ρ).map Prod.fst).Nodup) :
    (as.renamed ρ).stripAll = as.stripAll := by
  have hinj := ExpandedName.injOn_renamed h
  have hnames : ∀ n ∈ (as.map Prod.fst).filter (·.uri.isSome),
      n ∈ {n | n ∈ as.map Prod.fst ∨ n.uri = none} :=
    fun n hn => Or.inl (List.mem_of_mem_filter hn)
  have hwithin : as.Within {n | n ∈ as.map Prod.fst ∨ n.uri = none} :=
    fun a ha => Or.inl (List.mem_map_of_mem ha)
  have hfold := renamed_foldl_strip hinj (fun part => Or.inr rfl) hwithin hnames
  unfold Attributes.stripAll
  dsimp only
  rw [← map_renamed_qualified, ← hfold, Attributes.renamed, List.map_map]
  rfl

end Renaming

/-! ### Tags -/

/-- A declaration comes into force; other attributes declare nothing. -/
def Scope.declare (scope : Scope) (a : List Char × List Char) : Except Cause Scope :=
  (declaredPrefix? a.1).elim (.ok scope) (scope.bind · a.2)

def Scope.declareAll (scope : Scope) (as : List (List Char × List Char)) : Except Cause Scope :=
  as.foldlM Scope.declare scope

/-- The name of an element; one without a prefix is in the default namespace, if there is one. -/
def Scope.expandElement (scope : Scope) (name : List Char) : Except Cause ExpandedName :=
  match splitName name with
  | (some pfx, part) => (scope.find pfx).map fun uri => ⟨some uri, part⟩
  | (none, part) => .ok ⟨(scope.lookup []).filter (!·.isEmpty), part⟩

/-- The attributes that declare no prefix. -/
def proper (as : List (List Char × List Char)) : List (List Char × List Char) :=
  as.filter fun a => (declaredPrefix? a.1).isNone

/-- A start tag with expanded names, and the scope inside of it. -/
structure ExpandedTag where
  inner : Scope
  name : ExpandedName
  attributes : Attributes

/-- What a tag stands for in the scope around it, given the names that it is written with. -/
def Scope.expandTag (scope : Scope) (name : List Char) (written : List (List Char × List Char)) :
    Option ExpandedTag := do
  let inner ← (scope.declareAll written).toOption
  let expanded ← (inner.expandElement name).toOption
  let attributes ← (expandAll inner [] [] (proper written)).toOption
  return ⟨inner, expanded, attributes⟩

section Tags

variable {scope : Scope} {start name : List Char} {written : List (List Char × List Char)}
  {done result : Attributes} {t : ExpandedTag}

lemma Scope.expandTag_eq_some_iff :
    scope.expandTag name written = some t ↔ scope.declareAll written = .ok t.inner ∧
      t.inner.expandElement name = .ok t.name ∧
      expandAll t.inner [] [] (proper written) = .ok t.attributes := by
  obtain ⟨inner, expanded, attributes⟩ := t
  simp only [Scope.expandTag, Option.bind_eq_bind, Option.bind_eq_some_iff, Option.pure_def,
    Option.some.injEq, ExpandedTag.mk.injEq, toOption_eq_some_iff]
  constructor
  · rintro ⟨_, hinner, _, hname, _, hattributes, rfl, rfl, rfl⟩
    exact ⟨hinner, hname, hattributes⟩
  · rintro ⟨hinner, hname, hattributes⟩
    exact ⟨_, hinner, _, hname, _, hattributes, rfl, rfl, rfl⟩

lemma Scope.part_of_expandElement {n : ExpandedName} (h : scope.expandElement name = .ok n) :
    n.part = (splitName name).2 := by
  unfold Scope.expandElement at h
  split at h
  · next pfx part hsplit =>
    cases hfind : scope.find pfx with
    | error e => rw [hfind] at h; cases h
    | ok uri =>
      rw [hfind] at h
      cases h
      rw [hsplit]
  · next part hsplit =>
    cases h
    rw [hsplit]

/-- Where a tag begins matters to its faults only. -/
lemma expandAll_eq_ok_of_start (h : expandAll scope start done written = .ok result)
    (start' : List Char) : expandAll scope start' done written = .ok result := by
  induction written generalizing done with
  | nil => exact h
  | cons a written ih =>
    obtain ⟨name, value⟩ := a
    unfold expandAll at h ⊢
    split at h
    · cases h
    · split at h
      · cases h
      · next hfresh =>
        rw [if_neg hfresh]
        exact ih h

lemma nodup_of_expandAll (hdone : (done.map Prod.fst).Nodup)
    (h : expandAll scope start done written = .ok result) : (result.map Prod.fst).Nodup := by
  induction written generalizing done with
  | nil =>
    cases h
    exact hdone
  | cons a written ih =>
    obtain ⟨name, value⟩ := a
    unfold expandAll at h
    split at h
    · cases h
    · next expanded _ =>
      split at h
      · cases h
      · next hfresh =>
        refine ih ?_ h
        have hnotMem : expanded ∉ done.map Prod.fst := by
          intro hmem
          obtain ⟨a, ha, rfl⟩ := List.mem_map.mp hmem
          exact hfresh (List.any_eq_true.mpr ⟨a, ha, beq_self_eq_true _⟩)
        rw [List.map_append]
        exact List.Nodup.append hdone (List.nodup_singleton _)
          (List.disjoint_singleton.mpr hnotMem)

end Tags

/-! ### Trees -/

/-- An element with expanded names. -/
inductive Expanded where
  | mk (name : ExpandedName) (attributes : Attributes) (text : String) (children : List Expanded)
      (tail : String)

mutual

def Expanded.decEq : (x y : Expanded) → Decidable (x = y)
  | .mk name attributes text children tail, .mk name' attributes' text' children' tail' =>
    have := Expanded.decEqEach children children'
    decidable_of_iff (name = name' ∧ attributes = attributes' ∧ text = text' ∧
      children = children' ∧ tail = tail') (by rw [Expanded.mk.injEq])

def Expanded.decEqEach : (xs ys : List Expanded) → Decidable (xs = ys)
  | [], [] => isTrue rfl
  | [], _ :: _ => isFalse (List.cons_ne_nil _ _).symm
  | _ :: _, [] => isFalse (List.cons_ne_nil _ _)
  | x :: xs, y :: ys =>
    have := Expanded.decEq x y
    have := Expanded.decEqEach xs ys
    decidable_of_iff (x = y ∧ xs = ys) (by rw [List.cons.injEq])

end

instance : DecidableEq Expanded := Expanded.decEq

mutual

/-- What an element that is written with prefixes stands for in the scope around it, if all its
prefixes are declared. -/
def Element.expand (scope : Scope) : Element → Option Expanded
  | .mk tag attributes text children tail => do
    let t ← scope.expandTag tag.toList (attributes.map fun a => (a.1.toList, a.2.toList))
    return .mk t.name t.attributes text (← Element.expandEach t.inner children) tail

def Element.expandEach (scope : Scope) : List Element → Option (List Expanded)
  | [] => some []
  | e :: es => do return (← Element.expand scope e) :: (← Element.expandEach scope es)

end

namespace Expanded

mutual

/-- The same element where namespaces go by other names. -/
def renamed (ρ : List Char → List Char) : Expanded → Expanded
  | mk name attributes text children tail =>
    mk (name.renamed ρ) (attributes.renamed ρ) text (renamedEach ρ children) tail

def renamedEach (ρ : List Char → List Char) : List Expanded → List Expanded
  | [] => []
  | x :: xs => renamed ρ x :: renamedEach ρ xs

end

mutual

/-- The element under local parts alone. -/
def stripped : Expanded → Element
  | mk name attributes text children tail =>
    .mk (String.ofList name.part) attributes.stripAll text (strippedEach children) tail

def strippedEach : List Expanded → List Element
  | [] => []
  | x :: xs => stripped x :: strippedEach xs

end

end Expanded

section Trees

variable {ρ : List Char → List Char} {scope : Scope} {e : Element} {es : List Element}
  {x : Expanded} {xs : List Expanded}

lemma Element.expand_mk_eq_some_iff {tag text tail : String} {attributes : List (String × String)}
    {children : List Element} :
    (Element.mk tag attributes text children tail).expand scope = some x ↔ ∃ t xs,
      scope.expandTag tag.toList (attributes.map fun a => (a.1.toList, a.2.toList)) = some t ∧
        Element.expandEach t.inner children = some xs ∧
        x = .mk t.name t.attributes text xs tail := by
  simp only [Element.expand, Option.bind_eq_bind, Option.bind_eq_some_iff, Option.pure_def,
    Option.some.injEq]
  constructor
  · rintro ⟨t, ht, xs, hxs, rfl⟩
    exact ⟨t, xs, ht, hxs, rfl⟩
  · rintro ⟨t, xs, ht, hxs, rfl⟩
    exact ⟨t, ht, xs, hxs, rfl⟩

lemma Element.expandEach_eq_some_iff :
    Element.expandEach scope es = some xs ↔
      List.Forall₂ (fun e x => e.expand scope = some x) es xs := by
  induction es generalizing xs with
  | nil => simp [Element.expandEach, eq_comm]
  | cons e es ih =>
    simp only [Element.expandEach, Option.bind_eq_bind, Option.bind_eq_some_iff, Option.pure_def,
      Option.some.injEq, List.forall₂_cons_left_iff, ← ih]
    constructor
    · rintro ⟨x, hx, xs, hxs, rfl⟩
      exact ⟨x, xs, hx, hxs, rfl⟩
    · rintro ⟨x, xs, hx, hxs, rfl⟩
      exact ⟨x, hx, xs, hxs, rfl⟩

lemma Expanded.strippedEach_eq (xs : List Expanded) :
    Expanded.strippedEach xs = xs.map Expanded.stripped := by
  induction xs with
  | nil => rfl
  | cons x xs ih => rw [Expanded.strippedEach, ih, List.map_cons]

/-- What follows an element is no part of what its names stand for. -/
lemma Element.stripped_expand_withTail (h : e.expand scope = some x) (s : String) :
    ∃ x', (e.withTail s).expand scope = some x' ∧ x'.stripped = x.stripped.withTail s := by
  obtain ⟨tag, attributes, text, children, tail⟩ := e
  obtain ⟨t, xs, ht, hxs, rfl⟩ := Element.expand_mk_eq_some_iff.mp h
  exact ⟨_, Element.expand_mk_eq_some_iff.mpr ⟨t, xs, ht, hxs, rfl⟩, rfl⟩

mutual

/-- The tree under local parts is the same for all names of the namespaces, as long as some element
stands for the renamed tree too: its attributes differ. -/
theorem Expanded.stripped_renamed : ∀ (x : Expanded) {scope : Scope} {e : Element},
    e.expand scope = some (x.renamed ρ) → (x.renamed ρ).stripped = x.stripped
  | .mk name attributes text children tail, scope, .mk _ _ _ _ _, h => by
    obtain ⟨t, xs, ht, hxs, heq⟩ := Element.expand_mk_eq_some_iff.mp h
    obtain ⟨-, hattributes, -, rfl, -⟩ := Expanded.mk.inj heq
    obtain ⟨-, -, hexpand⟩ := Scope.expandTag_eq_some_iff.mp ht
    have hnone : (([] : Attributes).map Prod.fst).Nodup := List.nodup_nil
    have hnodup : ((attributes.renamed ρ).map Prod.fst).Nodup :=
      hattributes ▸ nodup_of_expandAll hnone hexpand
    simp only [Expanded.renamed, Expanded.stripped]
    rw [Attributes.stripAll_renamed hnodup, Expanded.strippedEach_renamedEach children hxs]
    rfl

theorem Expanded.strippedEach_renamedEach : ∀ (xs : List Expanded) {scope : Scope}
    {es : List Element}, Element.expandEach scope es = some (Expanded.renamedEach ρ xs) →
      Expanded.strippedEach (Expanded.renamedEach ρ xs) = Expanded.strippedEach xs
  | [], _, _, _ => rfl
  | x :: xs, scope, es, h => by
    obtain ⟨e, es, he, hes, rfl⟩ :=
      List.forall₂_cons_right_iff.mp (Element.expandEach_eq_some_iff.mp h)
    simp only [Expanded.renamedEach, Expanded.strippedEach]
    rw [Expanded.stripped_renamed x he,
      Expanded.strippedEach_renamedEach xs (Element.expandEach_eq_some_iff.mpr hes)]

end

/-- The local part of a name that is written with or without a prefix. -/
def localPart (name : String) : String := String.ofList (splitName name.toList).2

mutual

/-- Each tag is left with the local part of what is written. -/
theorem Element.tags_of_expand : ∀ (e : Element) {scope : Scope} {x : Expanded},
    e.expand scope = some x →
      x.stripped.subtree.map Element.tag = e.subtree.map fun c => localPart c.tag
  | .mk tag attributes text children tail, scope, x, h => by
    obtain ⟨t, xs, ht, hxs, rfl⟩ := Element.expand_mk_eq_some_iff.mp h
    obtain ⟨-, hname, -⟩ := Scope.expandTag_eq_some_iff.mp ht
    simp only [Expanded.stripped, Element.subtree, List.map_cons]
    have htag := congrArg String.ofList (Scope.part_of_expandElement hname)
    exact congrArg₂ List.cons htag (Element.tags_of_expandEach children hxs)

theorem Element.tags_of_expandEach : ∀ (es : List Element) {scope : Scope} {xs : List Expanded},
    Element.expandEach scope es = some xs →
      (Element.subtrees (Expanded.strippedEach xs)).map Element.tag =
        (Element.subtrees es).map fun c => localPart c.tag
  | [], _, xs, h => by
    obtain rfl := List.forall₂_nil_left_iff.mp (Element.expandEach_eq_some_iff.mp h)
    rfl
  | e :: es, _, xs, h => by
    obtain ⟨x, xs, hx, hxs, rfl⟩ :=
      List.forall₂_cons_left_iff.mp (Element.expandEach_eq_some_iff.mp h)
    simp only [Expanded.strippedEach, Element.subtrees, List.map_append]
    rw [Element.tags_of_expand e hx,
      Element.tags_of_expandEach es (Element.expandEach_eq_some_iff.mpr hxs)]

end

end Trees

end QuizPreflight.Markup
