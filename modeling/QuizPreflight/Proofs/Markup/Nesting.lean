import Mathlib.Data.List.Basic
import Mathlib.Logic.Relation
import QuizPreflight.Markup.Element

/-!
# Elements nested under one tag

Below an element stand the subtrees of its children. Elements with a tag may hold further ones with
the same tag as children. From an element such a chain leads to each element nested in it, which
stands in the list of them once for each place.
-/
namespace QuizPreflight.Markup.Element

/-- One element is a child of another, with a tag. -/
def HasChild (tag : String) (e child : Element) : Prop := child ∈ e.childrenNamed tag

mutual

/-- An element with all elements that chains of children with a tag lead to. -/
def nested (tag : String) : Element → List Element
  | mk t attributes text children tail =>
    mk t attributes text children tail :: nestedAmong tag children

/-- The elements of a list that have a tag, with all that are nested in them. -/
def nestedAmong (tag : String) : List Element → List Element
  | [] => []
  | e :: es => (if e.tag == tag then nested tag e else []) ++ nestedAmong tag es

end

variable {tag : String} {e x : Element} {es : List Element}

lemma subtree_eq (e : Element) : e.subtree = e :: subtrees e.children := by
  cases e
  rfl

lemma mem_subtrees_iff : x ∈ subtrees es ↔ ∃ e ∈ es, x ∈ e.subtree := by
  induction es with
  | nil => simp [subtrees]
  | cons e es ih => simp [subtrees, ih]

lemma subset_subtrees (h : e ∈ es) : e.subtree ⊆ subtrees es :=
  fun _ hx => mem_subtrees_iff.mpr ⟨e, h, hx⟩

mutual

lemma subtree_subset : ∀ e : Element, x ∈ e.subtree → x.subtree ⊆ e.subtree
  | .mk tag attributes text children tail, h => by
    rw [subtree, List.mem_cons] at h
    rcases h with rfl | h
    · exact List.Subset.refl _
    · exact fun y hy => List.mem_cons_of_mem _ (subtree_subset_subtrees children h hy)

/-- What stands below an element of a tree stands in the tree. -/
lemma subtree_subset_subtrees : ∀ es : List Element, x ∈ subtrees es → x.subtree ⊆ subtrees es
  | [], h => by simp [subtrees] at h
  | e :: es, h => by
    rw [subtrees, List.mem_append] at h
    rcases h with h | h
    · exact fun y hy => List.mem_append_left _ (subtree_subset e h hy)
    · exact fun y hy => List.mem_append_right _ (subtree_subset_subtrees es h hy)

end

lemma hasChild_iff : HasChild tag e x ↔ x ∈ e.children ∧ x.tag = tag := by
  simp [HasChild, childrenNamed]

lemma nestedAmong_cons (tag : String) (e : Element) (es : List Element) :
    nestedAmong tag (e :: es) =
      (if e.tag = tag then nested tag e else []) ++ nestedAmong tag es := by
  rw [nestedAmong]
  simp

mutual

theorem mem_nested (tag : String) : ∀ e : Element,
    x ∈ nested tag e ↔ Relation.ReflTransGen (HasChild tag) e x
  | .mk t attributes text children tail => by
    rw [nested, List.mem_cons, mem_nestedAmong tag children, Relation.ReflTransGen.cases_head_iff]
    simp only [hasChild_iff, Element.children, eq_comm, and_assoc]

theorem mem_nestedAmong (tag : String) : ∀ es : List Element,
    x ∈ nestedAmong tag es ↔ ∃ e ∈ es, e.tag = tag ∧ Relation.ReflTransGen (HasChild tag) e x
  | [] => by simp [nestedAmong]
  | e :: es => by
    rw [nestedAmong_cons, List.mem_append, mem_nestedAmong tag es]
    simp only [List.mem_cons, or_and_right, exists_or, exists_eq_left]
    refine or_congr ?_ Iff.rfl
    split
    · next h => simp only [h, true_and, mem_nested tag e]
    · next h => simp [h]

end

/-- Below an element stand the ends of the chains of one child at least. -/
theorem mem_nestedAmong_children :
    x ∈ nestedAmong tag e.children ↔ Relation.TransGen (HasChild tag) e x := by
  rw [mem_nestedAmong, Relation.TransGen.head'_iff]
  simp only [hasChild_iff, and_assoc]

end QuizPreflight.Markup.Element
