import Mathlib.Data.List.Basic
import QuizPreflight.Package.Manifest
import QuizPreflight.Proofs.Markup.Nesting
import QuizPreflight.Proofs.Markup.Rereading
import QuizPreflight.Proofs.Text.Newline

/-!
# References of documents

A document refers to files by the values of its attributes and by the images in its item body.
A reference leads inward if it never goes back to the folder above.
-/
namespace QuizPreflight.Package

open Markup

/-- The values of the reference attributes in an element and below it. -/
def hrefs (e : Element) : List String := e.subtree.filterMap (·.attribute? "href")

/-- The images in the item body of an element. -/
def images (e : Element) : List String :=
  imageSources (((e.first? ["itemBody"]).map Element.innerHtml).getD "")

def LeadsInward (href : String) : Prop := ".." ∉ referenceNames href

/-- The tree of the document that the content of a file is. -/
def documentOf (content : List UInt8) : Except DocumentFault Element :=
  match Text.Utf8.decode content with
  | .error f => .error (.encoding f)
  | .ok s => (parse (String.ofList (Text.normaliseNewlines s))).mapError .markup

/-- A written element is a document of which it is the tree. -/
theorem documentOf_written {e : Element} (he : e.IsWritable)
    (hbelow : ∀ y ∈ Element.subtrees e.children, y.IsWritable) :
    documentOf (Text.Utf8.encode e.written) = .ok (e.withTail "") := by
  have hplain := Text.normaliseNewlines_of_notMem (notMem_written he hbelow)
  rw [documentOf, Text.Utf8.decode_encode]
  dsimp only
  rw [hplain, parse_element_written he hbelow]
  rfl

/-- No document in a tree of files has a reference that leads upwards. -/
def RefersInward (tree : Entry) : Prop :=
  ∀ names content root, tree.get? names = some (.file content) →
    documentOf content = .ok root → ∀ href ∈ hrefs root ++ images root, LeadsInward href

namespace Reference

variable {e child : Element} {tag href : String}

lemma hrefs_of_mem_children (h : child ∈ e.children) : hrefs child ⊆ hrefs e := by
  have hsub : child.subtree ⊆ e.subtree := by
    rw [Element.subtree_eq e]
    exact List.Subset.trans (Element.subset_subtrees h) (List.subset_cons_self _ _)
  intro href hmem
  obtain ⟨x, hx, hhref⟩ := List.mem_filterMap.mp hmem
  exact List.mem_filterMap.mpr ⟨x, hsub hx, hhref⟩

lemma hrefs_of_mem_childrenNamed (h : child ∈ e.childrenNamed tag) : hrefs child ⊆ hrefs e :=
  hrefs_of_mem_children (List.mem_filter.mp h).1

lemma mem_hrefs_of_attribute (h : e.attribute? "href" = some href) : href ∈ hrefs e :=
  List.mem_filterMap.mpr ⟨e, by rw [Element.subtree_eq]; exact List.mem_cons_self, h⟩

lemma hrefs_of_select {path : List String} (h : child ∈ e.select path) : hrefs child ⊆ hrefs e := by
  induction path generalizing e with
  | nil =>
    obtain rfl : child = e := by simpa [Element.select] using h
    exact List.Subset.refl _
  | cons tag path ih =>
    rw [Element.select] at h
    obtain ⟨d, hd, hchild⟩ := List.mem_flatMap.mp h
    exact List.Subset.trans (ih hchild) (hrefs_of_mem_childrenNamed hd)

lemma hrefs_of_first? {path : List String} (h : e.first? path = some child) :
    hrefs child ⊆ hrefs e :=
  hrefs_of_select (List.mem_of_head? h)

lemma hrefs_of_mem_resourcesOf {manifest resource : Element}
    (h : resource ∈ Manifest.resourcesOf manifest) : hrefs resource ⊆ hrefs manifest := by
  unfold Manifest.resourcesOf at h
  cases hr : manifest.first? ["resources"] with
  | none => simp [hr] at h
  | some resources =>
    rw [hr] at h
    exact List.Subset.trans (hrefs_of_mem_childrenNamed h) (hrefs_of_first? hr)

end Reference

end QuizPreflight.Package
