import Mathlib.Data.List.Basic
import QuizPreflight.Files.FileSystem
import QuizPreflight.Proofs.Files.Tree

/-!
# Places that paths lead to

A path leads to the place that its names come to with double dots going back, if the folders on
the way exist and no limit of length is passed. A file system that keeps its folders keeps the
places of its paths.
-/
namespace QuizPreflight

open Entry

variable {fs fs' : FileSystem} {p : Path} {place q : List String} {n : String}
  {ns ms : List String}

namespace Path

lemma normalise_of_downward (place : List String) (h : ".." ∉ ns) :
    normalise place ns = place ++ ns := by
  induction ns generalizing place with
  | nil => simp [normalise]
  | cons n ns ih =>
    obtain ⟨hn, hns⟩ : ".." ≠ n ∧ ".." ∉ ns := by simpa using h
    have hi := ih (place ++ [n]) hns
    simp only [normalise, List.foldl_cons, if_neg (Ne.symm hn)] at hi ⊢
    rw [hi, List.append_assoc, List.singleton_append]

lemma mem_intercalate {c : Char} (hc : c ≠ '/') (ns : List String) :
    c ∈ ("/".intercalate ns).toList ↔ ∃ n ∈ ns, c ∈ n.toList := by
  induction ns with
  | nil => simp
  | cons n ns ih =>
    cases ns with
    | nil => simp
    | cons m ns =>
      have hs : "/".toList = ['/'] := rfl
      rw [String.intercalate_cons_cons]
      simp only [String.toList_append, List.mem_append, ih, hs, List.mem_singleton, hc]
      simp

lemma mem_toString {c : Char} (hs : c ≠ '/') (hd : c ≠ '.') (p : Path) :
    c ∈ p.toString.toList ↔ ∃ n ∈ p.names, c ∈ n.toList := by
  unfold toString
  split
  · next h =>
    have hn : p.names = [] := by simpa using (Bool.and_eq_true_iff.mp h).2
    have ht : ".".toList = ['.'] := rfl
    simp [hn, ht, hd]
  · simp only [String.toList_append, List.mem_append, mem_intercalate hs, String.toList_ofList,
      List.mem_replicate, hs, and_false, false_or]

lemma utf8ByteSize_intercalate_le (ns ms : List String) :
    ("/".intercalate ns).utf8ByteSize ≤ ("/".intercalate (ns ++ ms)).utf8ByteSize := by
  induction ns with
  | nil => simp
  | cons n ns ih =>
    cases ns with
    | nil =>
      cases ms with
      | nil => simp
      | cons m ms =>
        rw [List.singleton_append, String.intercalate_cons_cons, String.intercalate_singleton,
          String.utf8ByteSize_append, String.utf8ByteSize_append]
        omega
    | cons m ns =>
      rw [List.cons_append, List.cons_append, String.intercalate_cons_cons,
        String.intercalate_cons_cons]
      rw [List.cons_append] at ih
      simp only [String.utf8ByteSize_append]
      omega

/-- A longer path has a longer text, but for the dot of the empty one. -/
lemma utf8ByteSize_toString_le (slashes : Nat) (ns ms : List String) :
    (toString ⟨slashes, ns⟩).utf8ByteSize ≤ max 1 (toString ⟨slashes, ns ++ ms⟩).utf8ByteSize := by
  by_cases h : slashes = 0 ∧ ns = []
  · obtain ⟨rfl, rfl⟩ := h
    exact Nat.le_max_left _ _
  · have h₁ : (decide (slashes = 0) && ns.isEmpty) = false := by
      rw [Bool.eq_false_iff]
      simpa using h
    have h₂ : (decide (slashes = 0) && (ns ++ ms).isEmpty) = false := by
      rw [Bool.eq_false_iff]
      intro he
      simp only [Bool.and_eq_true, decide_eq_true_eq, List.isEmpty_iff,
        List.append_eq_nil_iff] at he
      exact h ⟨he.1, he.2.1⟩
    have hi := utf8ByteSize_intercalate_le ns ms
    simp only [toString, h₁, h₂, Bool.false_eq_true, if_false, String.utf8ByteSize_append]
    omega

end Path

namespace FileSystem

/-- What stands at a place. -/
def view (fs : FileSystem) (place : List String) : Option Node := fs.root.nodeAt place

lemma view_eq_folder_iff : fs.view place = some .folder ↔
    ∃ es, fs.root.get? place = some (.folder es) := by
  unfold view nodeAt
  rcases fs.root.get? place with _ | _ | es <;> simp

lemma view_eq_file_iff {content : List UInt8} : fs.view place = some (.file content) ↔
    fs.root.get? place = some (.file content) := by
  unfold view nodeAt
  rcases fs.root.get? place with _ | _ | es <;> simp

lemma view_eq_none_iff : fs.view place = none ↔ fs.root.get? place = none := by
  unfold view nodeAt
  simp

lemma enter_eq_ok_iff : fs.enter place n = .ok q ↔ fs.view place = some .folder ∧
    if n = ".." then q = place.dropLast
    else n.utf8ByteSize ≤ maxNameBytes ∧ q = place ++ [n] := by
  unfold enter view nodeAt
  rcases fs.root.get? place with _ | _ | es
  · simp
  · simp
  · by_cases hn : n = ".."
    · simp [hn, eq_comm]
    · by_cases hs : maxNameBytes < n.utf8ByteSize
      · simp [hn, hs, Nat.not_le_of_lt hs]
      · simp [hn, hs, Nat.le_of_not_lt hs, eq_comm]

@[simp] lemma enterAll_nil (fs : FileSystem) (place : List String) :
    fs.enterAll place [] = .ok place := rfl

lemma enterAll_append (fs : FileSystem) (place ns ms : List String) :
    fs.enterAll place (ns ++ ms) = (fs.enterAll place ns).bind (fs.enterAll · ms) := by
  simp only [enterAll, List.foldlM_append]
  rfl

lemma enterAll_append_eq_ok_iff : fs.enterAll place (ns ++ ms) = .ok q ↔
    ∃ mid, fs.enterAll place ns = .ok mid ∧ fs.enterAll mid ms = .ok q := by
  rw [enterAll_append]
  cases fs.enterAll place ns <;> simp [Except.bind]

lemma enterAll_cons_eq_ok_iff : fs.enterAll place (n :: ns) = .ok q ↔
    ∃ mid, fs.enter place n = .ok mid ∧ fs.enterAll mid ns = .ok q := by
  simp only [enterAll, List.foldlM_cons]
  cases fs.enter place n <;> simp [bind, Except.bind]

/-- Where a way leads does not depend on the file system, only whether there is one. -/
theorem eq_normalise_of_enterAll (h : fs.enterAll place ns = .ok q) :
    q = Path.normalise place ns := by
  induction ns generalizing place with
  | nil =>
    rw [enterAll_nil] at h
    exact (Except.ok.inj h).symm
  | cons n ns ih =>
    obtain ⟨mid, hn, hns⟩ := enterAll_cons_eq_ok_iff.mp h
    have hm := (enter_eq_ok_iff.mp hn).2
    rw [ih hns]
    split at hm
    · next hd => simp [Path.normalise, hd, hm]
    · next hd => simp [Path.normalise, hd, hm.2]

lemma locate_eq_ok_iff : fs.locate p = .ok q ↔ '\x00' ∉ p.toString.toList ∧
    p.toString.utf8ByteSize ≤ maxPathBytes ∧ fs.enterAll (fs.startOf p) p.names = .ok q := by
  unfold locate
  by_cases hz : '\x00' ∈ p.toString.toList
  · simp [hz]
  · by_cases hs : maxPathBytes < p.toString.utf8ByteSize
    · simp [hz, hs, Nat.not_le_of_lt hs]
    · simp [hz, hs, Nat.le_of_not_lt hs]

/-- The place that the names of a path come to, whether or not it can be reached. -/
def placeOf (fs : FileSystem) (p : Path) : List String := Path.normalise (fs.startOf p) p.names

theorem eq_placeOf_of_locate (h : fs.locate p = .ok q) : q = fs.placeOf p :=
  eq_normalise_of_enterAll (locate_eq_ok_iff.mp h).2.2

lemma lookup_eq_ok_iff {e : Entry} : fs.lookup p = .ok e ↔
    ∃ q, fs.locate p = .ok q ∧ fs.root.get? q = some e := by
  unfold lookup
  rcases fs.locate p with _ | q
  · simp [bind, Except.bind]
  · simp only [bind, Except.bind, Except.ok.injEq, exists_eq_left']
    rcases fs.root.get? q with _ | e' <;> simp [pure, Except.pure]

lemma test_of_lookup {e : Entry} (h : fs.lookup p = .ok e) (holds : Entry → Bool) :
    fs.test holds p = .ok (holds e) := by
  rw [test, h]

/-- The start of a way that leads somewhere leads somewhere. -/
lemma locate_of_append (h : fs.locate ⟨p.slashes, p.names ++ ms⟩ = .ok q) :
    ∃ mid, fs.locate p = .ok mid ∧ fs.enterAll mid ms = .ok q := by
  obtain ⟨hz, hs, he⟩ := locate_eq_ok_iff.mp h
  obtain ⟨mid, h₁, h₂⟩ := enterAll_append_eq_ok_iff.mp he
  refine ⟨mid, locate_eq_ok_iff.mpr ⟨?_, ?_, h₁⟩, h₂⟩
  · rw [Path.mem_toString (by decide) (by decide)] at hz ⊢
    rintro ⟨n, hn, hc⟩
    exact hz ⟨n, List.mem_append_left _ hn, hc⟩
  · have hle := Path.utf8ByteSize_toString_le p.slashes p.names ms
    have hone : 1 ≤ maxPathBytes := by decide
    exact Nat.le_trans hle (Nat.max_le.mpr ⟨hone, hs⟩)

/-- Folders that stand in one file system stand in another, which starts from the same place. -/
structure Keeps (fs fs' : FileSystem) : Prop where
  current : fs'.current = fs.current
  folders : ∀ place, fs.view place = some .folder → fs'.view place = some .folder

namespace Keeps

theorem refl (fs : FileSystem) : Keeps fs fs := ⟨rfl, fun _ h => h⟩

theorem trans {fs'' : FileSystem} (h : Keeps fs fs') (h' : Keeps fs' fs'') : Keeps fs fs'' :=
  ⟨h'.current.trans h.current, fun place hp => h'.folders place (h.folders place hp)⟩

theorem enterAll (h : Keeps fs fs') (he : fs.enterAll place ns = .ok q) :
    fs'.enterAll place ns = .ok q := by
  induction ns generalizing place with
  | nil => exact he
  | cons n ns ih =>
    obtain ⟨mid, hn, hns⟩ := enterAll_cons_eq_ok_iff.mp he
    obtain ⟨hf, hq⟩ := enter_eq_ok_iff.mp hn
    exact enterAll_cons_eq_ok_iff.mpr
      ⟨mid, enter_eq_ok_iff.mpr ⟨h.folders _ hf, hq⟩, ih hns⟩

lemma startOf (h : Keeps fs fs') (p : Path) : fs'.startOf p = fs.startOf p := by
  simp [FileSystem.startOf, h.current]

lemma placeOf (h : Keeps fs fs') (p : Path) : fs'.placeOf p = fs.placeOf p := by
  simp [FileSystem.placeOf, h.startOf]

theorem locate (h : Keeps fs fs') (hl : fs.locate p = .ok q) : fs'.locate p = .ok q := by
  obtain ⟨hz, hs, he⟩ := locate_eq_ok_iff.mp hl
  rw [← h.startOf] at he
  exact locate_eq_ok_iff.mpr ⟨hz, hs, h.enterAll he⟩

theorem lookup_folder (h : Keeps fs fs') {es : List (String × Entry)}
    (hl : fs.lookup p = .ok (.folder es)) : ∃ es', fs'.lookup p = .ok (.folder es') := by
  obtain ⟨q, hq, hg⟩ := lookup_eq_ok_iff.mp hl
  obtain ⟨es', hes'⟩ := view_eq_folder_iff.mp (h.folders q (view_eq_folder_iff.mpr ⟨es, hg⟩))
  exact ⟨es', lookup_eq_ok_iff.mpr ⟨q, h.locate hq, hes'⟩⟩

end Keeps

/-- The last name of a way without double dots at its end is entered from a folder. -/
lemma locate_concat (h : fs.locate ⟨p.slashes, p.names ++ (ns ++ [n])⟩ = .ok q)
    (hd : ".." ∉ ns ++ [n]) :
    q = fs.placeOf p ++ (ns ++ [n]) ∧ fs.view (fs.placeOf p ++ ns) = some .folder := by
  obtain ⟨mid, h₁, h₂⟩ := locate_of_append h
  have hm : mid = fs.placeOf p := eq_placeOf_of_locate h₁
  obtain ⟨last, h₃, h₄⟩ := enterAll_append_eq_ok_iff.mp h₂
  have hns : ".." ∉ ns := fun hn => hd (List.mem_append_left _ hn)
  have hl : last = mid ++ ns := by
    rw [eq_normalise_of_enterAll h₃, Path.normalise_of_downward _ hns]
  obtain ⟨r, h₅, -⟩ := enterAll_cons_eq_ok_iff.mp h₄
  obtain ⟨hf, -⟩ := enter_eq_ok_iff.mp h₅
  refine ⟨?_, by rw [← hm, ← hl]; exact hf⟩
  rw [eq_normalise_of_enterAll h₂, Path.normalise_of_downward _ hd, hm]

lemma view_dropLast_of_folder (h : fs.view place = some .folder) :
    fs.view place.dropLast ≠ none := by
  rcases List.eq_nil_or_concat place with rfl | ⟨ns, n, rfl⟩
  · simp [h]
  · obtain ⟨es, hes⟩ := view_eq_folder_iff.mp h
    rw [List.concat_eq_append] at hes ⊢
    obtain ⟨es', hes'⟩ := folder_of_get?_concat (by rw [hes]; rfl)
    rw [List.dropLast_concat, view_eq_folder_iff.mpr ⟨es', hes'⟩]
    simp

/-- A free place that a path with names leads to is right in a folder. -/
lemma exists_concat_of_locate (h : fs.locate p = .ok q) (hn : p.names ≠ [])
    (hfree : fs.view q = none) : ∃ parent n, q = parent ++ [n] ∧ fs.view parent = some .folder := by
  obtain ⟨-, -, he⟩ := locate_eq_ok_iff.mp h
  obtain ⟨ns, n, hcat⟩ := (List.eq_nil_or_concat p.names).resolve_left hn
  rw [hcat, List.concat_eq_append] at he
  obtain ⟨mid, -, hlast⟩ := enterAll_append_eq_ok_iff.mp he
  obtain ⟨r, henter, hr⟩ := enterAll_cons_eq_ok_iff.mp hlast
  obtain rfl : r = q := by simpa using hr
  obtain ⟨hf, hq⟩ := enter_eq_ok_iff.mp henter
  split at hq
  · rw [hq] at hfree
    exact absurd hfree (view_dropLast_of_folder hf)
  · exact ⟨mid, n, hq.2, hf⟩

lemma lookup_of_append {e : Entry} (h : fs.lookup ⟨p.slashes, p.names ++ ms⟩ = .ok e) :
    ∃ e', fs.lookup p = .ok e' := by
  obtain ⟨q, hq, he⟩ := lookup_eq_ok_iff.mp h
  obtain ⟨mid, h₁, h₂⟩ := locate_of_append hq
  cases ms with
  | nil =>
    obtain rfl : mid = q := by simpa using h₂
    exact ⟨e, lookup_eq_ok_iff.mpr ⟨mid, h₁, he⟩⟩
  | cons m ms =>
    obtain ⟨r, h₃, -⟩ := enterAll_cons_eq_ok_iff.mp h₂
    obtain ⟨es, hes⟩ := view_eq_folder_iff.mp (enter_eq_ok_iff.mp h₃).1
    exact ⟨_, lookup_eq_ok_iff.mpr ⟨mid, h₁, hes⟩⟩

end FileSystem

end QuizPreflight
