import Mathlib.Data.List.Basic
import QuizPreflight.Files.Entry

/-!
# Trees of entries

Looking up and changing entries by the names that lead to them. A change of one folder is seen
nowhere but below it, and two changes of one folder are one.
-/
namespace QuizPreflight.Entry

variable {e : Entry} {es : List (String × Entry)}
  {f g : List (String × Entry) → List (String × Entry)}
  {n m : String} {ns ms p : List String}

/-- What stands at a place, apart from what a folder holds. -/
inductive Node where
  | file (content : List UInt8)
  | folder
  deriving DecidableEq

def node : Entry → Node
  | file content => .file content
  | folder _ => .folder

/-- What the names below an entry lead to. -/
def nodeAt (e : Entry) (p : List String) : Option Node := (e.get? p).map node

@[simp] lemma node_file (content : List UInt8) : (file content).node = .file content := rfl

@[simp] lemma node_folder (es : List (String × Entry)) : (folder es).node = .folder := rfl

lemma eq_folder_of_isFolder (h : e.isFolder = true) : ∃ es, e = folder es := by
  cases e with
  | file content => cases h
  | folder es => exact ⟨es, rfl⟩

lemma lookup_put_self (n : String) (e : Entry) (es : List (String × Entry)) :
    (put n e es).lookup n = some e := by
  induction es with
  | nil => simp [put]
  | cons x es ih =>
    obtain ⟨k, old⟩ := x
    by_cases h : k = n
    · simp [put, h]
    · have hn : (n == k) = false := by simpa using Ne.symm h
      simp [put, h, List.lookup_cons, hn, ih]

lemma lookup_put_of_ne (e : Entry) (es : List (String × Entry)) (h : m ≠ n) :
    (put n e es).lookup m = es.lookup m := by
  induction es with
  | nil =>
    have hm : (m == n) = false := by simpa using h
    simp [put, List.lookup_cons, hm]
  | cons x es ih =>
    obtain ⟨k, old⟩ := x
    by_cases hk : k = n
    · have hm : (m == n) = false := by simpa using h
      simp [put, hk, List.lookup_cons, hm]
    · simp [put, hk, List.lookup_cons, ih]

lemma put_eq_self (h : es.lookup n = some e) : put n e es = es := by
  induction es with
  | nil => simp at h
  | cons x es ih =>
    obtain ⟨k, old⟩ := x
    by_cases hk : k = n
    · subst hk
      obtain rfl : old = e := by simpa using h
      simp [put]
    · have hn : (n == k) = false := by simpa using Ne.symm hk
      rw [List.lookup_cons, hn] at h
      simp [put, hk, ih h]

lemma put_put (n : String) (e e' : Entry) (es : List (String × Entry)) :
    put n e' (put n e es) = put n e' es := by
  induction es with
  | nil => simp [put]
  | cons x es ih =>
    obtain ⟨k, old⟩ := x
    by_cases hk : k = n
    · simp [put, hk]
    · simp [put, hk, ih]

lemma erase_put (e : Entry) (h : es.lookup n = none) : erase n (put n e es) = es := by
  induction es with
  | nil => simp [put, erase]
  | cons x es ih =>
    obtain ⟨k, old⟩ := x
    by_cases hk : k = n
    · subst hk
      simp at h
    · have hn : (n == k) = false := by simpa using Ne.symm hk
      rw [List.lookup_cons, hn] at h
      have hi := ih h
      simp only [erase] at hi ⊢
      simp [put, hk, hi]

@[simp] lemma get?_nil (e : Entry) : e.get? [] = some e := by cases e <;> rfl

@[simp] lemma get?_file_cons (content : List UInt8) (n : String) (ns : List String) :
    (file content).get? (n :: ns) = none := rfl

lemma get?_folder_cons (es : List (String × Entry)) (n : String) (ns : List String) :
    (folder es).get? (n :: ns) = (es.lookup n).bind (·.get? ns) := by
  simp only [get?]
  cases es.lookup n <;> rfl

theorem get?_append (e : Entry) (ns ms : List String) :
    e.get? (ns ++ ms) = (e.get? ns).bind (·.get? ms) := by
  induction ns generalizing e with
  | nil => simp
  | cons n ns ih =>
    cases e with
    | file content => rfl
    | folder es =>
      rw [List.cons_append, get?_folder_cons, get?_folder_cons]
      cases es.lookup n with
      | none => rfl
      | some child => exact ih child

/-- Only a folder holds anything. -/
lemma folder_of_get?_concat (h : (e.get? (ns ++ [n])).isSome) :
    ∃ es, e.get? ns = some (folder es) := by
  rw [get?_append] at h
  cases hd : e.get? ns with
  | none => simp [hd] at h
  | some d =>
    cases d with
    | file content => simp [hd] at h
    | folder es => exact ⟨es, rfl⟩

lemma modify_folder_cons (es : List (String × Entry)) (n : String) (ns : List String) :
    (folder es).modify f (n :: ns) =
      match es.lookup n with
      | none => folder es
      | some child => folder (put n (child.modify f ns) es) := by
  cases h : es.lookup n <;> simp [modify, h]

@[simp] lemma modify_file (content : List UInt8) (ns : List String) :
    (file content).modify f ns = file content := by
  cases ns <;> rfl

@[simp] lemma modify_folder_nil (es : List (String × Entry)) :
    (folder es).modify f [] = folder (f es) := rfl

@[simp] lemma isFolder_modify (e : Entry) (ns : List String) :
    (e.modify f ns).isFolder = e.isFolder := by
  cases e with
  | file content => simp
  | folder es =>
    cases ns with
    | nil => rfl
    | cons n ns =>
      rw [modify_folder_cons]
      cases es.lookup n <;> rfl

theorem modify_modify (e : Entry) (f g : List (String × Entry) → List (String × Entry))
    (ns : List String) : (e.modify f ns).modify g ns = e.modify (g ∘ f) ns := by
  induction ns generalizing e with
  | nil => cases e <;> simp
  | cons n ns ih =>
    cases e with
    | file content => simp
    | folder es =>
      rw [modify_folder_cons, modify_folder_cons]
      cases h : es.lookup n with
      | none => simp [modify_folder_cons, h]
      | some child => simp [modify_folder_cons, lookup_put_self, ih, put_put]

/-- Changes of a folder that come to the same there come to the same. -/
theorem modify_congr (h : ∀ es, e.get? ns = some (folder es) → f es = g es) :
    e.modify f ns = e.modify g ns := by
  induction ns generalizing e with
  | nil => cases e <;> simp_all
  | cons n ns ih =>
    cases e with
    | file content => simp
    | folder es =>
      rw [modify_folder_cons, modify_folder_cons]
      cases hl : es.lookup n with
      | none => rfl
      | some child =>
        have hc : child.modify f ns = child.modify g ns := by
          apply ih
          intro es' h'
          apply h
          rw [get?_folder_cons, hl]
          exact h'
        simp [hc]

@[simp] lemma modify_id (e : Entry) (ns : List String) : e.modify id ns = e := by
  induction ns generalizing e with
  | nil => cases e <;> simp
  | cons n ns ih =>
    cases e with
    | file content => simp
    | folder es =>
      rw [modify_folder_cons]
      cases h : es.lookup n with
      | none => rfl
      | some child => simp [ih, put_eq_self h]

/-- A change of what names below a folder lead to, as a change of its entries. -/
def under (f : List (String × Entry) → List (String × Entry)) (ms : List String)
    (es : List (String × Entry)) : List (String × Entry) :=
  match (folder es).modify f ms with
  | folder es' => es'
  | file _ => es

lemma folder_under (ms : List String) (es : List (String × Entry)) :
    folder (under f ms es) = (folder es).modify f ms := by
  unfold under
  cases ms with
  | nil => rfl
  | cons m ms =>
    rw [modify_folder_cons]
    cases es.lookup m <;> rfl

theorem modify_append (e : Entry) (ns ms : List String) :
    e.modify f (ns ++ ms) = e.modify (under f ms) ns := by
  induction ns generalizing e with
  | nil => cases e <;> simp [folder_under]
  | cons n ns ih =>
    cases e with
    | file content => simp
    | folder es => simp only [List.cons_append, modify_folder_cons, ih]

lemma get?_modify_self (h : e.get? ns = some (folder es)) :
    (e.modify f ns).get? ns = some (folder (f es)) := by
  induction ns generalizing e with
  | nil =>
    obtain rfl : e = folder es := by simpa using h
    simp
  | cons n ns ih =>
    cases e with
    | file content => simp at h
    | folder es' =>
      rw [get?_folder_cons] at h
      rw [modify_folder_cons]
      cases hl : es'.lookup n with
      | none => simp [hl] at h
      | some child =>
        rw [hl] at h
        rw [get?_folder_cons, lookup_put_self]
        exact ih h

/-- A change of a folder is not seen outside it. -/
theorem nodeAt_modify_of_not_below (e : Entry) (h : ¬ (ns <+: p ∧ ns ≠ p)) :
    (e.modify f ns).nodeAt p = e.nodeAt p := by
  unfold nodeAt
  induction ns generalizing e p with
  | nil =>
    obtain rfl : p = [] := by
      by_contra hp
      exact h ⟨List.nil_prefix, Ne.symm hp⟩
    cases e <;> simp
  | cons n ns ih =>
    cases e with
    | file content => simp
    | folder es =>
      rw [modify_folder_cons]
      cases hl : es.lookup n with
      | none => rfl
      | some child =>
        cases p with
        | nil => simp
        | cons m p =>
          rw [get?_folder_cons, get?_folder_cons]
          by_cases hm : m = n
          · subst hm
            rw [lookup_put_self, hl]
            apply ih child
            rintro ⟨hp, hne⟩
            exact h ⟨(List.cons_prefix_cons).mpr ⟨rfl, hp⟩, by simpa using hne⟩
          · rw [lookup_put_of_ne _ _ hm]

end QuizPreflight.Entry
