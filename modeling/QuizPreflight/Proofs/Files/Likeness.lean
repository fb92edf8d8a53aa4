import Mathlib.Data.List.Nodup
import QuizPreflight.Proofs.Files.Tree

/-!
# Trees that hold the same

Two trees hold the same if the same names lead to the same files and to folders, in whatever
order a folder is listed. Putting entries into a tree keeps the names in its folders distinct.
-/
namespace QuizPreflight.Entry

variable {e e' x : Entry} {es es' : List (String × Entry)} {n : String} {ns ms p : List String}
  {f : List (String × Entry) → List (String × Entry)} {content : List UInt8}

/-- The same names lead to the same files and to folders, in whatever order they are listed. -/
def Alike (e e' : Entry) : Prop := ∀ names, e.nodeAt names = e'.nodeAt names

/-- The names in a folder differ, and so they do in every folder below it. -/
def Distinct (e : Entry) : Prop :=
  ∀ names es, e.get? names = some (folder es) → (es.map Prod.fst).Nodup

theorem Alike.refl (e : Entry) : e.Alike e := fun _ => rfl

theorem Alike.symm (h : e.Alike e') : e'.Alike e := fun names => (h names).symm

lemma Alike.isSome_get? (h : e.Alike e') (hs : (e.get? ns).isSome) : (e'.get? ns).isSome := by
  have hn := congrArg Option.isSome (h ns)
  simp only [nodeAt, Option.isSome_map] at hn
  rw [← hn]
  exact hs

lemma nodeAt_eq_file_iff : e.nodeAt ns = some (.file content) ↔
    e.get? ns = some (.file content) := by
  unfold nodeAt
  rcases e.get? ns with _ | _ | es <;> simp

lemma Alike.get?_file (h : e.Alike e') (hf : e.get? ns = some (file content)) :
    e'.get? ns = some (file content) :=
  nodeAt_eq_file_iff.mp ((h ns).symm.trans (nodeAt_eq_file_iff.mpr hf))

/-- A change below an entry is one of the entry itself. -/
lemma get?_modify_append (h : e.get? ns = some x) :
    (e.modify f (ns ++ ms)).get? ns = some (x.modify f ms) := by
  induction ns generalizing e with
  | nil =>
    obtain rfl : e = x := by simpa using h
    simp
  | cons n ns ih =>
    cases e with
    | file content => simp at h
    | folder es =>
      rw [get?_folder_cons] at h
      rw [List.cons_append, modify_folder_cons]
      cases hl : es.lookup n with
      | none => simp [hl] at h
      | some child =>
        rw [hl] at h
        rw [get?_folder_cons, lookup_put_self]
        exact ih h

/-- An entry that is put somewhere leaves what stands apart from it as it is. -/
lemma get?_put_of_apart (h₁ : ¬ ns ++ [n] <+: p) (h₂ : ¬ p <+: ns ++ [n]) :
    (e.modify (put n x) ns).get? p = e.get? p := by
  induction ns generalizing e p with
  | nil =>
    cases p with
    | nil => exact absurd List.nil_prefix h₂
    | cons m p =>
      have hm : m ≠ n := by
        rintro rfl
        exact h₁ (by simp)
      cases e with
      | file content => simp
      | folder es =>
        rw [modify_folder_nil, get?_folder_cons, get?_folder_cons, lookup_put_of_ne _ _ hm]
  | cons k ns ih =>
    cases p with
    | nil => exact absurd List.nil_prefix h₂
    | cons m p =>
      cases e with
      | file content => simp
      | folder es =>
        rw [modify_folder_cons]
        cases hl : es.lookup k with
        | none => rfl
        | some child =>
          rw [get?_folder_cons, get?_folder_cons]
          by_cases hm : m = k
          · subst hm
            rw [lookup_put_self, hl]
            apply ih
            · intro hp
              exact h₁ (List.cons_prefix_cons.mpr ⟨rfl, hp⟩)
            · intro hp
              exact h₂ (List.cons_prefix_cons.mpr ⟨rfl, hp⟩)
          · rw [lookup_put_of_ne _ _ hm]

lemma map_fst_put (n : String) (x : Entry) (es : List (String × Entry)) :
    (put n x es).map Prod.fst =
      if n ∈ es.map Prod.fst then es.map Prod.fst else es.map Prod.fst ++ [n] := by
  induction es with
  | nil => simp [put]
  | cons y es ih =>
    obtain ⟨k, old⟩ := y
    by_cases hk : k = n
    · simp [put, hk]
    · have hkn : ¬ n = k := fun h => hk h.symm
      simp only [put, hk, if_false, List.map_cons, ih, List.mem_cons, hkn, false_or]
      split <;> rfl

lemma nodup_put (x : Entry) (h : (es.map Prod.fst).Nodup) : ((put n x es).map Prod.fst).Nodup := by
  rw [map_fst_put]
  split
  · exact h
  · next hn => exact List.nodup_append_comm.mp (List.nodup_cons.mpr ⟨hn, h⟩)

lemma distinct_file (content : List UInt8) : (file content).Distinct := by
  intro names es h
  cases names <;> simp at h

lemma distinct_folder_iff : (folder es).Distinct ↔
    (es.map Prod.fst).Nodup ∧ ∀ m child, es.lookup m = some child → child.Distinct := by
  constructor
  · intro h
    refine ⟨h [] es (get?_nil _), ?_⟩
    intro m child hm names es' hes'
    apply h (m :: names) es'
    rw [get?_folder_cons, hm]
    exact hes'
  · rintro ⟨hnodup, hchild⟩ names es' h
    cases names with
    | nil =>
      obtain rfl : es = es' := by simpa using h
      exact hnodup
    | cons m names =>
      rw [get?_folder_cons] at h
      obtain ⟨child, hm, hes'⟩ := Option.bind_eq_some_iff.mp h
      exact hchild m child hm names es' hes'

lemma Distinct.put (h : (folder es).Distinct) (hx : x.Distinct) (n : String) :
    (folder (put n x es)).Distinct := by
  obtain ⟨hnodup, hchild⟩ := distinct_folder_iff.mp h
  refine distinct_folder_iff.mpr ⟨nodup_put x hnodup, ?_⟩
  intro m child hm
  by_cases hmn : m = n
  · subst hmn
    rw [lookup_put_self] at hm
    obtain rfl : x = child := by simpa using hm
    exact hx
  · rw [lookup_put_of_ne _ _ hmn] at hm
    exact hchild m child hm

theorem Distinct.modify_put (h : e.Distinct) (hx : x.Distinct) (n : String) (ns : List String) :
    (e.modify (Entry.put n x) ns).Distinct := by
  induction ns generalizing e with
  | nil =>
    cases e with
    | file content => simpa using h
    | folder es => exact h.put hx n
  | cons m ns ih =>
    cases e with
    | file content => simpa using h
    | folder es =>
      rw [modify_folder_cons]
      cases hl : es.lookup m with
      | none => exact h
      | some child => exact h.put (ih ((distinct_folder_iff.mp h).2 m child hl)) m

lemma mem_of_lookup {child : Entry} (h : es.lookup n = some child) : (n, child) ∈ es := by
  induction es with
  | nil => simp at h
  | cons y es ih =>
    obtain ⟨k, old⟩ := y
    by_cases hk : n = k
    · subst hk
      obtain rfl : old = child := by simpa using h
      exact List.mem_cons_self
    · have hkn : (n == k) = false := by simpa using hk
      rw [List.lookup_cons, hkn] at h
      exact List.mem_cons_of_mem _ (ih h)

lemma lookup_of_mem {child : Entry} (hnodup : (es.map Prod.fst).Nodup) (h : (n, child) ∈ es) :
    es.lookup n = some child := by
  induction es with
  | nil => simp at h
  | cons y es ih =>
    obtain ⟨k, old⟩ := y
    rw [List.map_cons, List.nodup_cons] at hnodup
    rcases List.mem_cons.mp h with heq | hmem
    · obtain ⟨rfl, rfl⟩ := Prod.mk.injEq .. ▸ heq
      simp
    · have hk : (n == k) = false := by
        rw [beq_eq_false_iff_ne]
        rintro rfl
        exact hnodup.1 (List.mem_map.mpr ⟨_, hmem, rfl⟩)
      rw [List.lookup_cons, hk]
      exact ih hnodup.2 hmem

/-- The names of the files in a folder that have an ending do not depend on how it is listed. -/
lemma Alike.perm_filesEnding (h : (folder es).Alike (folder es')) (hn : (es.map Prod.fst).Nodup)
    (hn' : (es'.map Prod.fst).Nodup) (ending : String) :
    ((es.filter fun x => x.1.endsWith ending && !x.2.isFolder).map Prod.fst).Perm
      ((es'.filter fun x => x.1.endsWith ending && !x.2.isFolder).map Prod.fst) := by
  have hsub : ∀ {l l' : List (String × Entry)}, (folder l).Alike (folder l') →
      (l.map Prod.fst).Nodup → (l'.map Prod.fst).Nodup →
      ∀ k ∈ (l.filter fun x => x.1.endsWith ending && !x.2.isFolder).map Prod.fst,
        k ∈ (l'.filter fun x => x.1.endsWith ending && !x.2.isFolder).map Prod.fst := by
    intro l l' hl hnodup hnodup' k hk
    obtain ⟨⟨m, child⟩, hmem, rfl⟩ := List.mem_map.mp hk
    obtain ⟨hin, hending⟩ := List.mem_filter.mp hmem
    cases child with
    | folder c => simp [isFolder] at hending
    | file content =>
      have hget : (folder l).get? [m] = some (file content) := by
        rw [get?_folder_cons, lookup_of_mem hnodup hin]
        simp
      have hget' := hl.get?_file hget
      rw [get?_folder_cons] at hget'
      obtain ⟨child', hlookup, hchild⟩ := Option.bind_eq_some_iff.mp hget'
      obtain rfl : child' = file content := by simpa using hchild
      exact List.mem_map.mpr ⟨_, List.mem_filter.mpr ⟨mem_of_lookup hlookup, hending⟩, rfl⟩
  refine (List.perm_ext_iff_of_nodup ?_ ?_).mpr ?_
  · exact hn.sublist (List.filter_sublist.map _)
  · exact hn'.sublist (List.filter_sublist.map _)
  · intro k
    exact ⟨hsub h hn hn' k, hsub h.symm hn' hn k⟩

end QuizPreflight.Entry
