import QuizPreflight.Proofs.Files.Place

/-!
# Changes of a file system

Making a folder and writing a file change what stands at one place. A run of changes below a
folder changes nothing outside it.
-/
namespace QuizPreflight.FileSystem

open Entry

variable {fs fs' fs'' : FileSystem} {p : Path} {place q : List String} {n : String}
  {e : Entry} {content : List UInt8}

lemma put_concat (fs : FileSystem) (place : List String) (n : String) (e : Entry) :
    fs.put (place ++ [n]) e = fs.modify place (Entry.put n e) := by
  simp [put]

lemma erase_concat (fs : FileSystem) (place : List String) (n : String) :
    fs.erase (place ++ [n]) = fs.modify place (Entry.erase n) := by
  simp [erase]

/-- An entry that holds nothing, put where no folder stands, changes what stands there only. -/
theorem view_put (hp : fs.view place = some .folder) (hq : fs.view (place ++ [n]) ≠ some .folder)
    (he : ∀ m ms, e.get? (m :: ms) = none) (r : List String) :
    (fs.put (place ++ [n]) e).view r =
      if r = place ++ [n] then some e.node else fs.view r := by
  obtain ⟨es, hes⟩ := view_eq_folder_iff.mp hp
  have hself := get?_modify_self (f := Entry.put n e) hes
  rw [put_concat]
  simp only [view, nodeAt, modify] at hq ⊢
  by_cases hr : place <+: r
  · obtain ⟨ms, rfl⟩ := hr
    rw [get?_append, hself, get?_append, hes, Option.bind_some, Option.bind_some]
    cases ms with
    | nil => simp
    | cons m ms =>
      rw [get?_folder_cons, get?_folder_cons]
      by_cases hm : m = n
      · subst hm
        rw [lookup_put_self, Option.bind_some]
        cases ms with
        | nil => simp
        | cons m' ms =>
          -- below a file or a missing entry nothing stood, and nothing stands below the new one
          have hold : (es.lookup m).bind (·.get? (m' :: ms)) = none := by
            rw [get?_append, hes, Option.bind_some, get?_folder_cons] at hq
            rcases hl : es.lookup m with _ | _ | es'
            · rfl
            · rfl
            · simp [hl] at hq
          simp [he, hold]
      · rw [lookup_put_of_ne _ _ hm]
        simp [hm]
  · have hne : r ≠ place ++ [n] := by
      rintro rfl
      exact hr (List.prefix_append _ _)
    rw [if_neg hne]
    exact nodeAt_modify_of_not_below fs.root fun h => hr h.1

lemma keeps_put (hp : fs.view place = some .folder) (hq : fs.view (place ++ [n]) ≠ some .folder)
    (he : ∀ m ms, e.get? (m :: ms) = none) : Keeps fs (fs.put (place ++ [n]) e) := by
  refine ⟨by rw [put_concat]; rfl, ?_⟩
  intro r hr
  rw [view_put hp hq he]
  split
  · next h =>
    subst h
    exact absurd hr hq
  · exact hr

lemma makeFolder_eq_ok_iff : fs.makeFolder p = .ok fs' ↔
    ∃ q, fs.locate p = .ok q ∧ fs.view q = none ∧ fs' = fs.put q (.folder []) := by
  unfold makeFolder
  rcases fs.locate p with problem | q
  · simp
  · simp only [Except.ok.injEq, exists_eq_left', view_eq_none_iff]
    rcases fs.root.get? q with _ | old
    · simpa using eq_comm
    · simp

lemma write_eq_ok_iff : fs.write p content = .ok fs' ↔
    ∃ q, fs.locate p = .ok q ∧ fs.view q ≠ some .folder ∧ fs' = fs.put q (.file content) := by
  unfold write view nodeAt
  rcases fs.locate p with problem | q
  · simp
  · simp only [Except.ok.injEq, exists_eq_left']
    rcases fs.root.get? q with _ | _ | es
    · simpa using eq_comm
    · simpa using eq_comm
    · simp

/-- One file system differs from another in what the folder at a place holds, if at all. -/
def DiffersBelow (place : List String) (fs fs' : FileSystem) : Prop :=
  ∃ f, fs' = fs.modify place f

namespace DiffersBelow

theorem refl (place : List String) (fs : FileSystem) : DiffersBelow place fs fs :=
  ⟨id, by simp [modify]⟩

theorem trans (h : DiffersBelow place fs fs') (h' : DiffersBelow place fs' fs'') :
    DiffersBelow place fs fs'' := by
  obtain ⟨f, rfl⟩ := h
  obtain ⟨g, rfl⟩ := h'
  exact ⟨g ∘ f, by simp [modify, modify_modify]⟩

theorem put (fs : FileSystem) (place ns : List String) (n : String) (e : Entry) :
    DiffersBelow place fs (fs.put (place ++ (ns ++ [n])) e) := by
  rw [← List.append_assoc, put_concat]
  exact ⟨under (Entry.put n e) ns, by simp [modify, modify_append]⟩

/-- Outside the folder everything is as it was. -/
theorem view (h : DiffersBelow place fs fs') (hq : ¬ (place <+: q ∧ place ≠ q)) :
    fs'.view q = fs.view q := by
  obtain ⟨f, rfl⟩ := h
  exact nodeAt_modify_of_not_below fs.root hq

end DiffersBelow

variable {ns : List String}

/-- A folder made by names that lead down from a place is the only change. -/
theorem makeFolder_below (hd : ".." ∉ ns ++ [n])
    (h : fs.makeFolder ⟨p.slashes, p.names ++ (ns ++ [n])⟩ = .ok fs') :
    fs.view (fs.placeOf p ++ (ns ++ [n])) = none ∧
      (∀ r, fs'.view r = if r = fs.placeOf p ++ (ns ++ [n]) then some .folder else fs.view r) ∧
      Keeps fs fs' ∧ DiffersBelow (fs.placeOf p) fs fs' := by
  obtain ⟨q, hq, hnone, rfl⟩ := makeFolder_eq_ok_iff.mp h
  obtain ⟨rfl, hparent⟩ := locate_concat hq hd
  have hnot : fs.view (fs.placeOf p ++ ns ++ [n]) ≠ some .folder := by
    rw [List.append_assoc, hnone]
    simp
  have he : ∀ m ms, (folder []).get? (m :: ms) = none := by simp [Entry.get?]
  refine ⟨hnone, ?_, ?_, DiffersBelow.put ..⟩
  · rw [← List.append_assoc]
    exact view_put hparent hnot he
  · rw [← List.append_assoc]
    exact keeps_put hparent hnot he

theorem write_below (hd : ".." ∉ ns ++ [n])
    (h : fs.write ⟨p.slashes, p.names ++ (ns ++ [n])⟩ content = .ok fs') :
    (∀ r, fs'.view r = if r = fs.placeOf p ++ (ns ++ [n]) then some (.file content)
      else fs.view r) ∧
      Keeps fs fs' ∧ DiffersBelow (fs.placeOf p) fs fs' := by
  obtain ⟨q, hq, hnot, rfl⟩ := write_eq_ok_iff.mp h
  obtain ⟨rfl, hparent⟩ := locate_concat hq hd
  rw [← List.append_assoc] at hnot
  have he : ∀ m ms, (file content).get? (m :: ms) = none := by simp
  refine ⟨?_, ?_, DiffersBelow.put ..⟩
  · rw [← List.append_assoc]
    exact view_put hparent hnot he
  · rw [← List.append_assoc]
    exact keeps_put hparent hnot he

/-- A new folder stands where its path leads, and every other folder stays. -/
theorem lookup_of_makeFolder (hn : p.names ≠ []) (h : fs.makeFolder p = .ok fs') :
    Keeps fs fs' ∧ fs'.lookup p = .ok (.folder []) := by
  obtain ⟨q, hq, hfree, rfl⟩ := makeFolder_eq_ok_iff.mp h
  obtain ⟨parent, n, rfl, hparent⟩ := exists_concat_of_locate hq hn hfree
  have hnot : fs.view (parent ++ [n]) ≠ some .folder := by simp [hfree]
  have hkeeps := keeps_put (e := .folder []) hparent hnot (by simp [Entry.get?])
  refine ⟨hkeeps, lookup_eq_ok_iff.mpr ⟨_, hkeeps.locate hq, ?_⟩⟩
  obtain ⟨es, hes⟩ := view_eq_folder_iff.mp hparent
  simp only [put_concat, modify]
  rw [get?_append, get?_modify_self hes, Option.bind_some, get?_folder_cons, lookup_put_self]
  rfl

/-- Removing a new folder undoes making it, whatever has happened inside in between. -/
theorem remove_of_makeFolder (hn : p.names ≠ []) (hm : fs.makeFolder p = .ok fs')
    (hk : Keeps fs' fs'') (hb : DiffersBelow (fs.placeOf p) fs' fs'') : fs''.remove p = fs := by
  have hkeeps := (lookup_of_makeFolder hn hm).1
  obtain ⟨q, hq, hfree, rfl⟩ := makeFolder_eq_ok_iff.mp hm
  have hlocate := hk.locate (hkeeps.locate hq)
  obtain rfl : q = fs.placeOf p := eq_placeOf_of_locate hq
  obtain ⟨parent, n, hcat, hparent⟩ := exists_concat_of_locate hq hn hfree
  obtain ⟨f, rfl⟩ := hb
  -- making, changing and removing are three changes of the folder above, which come to none
  simp only [remove, hlocate]
  rw [hcat, put_concat, erase_concat]
  simp only [modify, modify_append, modify_modify]
  have hundo : fs.root.modify (Entry.erase n ∘ under f [n] ∘ Entry.put n (.folder [])) parent =
      fs.root.modify id parent := by
    apply modify_congr
    intro es hes
    have hl : es.lookup n = none := by
      rw [hcat, view_eq_none_iff, get?_append, hes, Option.bind_some, get?_folder_cons] at hfree
      simpa using hfree
    have hunder : under f [n] (Entry.put n (.folder []) es) =
        Entry.put n (.folder (f [])) (Entry.put n (.folder []) es) := by
      simp [under, modify_folder_cons, lookup_put_self]
    simp [hunder, put_put, erase_put _ hl]
  rw [hundo, modify_id]

end QuizPreflight.FileSystem
