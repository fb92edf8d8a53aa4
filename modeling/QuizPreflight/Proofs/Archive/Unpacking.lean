import QuizPreflight.Proofs.Archive.Confinement
import QuizPreflight.Proofs.Files.Descent

/-!
# What an extraction makes of a folder

An extraction that comes to its end has put the members into the tree of its destination, one
after the other. What the tree is then is told by the archive alone and not by where the
destination stands.
-/
namespace QuizPreflight.Archive

open FileSystem

variable {fs fs' : FileSystem} {destination : Path} {e e' : Entry} {m : Member}
  {rs ns : List String} {n : String} {all ms : List Member}

/-- The folder that some names lead to, made with those above it where they are missing; the
names count from the last. -/
def growFolders (e : Entry) : List String → Entry
  | [] => e
  | n :: above =>
    if ((growFolders e above).get? (n :: above).reverse).isSome then growFolders e above
    else (growFolders e above).modify (Entry.put n (.folder [])) above.reverse

def Member.content (a : Bytes) (m : Member) : List UInt8 :=
  match m.stored a with
  | .error _ => []
  | .ok stored => (m.unpack stored).bytes

/-- An entry with a member put below it. -/
def Member.grow (a : Bytes) (m : Member) (e : Entry) : Entry :=
  match m.writtenNames.reverse with
  | [] => e
  | n :: above =>
    if m.isFolder then growFolders e (n :: above)
    else (growFolders e above).modify (Entry.put n (.file (m.content a))) above.reverse

/-- An entry with members put below it in order. -/
def growAll (a : Bytes) (all ms : List Member) (e : Entry) : Entry :=
  ms.foldl (fun e m => (latest all m).grow a e) e

/-- The tree that the bytes of an archive stand for. -/
def treeOf (content : List UInt8) : Entry :=
  match readMembers content.toArray with
  | .error _ => .folder []
  | .ok ms => growAll content.toArray ms ms (.folder [])

lemma growFolders_of_isSome (h : (e.get? rs.reverse).isSome) : growFolders e rs = e := by
  induction rs with
  | nil => rfl
  | cons n above ih =>
    have habove : (e.get? above.reverse).isSome := by
      rw [List.reverse_cons] at h
      obtain ⟨es, hes⟩ := Entry.folder_of_get?_concat h
      rw [hes]
      rfl
    rw [growFolders, ih habove, if_pos h]

lemma distinct_growFolders (h : e.Distinct) (rs : List String) : (growFolders e rs).Distinct := by
  have hempty : (Entry.folder []).Distinct := Entry.distinct_folder_iff.mpr ⟨by simp, by simp⟩
  induction rs with
  | nil => exact h
  | cons n above ih =>
    rw [growFolders]
    split
    · exact ih
    · exact ih.modify_put hempty n above.reverse

lemma Member.distinct_grow (a : Bytes) (m : Member) (h : e.Distinct) : (m.grow a e).Distinct := by
  unfold Member.grow
  split
  · exact h
  · split
    · exact distinct_growFolders h _
    · exact (distinct_growFolders h _).modify_put (Entry.distinct_file _) _ _

lemma distinct_growAll (a : Bytes) (all ms : List Member) (h : e.Distinct) :
    (growAll a all ms e).Distinct := by
  induction ms generalizing e with
  | nil => exact h
  | cons m ms ih => exact ih ((latest all m).distinct_grow a h)

/-- The names in an extracted folder differ. -/
theorem distinct_treeOf (content : List UInt8) : (treeOf content).Distinct := by
  have hempty : (Entry.folder []).Distinct := Entry.distinct_folder_iff.mpr ⟨by simp, by simp⟩
  unfold treeOf
  split
  · exact hempty
  · exact distinct_growAll _ _ _ hempty

lemma isFolder_growFolders (e : Entry) (rs : List String) :
    (growFolders e rs).isFolder = e.isFolder := by
  induction rs with
  | nil => rfl
  | cons n above ih =>
    rw [growFolders]
    split
    · exact ih
    · rw [Entry.isFolder_modify, ih]

lemma Member.isFolder_grow (a : Bytes) (m : Member) (e : Entry) :
    (m.grow a e).isFolder = e.isFolder := by
  unfold Member.grow
  split
  · rfl
  · split
    · exact isFolder_growFolders e _
    · rw [Entry.isFolder_modify, isFolder_growFolders]

lemma isFolder_treeOf (content : List UInt8) : (treeOf content).isFolder = true := by
  have hall : ∀ (a : Bytes) (all ms : List Member) (e : Entry),
      (growAll a all ms e).isFolder = e.isFolder := by
    intro a all ms
    induction ms with
    | nil => exact fun e => rfl
    | cons m ms ih => exact fun e => (ih _).trans ((latest all m).isFolder_grow a e)
  unfold treeOf
  split
  · rfl
  · exact hall _ _ _ _

lemma lookup_of_makeParents (hdest : fs.lookup destination = .ok e) (hd : ".." ∉ rs)
    (h : makeParents fs destination.slashes (rs ++ destination.names.reverse) = (fs', none)) :
    fs'.lookup destination = .ok (growFolders e rs) := by
  induction rs generalizing fs' with
  | nil =>
    rw [List.nil_append, makeParents_of_lookup hdest] at h
    obtain rfl : fs = fs' := congrArg Prod.fst h
    exact hdest
  | cons n above ih =>
    obtain ⟨hn, habove⟩ : ".." ≠ n ∧ ".." ∉ above := by simpa using hd
    have hnames : (n :: (above ++ destination.names.reverse)).reverse =
        destination.names ++ (above.reverse ++ [n]) := by simp
    have hdots : ".." ∉ above.reverse ++ [n] := by simp [hn, habove]
    simp only [List.cons_append, makeParents, hnames] at h
    split at h
    · next x hx =>
      obtain rfl : fs = fs' := congrArg Prod.fst h
      have hget := ((lookup_append_eq_ok_iff hdest hdots).mp hx).1
      -- what stands has all its folders, so nothing grows either
      rw [growFolders_of_isSome]
      · exact hdest
      · rw [List.reverse_cons, hget]
        rfl
    · split at h
      · cases h
      · next fs₁ hmade =>
        split at h
        · next fs₂ hm =>
          obtain rfl : fs₂ = fs' := congrArg Prod.fst h
          obtain ⟨hnone, hlookup⟩ := makeFolder_append (ih habove hmade) hdots hm
          rw [growFolders, if_neg]
          · exact hlookup
          · rw [List.reverse_cons, hnone]
            simp
        · cases h

lemma exists_lookup_of_lookupFolder {p : Path} (h : lookupFolder fs p = true) :
    ∃ x, fs.lookup p = .ok x := by
  unfold lookupFolder at h
  split at h
  · next x hx => exact ⟨x, hx⟩
  · cases h

/-- A member that is written below the destination is put into its tree. -/
theorem lookup_of_extractMember {a : Bytes} (hdest : fs.lookup destination = .ok e)
    (hfolder : e.isFolder = true) (h : extractMember a destination fs m = ⟨fs', none⟩) :
    fs'.lookup destination = .ok (m.grow a e) := by
  rcases m.writtenNames_cases with hnil | ⟨ns, n, hcat, hdots, hns⟩
  · obtain ⟨entries, rfl⟩ := Entry.eq_folder_of_isFolder hfolder
    have hsame := extractMember_of_nil a hdest hnil
    rw [h] at hsame
    obtain rfl : fs' = fs := hsame
    rw [Member.grow, hnil]
    exact hdest
  have hslashes : (destination.append (ns ++ [n])).slashes = destination.slashes := rfl
  have hreverse : m.writtenNames.reverse = n :: ns.reverse := by rw [hcat]; simp
  simp only [extractMember, hcat, reverse_names_parent, hslashes] at h
  split at h
  · cases h
  next fs₁ hmade =>
  have hgrown := lookup_of_makeParents hdest hns hmade
  rw [Member.grow, hreverse]
  dsimp only
  split at h
  · next hm =>
    rw [if_pos hm]
    split at h
    · next hl =>
      obtain rfl : fs₁ = fs' := congrArg Progress.files h
      obtain ⟨x, hx⟩ := exists_lookup_of_lookupFolder hl
      have hget := ((lookup_append_eq_ok_iff hgrown hdots).mp hx).1
      rw [growFolders, if_pos]
      · exact hgrown
      · rw [List.reverse_cons, List.reverse_reverse, hget]
        rfl
    · split at h
      · next fs₂ hf =>
        obtain rfl : fs₂ = fs' := congrArg Progress.files h
        obtain ⟨hnone, hlookup⟩ := makeFolder_append hgrown hdots hf
        rw [growFolders, if_neg]
        · rw [List.reverse_reverse]
          exact hlookup
        · rw [List.reverse_cons, List.reverse_reverse, hnone]
          simp
      · cases h
  · next hm =>
    rw [if_neg hm]
    split at h
    · cases h
    · next stored hs =>
      split at h
      · cases h
      · next fs₂ hw =>
        obtain rfl : fs₂ = fs' := congrArg Progress.files h
        have hc : m.content a = (m.unpack stored).bytes := by rw [Member.content, hs]
        rw [hc, List.reverse_reverse]
        exact write_append hgrown hdots hw

theorem lookup_of_extractEach {a : Bytes} (hdest : fs.lookup destination = .ok e)
    (hfolder : e.isFolder = true) (h : extractEach a destination all fs ms = ⟨fs', none⟩) :
    fs'.lookup destination = .ok (growAll a all ms e) := by
  induction ms generalizing fs e with
  | nil =>
    obtain rfl : fs = fs' := congrArg Progress.files h
    exact hdest
  | cons m ms ih =>
    rw [extractEach] at h
    split at h
    · next fs₁ hstep =>
      have hgrown := lookup_of_extractMember hdest hfolder hstep
      exact ih hgrown (((latest all m).isFolder_grow a e).trans hfolder) h
    · next stopped hstop =>
      rw [h] at hstop
      exact absurd rfl (hstop fs')

/-- An extraction into an empty folder that comes to its end leaves there the tree that the bytes
of the archive stand for. -/
theorem extract_treeOf {archive : Path} (hempty : fs.lookup destination = .ok (.folder []))
    (h : extract fs archive destination = ⟨fs', none⟩) :
    ∃ content, fs.read archive = .ok content ∧
      fs'.lookup destination = .ok (treeOf content) := by
  rcases extract_cases fs archive destination with ⟨f, hx⟩ | ⟨content, ms, hread, hms, -, hx⟩
  · rw [h] at hx
    cases hx
  · rw [h] at hx
    refine ⟨content, hread, ?_⟩
    rw [treeOf, hms]
    exact lookup_of_extractEach hempty rfl hx.symm

end QuizPreflight.Archive
