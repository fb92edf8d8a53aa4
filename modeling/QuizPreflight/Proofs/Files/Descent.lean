import Mathlib.Data.List.Sort
import Mathlib.Data.String.Basic
import QuizPreflight.Proofs.Files.Change
import QuizPreflight.Proofs.Files.Likeness

/-!
# Descent into a folder

What the paths below a folder lead to is told by the tree that the folder holds, but for the
length of the whole path. Two folders that hold the same, wherever they stand, cannot be told
apart by paths below them that both can be followed.
-/
namespace QuizPreflight

namespace Path

/-- Names that lead downwards wherever the folder is that they are entered from. -/
def Admissible (names : List String) : Prop :=
  ∀ n ∈ names, n.utf8ByteSize ≤ FileSystem.maxNameBytes ∧ '\x00' ∉ n.toList

lemma Admissible.zero_notMem {p : Path} {names : List String} (h : Admissible names)
    (hp : '\x00' ∉ p.toString.toList) : '\x00' ∉ (p.append names).toString.toList := by
  rw [mem_toString (by decide) (by decide)] at hp ⊢
  rintro ⟨n, hn, hc⟩
  rcases List.mem_append.mp hn with hn | hn
  · exact hp ⟨n, hn, hc⟩
  · exact (h n hn).2 hc

end Path

namespace FileSystem

open Entry

variable {fs fs' : FileSystem} {p p' : Path} {place q : List String} {n : String}
  {ns names : List String} {e e' x : Entry} {content : List UInt8}

lemma enterAll_eq_ok_of_get? (hd : ".." ∉ ns) (hs : ∀ n ∈ ns, n.utf8ByteSize ≤ maxNameBytes)
    (h : fs.root.get? (place ++ ns) = some x) : fs.enterAll place ns = .ok (place ++ ns) := by
  induction ns generalizing place with
  | nil => simp
  | cons n ns ih =>
    obtain ⟨hn, hns⟩ : ".." ≠ n ∧ ".." ∉ ns := by simpa using hd
    rw [← List.singleton_append, ← List.append_assoc] at h ⊢
    have hrest := ih hns (fun m hm => hs m (List.mem_cons_of_mem _ hm)) h
    rw [get?_append] at h
    obtain ⟨child, hchild, -⟩ := Option.bind_eq_some_iff.mp h
    obtain ⟨es, hes⟩ := folder_of_get?_concat (by rw [hchild]; rfl)
    refine enterAll_cons_eq_ok_iff.mpr ⟨_, enter_eq_ok_iff.mpr ⟨?_, ?_⟩, hrest⟩
    · exact view_eq_folder_iff.mpr ⟨es, hes⟩
    · rw [if_neg (Ne.symm hn)]
      exact ⟨hs n List.mem_cons_self, rfl⟩

lemma utf8ByteSize_le_of_enterAll (hd : ".." ∉ ns) (h : fs.enterAll place ns = .ok q) :
    ∀ n ∈ ns, n.utf8ByteSize ≤ maxNameBytes := by
  induction ns generalizing place with
  | nil => simp
  | cons n ns ih =>
    obtain ⟨hn, hns⟩ : ".." ≠ n ∧ ".." ∉ ns := by simpa using hd
    obtain ⟨mid, hfirst, hrest⟩ := enterAll_cons_eq_ok_iff.mp h
    have hsize := (enter_eq_ok_iff.mp hfirst).2
    rw [if_neg (Ne.symm hn)] at hsize
    intro m hm
    rcases List.mem_cons.mp hm with rfl | hm
    · exact hsize.1
    · exact ih hns hrest m hm

/-- Names that can be followed from a folder are admissible, and the path to their end is not too
long. -/
lemma admissible_of_locate (hd : ".." ∉ names) (h : fs.locate (p.append names) = .ok q) :
    Path.Admissible names ∧ (p.append names).toString.utf8ByteSize ≤ maxPathBytes ∧
      q = fs.placeOf p ++ names := by
  obtain ⟨mid, hmid, hdown⟩ := locate_of_append h
  obtain ⟨hz, hs, -⟩ := locate_eq_ok_iff.mp h
  have hsizes := utf8ByteSize_le_of_enterAll hd hdown
  refine ⟨fun n hn => ⟨hsizes n hn, ?_⟩, hs, ?_⟩
  · intro hc
    exact hz ((Path.mem_toString (by decide) (by decide) _).mpr ⟨n, List.mem_append_right _ hn, hc⟩)
  · rw [eq_normalise_of_enterAll hdown, Path.normalise_of_downward _ hd, eq_placeOf_of_locate hmid]

/-- What names below a folder lead to: what they lead to in its tree, if the path is not too
long. -/
theorem lookup_append_eq_ok_iff (h : fs.lookup p = .ok e) (hd : ".." ∉ names) :
    fs.lookup (p.append names) = .ok x ↔ e.get? names = some x ∧ Path.Admissible names ∧
      (p.append names).toString.utf8ByteSize ≤ maxPathBytes := by
  obtain ⟨place, hplace, hget⟩ := lookup_eq_ok_iff.mp h
  obtain ⟨hz, -, hstart⟩ := locate_eq_ok_iff.mp hplace
  have hbelow : fs.root.get? (place ++ names) = e.get? names := by
    rw [get?_append, hget, Option.bind_some]
  constructor
  · intro hl
    obtain ⟨q, hq, hx⟩ := lookup_eq_ok_iff.mp hl
    obtain ⟨hadm, hs, rfl⟩ := admissible_of_locate hd hq
    rw [← eq_placeOf_of_locate hplace, hbelow] at hx
    exact ⟨hx, hadm, hs⟩
  · rintro ⟨hx, hadm, hs⟩
    rw [← hbelow] at hx
    refine lookup_eq_ok_iff.mpr ⟨_, locate_eq_ok_iff.mpr ⟨?_, hs, ?_⟩, hx⟩
    · exact hadm.zero_notMem hz
    · exact enterAll_append_eq_ok_iff.mpr ⟨place, hstart,
        enterAll_eq_ok_of_get? hd (fun n hn => (hadm n hn).1) hx⟩

/-- The length of a path counts before anything else. -/
lemma lookup_of_long (hz : '\x00' ∉ p.toString.toList)
    (hlong : maxPathBytes < p.toString.utf8ByteSize) : fs.lookup p = .error .nameTooLong := by
  have hlocate : fs.locate p = .error .nameTooLong := by
    unfold locate
    rw [if_neg (by simpa using hz), if_pos hlong]
  unfold lookup
  rw [hlocate]
  rfl

/-- A path that stands in the tree but cannot be followed is too long. -/
lemma lookup_append_of_not_ok (h : fs.lookup p = .ok e) (hd : ".." ∉ names)
    (hadm : Path.Admissible names) (hs : (e.get? names).isSome)
    (hno : ∀ x, fs.lookup (p.append names) ≠ .ok x) :
    fs.lookup (p.append names) = .error .nameTooLong := by
  obtain ⟨x, hx⟩ := Option.isSome_iff_exists.mp hs
  have hlong : maxPathBytes < (p.append names).toString.utf8ByteSize := by
    by_contra hle
    exact hno x ((lookup_append_eq_ok_iff h hd).mpr ⟨hx, hadm, Nat.le_of_not_lt hle⟩)
  obtain ⟨place, hplace, -⟩ := lookup_eq_ok_iff.mp h
  exact lookup_of_long (hadm.zero_notMem (locate_eq_ok_iff.mp hplace).1) hlong

lemma test_of_long (h : fs.lookup p = .error .nameTooLong) (holds : Entry → Bool) :
    fs.test holds p = .error ⟨.nameTooLong, p⟩ := by
  rw [test, h]

lemma exists?_eq_ok_iff {b : Bool} : fs.exists? p = .ok b ↔
    fs.lookup p ≠ .error .nameTooLong ∧ (b = true ↔ ∃ x, fs.lookup p = .ok x) := by
  unfold exists? test
  rcases fs.lookup p with problem | x
  · cases problem <;> cases b <;> simp
  · cases b <;> simp

lemma read_eq_ok_iff : fs.read p = .ok content ↔ fs.lookup p = .ok (.file content) := by
  unfold read
  rcases fs.lookup p with problem | _ | es <;> simp

/-- Below folders that hold the same the same names lead to something. -/
theorem exists?_append_of_alike (h : fs.lookup p = .ok e) (h' : fs'.lookup p' = .ok e')
    (hs : e.Alike e') (hd : ".." ∉ names) {b b' : Bool}
    (hb : fs.exists? (p.append names) = .ok b) (hb' : fs'.exists? (p'.append names) = .ok b') :
    b = b' := by
  have hsub : ∀ {fs fs' : FileSystem} {p p' : Path} {e e' : Entry} {b b' : Bool},
      fs.lookup p = .ok e → fs'.lookup p' = .ok e' → e.Alike e' →
      fs.exists? (p.append names) = .ok b → fs'.exists? (p'.append names) = .ok b' →
      b = true → b' = true := by
    intro fs fs' p p' e e' b b' h h' hs hb hb' htrue
    obtain ⟨-, hfound⟩ := exists?_eq_ok_iff.mp hb
    obtain ⟨hshort, hfound'⟩ := exists?_eq_ok_iff.mp hb'
    obtain ⟨x, hx⟩ := hfound.mp htrue
    obtain ⟨hget, hadm, -⟩ := (lookup_append_eq_ok_iff h hd).mp hx
    rw [hfound']
    -- otherwise the path would be too long, which is an error and no answer
    by_contra hno
    exact hshort (lookup_append_of_not_ok h' hd hadm (hs.isSome_get? (by rw [hget]; rfl))
      (not_exists.mp hno))
  exact Bool.eq_iff_iff.mpr ⟨hsub h h' hs hb hb', hsub h' h hs.symm hb' hb⟩

/-- Below folders that hold the same the same names lead to the same files. -/
theorem read_append_of_alike (h : fs.lookup p = .ok e) (h' : fs'.lookup p' = .ok e')
    (hs : e.Alike e') (hd : ".." ∉ names) {content' : List UInt8}
    (hr : fs.read (p.append names) = .ok content)
    (hr' : fs'.read (p'.append names) = .ok content') : content = content' := by
  have hget := ((lookup_append_eq_ok_iff h hd).mp (read_eq_ok_iff.mp hr)).1
  have hget' := ((lookup_append_eq_ok_iff h' hd).mp (read_eq_ok_iff.mp hr')).1
  have hboth := hs.get?_file hget
  rw [hget'] at hboth
  simpa using hboth.symm

lemma lookAtAll_eq_ok_iff {ps : List Path} :
    fs.lookAtAll ps = .ok () ↔ ∀ q ∈ ps, ∃ b, fs.isFile? q = .ok b := by
  induction ps with
  | nil => simp [lookAtAll]
  | cons q ps ih =>
    rw [lookAtAll, List.forall_mem_cons, ← ih]
    cases fs.isFile? q <;> simp [bind, Except.bind]

/-- The names in a folder that have an ending and are those of files, in order. -/
def fileNames (es : List (String × Entry)) (ending : String) : List String :=
  ((es.filter fun x => x.1.endsWith ending && !x.2.isFolder).map Prod.fst).mergeSort
    fun a b => a ≤ b

lemma mem_fileNames {ending : String} {es : List (String × Entry)} :
    n ∈ fileNames es ending ↔
      n.endsWith ending = true ∧ ∃ content, (n, .file content) ∈ es := by
  rw [fileNames, List.mem_mergeSort, List.mem_map]
  constructor
  · rintro ⟨⟨m, e⟩, hx, rfl⟩
    obtain ⟨hmem, hx⟩ := List.mem_filter.mp hx
    obtain ⟨hending, hfile⟩ := Bool.and_eq_true_iff.mp hx
    cases e with
    | file content => exact ⟨hending, content, hmem⟩
    | folder es => simp [isFolder] at hfile
  · rintro ⟨hending, content, hmem⟩
    exact ⟨(n, .file content), List.mem_filter.mpr ⟨hmem, by simp [hending, isFolder]⟩, rfl⟩

lemma sortedLE_fileNames (es : List (String × Entry)) (ending : String) :
    (fileNames es ending).SortedLE := List.sortedLE_mergeSort

/-- A folder has its files listed exactly if each entry with the ending can be looked at. -/
theorem filesEnding_eq_ok_iff {es : List (String × Entry)} {ending : String} {ps : List Path}
    (h : fs.lookup p = .ok (.folder es)) :
    fs.filesEnding p ending = .ok ps ↔
      (∀ x ∈ es, x.1.endsWith ending = true → ∃ b, fs.isFile? (p.append [x.1]) = .ok b) ∧
        ps = (fileNames es ending).map fun n => p.append [n] := by
  have hall : (∀ x ∈ es, x.1.endsWith ending = true → ∃ b, fs.isFile? (p.append [x.1]) = .ok b) ↔
      fs.lookAtAll ((es.filter (·.1.endsWith ending)).map fun e => p.append [e.1]) = .ok () := by
    simp only [lookAtAll_eq_ok_iff, List.forall_mem_map, List.mem_filter, and_imp]
  rw [hall, filesEnding, h]
  dsimp only
  cases fs.lookAtAll ((es.filter (·.1.endsWith ending)).map fun e => p.append [e.1]) with
  | error e => simp [bind, Except.bind]
  | ok u => simp [bind, Except.bind, pure, Except.pure, fileNames, eq_comm]

/-- Folders that hold the same under names that differ have the same files with an ending. -/
theorem filesEnding_of_alike {es es' : List (String × Entry)} (h : fs.lookup p = .ok (.folder es))
    (h' : fs'.lookup p' = .ok (.folder es')) (hs : (folder es).Alike (folder es'))
    (hn : (es.map Prod.fst).Nodup) (hn' : (es'.map Prod.fst).Nodup) {ending : String}
    {ps ps' : List Path} (hf : fs.filesEnding p ending = .ok ps)
    (hf' : fs'.filesEnding p' ending = .ok ps') :
    ∃ found : List String, (∀ n ∈ found, n.endsWith ending) ∧
      ps = (found.map fun n => p.append [n]) ∧ ps' = found.map fun n => p'.append [n] := by
  have hperm := hs.perm_filesEnding hn hn' ending
  have hsorted : fileNames es ending = fileNames es' ending :=
    ((List.mergeSort_perm _ _).trans (hperm.trans (List.mergeSort_perm _ _).symm)
      ).eq_of_sortedLE List.sortedLE_mergeSort List.sortedLE_mergeSort
  refine ⟨fileNames es ending, fun n hn => (mem_fileNames.mp hn).1,
    ((filesEnding_eq_ok_iff h).mp hf).2, ?_⟩
  rw [hsorted]
  exact ((filesEnding_eq_ok_iff h').mp hf').2

lemma lookup_put_append (h : fs.lookup p = .ok e)
    (hk : Keeps fs (fs.put (fs.placeOf p ++ (ns ++ [n])) x)) :
    (fs.put (fs.placeOf p ++ (ns ++ [n])) x).lookup p = .ok (e.modify (Entry.put n x) ns) := by
  obtain ⟨q, hq, hget⟩ := lookup_eq_ok_iff.mp h
  obtain rfl := eq_placeOf_of_locate hq
  refine lookup_eq_ok_iff.mpr ⟨_, hk.locate hq, ?_⟩
  rw [← List.append_assoc, put_concat]
  exact get?_modify_append hget

/-- A folder that is made below another one is new in its tree. -/
theorem makeFolder_append (h : fs.lookup p = .ok e) (hd : ".." ∉ ns ++ [n])
    (hm : fs.makeFolder (p.append (ns ++ [n])) = .ok fs') :
    e.get? (ns ++ [n]) = none ∧ fs'.lookup p = .ok (e.modify (Entry.put n (.folder [])) ns) := by
  obtain ⟨hnone, -, hkeeps, -⟩ := makeFolder_below hd hm
  obtain ⟨q, hq, -, rfl⟩ := makeFolder_eq_ok_iff.mp hm
  obtain ⟨rfl, -⟩ := locate_concat hq hd
  refine ⟨?_, lookup_put_append h hkeeps⟩
  obtain ⟨place, hplace, hget⟩ := lookup_eq_ok_iff.mp h
  obtain rfl := eq_placeOf_of_locate hplace
  rw [view_eq_none_iff, get?_append, hget] at hnone
  exact hnone

theorem write_append (h : fs.lookup p = .ok e) (hd : ".." ∉ ns ++ [n])
    (hw : fs.write (p.append (ns ++ [n])) content = .ok fs') :
    fs'.lookup p = .ok (e.modify (Entry.put n (.file content)) ns) := by
  obtain ⟨-, hkeeps, -⟩ := write_below hd hw
  obtain ⟨q, hq, -, rfl⟩ := write_eq_ok_iff.mp hw
  obtain ⟨rfl, -⟩ := locate_concat hq hd
  exact lookup_put_append h hkeeps

/-- A new folder leaves every entry as it is that neither holds it nor is it. -/
theorem lookup_of_makeFolder_apart (hn : p'.names ≠ []) (hm : fs.makeFolder p' = .ok fs')
    (h : fs.lookup p = .ok e) (hout : ¬ fs.placeOf p <+: fs.placeOf p') :
    fs'.lookup p = .ok e := by
  have hkeeps := (lookup_of_makeFolder hn hm).1
  obtain ⟨q, hq, hfree, rfl⟩ := makeFolder_eq_ok_iff.mp hm
  obtain rfl := eq_placeOf_of_locate hq
  obtain ⟨place, hplace, hget⟩ := lookup_eq_ok_iff.mp h
  obtain rfl := eq_placeOf_of_locate hplace
  obtain ⟨parent, n, hcat, -⟩ := exists_concat_of_locate hq hn hfree
  have hinto : ¬ fs.placeOf p' <+: fs.placeOf p := by
    rintro ⟨ms, hms⟩
    rw [← hms, get?_append, view_eq_none_iff.mp hfree] at hget
    simp at hget
  refine lookup_eq_ok_iff.mpr ⟨_, hkeeps.locate hplace, ?_⟩
  rw [hcat] at hinto hout ⊢
  rw [put_concat]
  exact (get?_put_of_apart hinto hout).trans hget

theorem read_of_makeFolder (hn : p'.names ≠ []) (hm : fs.makeFolder p' = .ok fs')
    (h : fs.read p = .ok content) : fs'.read p = .ok content := by
  have hkeeps := (lookup_of_makeFolder hn hm).1
  obtain ⟨q, hq, hfree, rfl⟩ := makeFolder_eq_ok_iff.mp hm
  obtain ⟨parent, n, rfl, hparent⟩ := exists_concat_of_locate hq hn hfree
  obtain ⟨place, hplace, hget⟩ := lookup_eq_ok_iff.mp (read_eq_ok_iff.mp h)
  have hview := view_eq_file_iff.mpr hget
  have hne : place ≠ parent ++ [n] := by
    rintro rfl
    rw [hfree] at hview
    cases hview
  have hnot : fs.view (parent ++ [n]) ≠ some .folder := by simp [hfree]
  have hsame := view_put hparent hnot (e := .folder []) (by simp [Entry.get?]) place
  rw [if_neg hne] at hsame
  refine read_eq_ok_iff.mpr (lookup_eq_ok_iff.mpr ⟨place, hkeeps.locate hplace, ?_⟩)
  exact view_eq_file_iff.mp (hsame.trans hview)

end FileSystem

end QuizPreflight
