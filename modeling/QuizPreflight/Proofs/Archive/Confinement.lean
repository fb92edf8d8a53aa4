import Mathlib.Algebra.GroupWithZero.Nat
import Mathlib.Algebra.Order.BigOperators.Group.List
import Mathlib.Algebra.Order.Group.Nat
import Mathlib.Data.List.Dedup
import QuizPreflight.Archive.Extract
import QuizPreflight.Proofs.Files.Change
import QuizPreflight.Proofs.Result

/-!
# Extraction stays below its destination

What an extraction has done at any point is an invariant: folders stay, nothing outside the
destination differs, and every file written holds content of a member of its own. The limits on
the number and the sizes of members carry over to the files that are written.
-/
namespace QuizPreflight.Archive

open FileSystem

variable {place : List String} {all : List Member} {before fs fs' : FileSystem}
  {written : List (List String)} {destination : Path} {entries : List (String × Entry)}
  {m : Member}

/-- What an extraction below a place has done: the files it wrote are those at some places, and
all other files are as before. -/
structure Extraction (place : List String) (all : List Member) (before after : FileSystem)
    (written : List (List String)) : Prop where
  keeps : Keeps before after
  below : DiffersBelow place before after
  filled : ∀ q ∈ written, ∃ m ∈ all, m.writtenNames ≠ [] ∧ q = place ++ m.writtenNames ∧
    ∃ content, after.view q = some (.file content) ∧ content.length ≤ m.size
  rest : ∀ q, q ∉ written → ∀ content,
    after.view q = some (.file content) ↔ before.view q = some (.file content)

namespace Extraction

theorem refl (place : List String) (all : List Member) (fs : FileSystem) :
    Extraction place all fs fs [] :=
  ⟨Keeps.refl fs, DiffersBelow.refl place fs, by simp, fun _ _ _ => Iff.rfl⟩

theorem makeFolder (h : Extraction (fs.placeOf destination) all before fs written)
    {ns : List String} {n : String} (hd : ".." ∉ ns ++ [n])
    (hm : fs.makeFolder ⟨destination.slashes, destination.names ++ (ns ++ [n])⟩ = .ok fs') :
    Extraction (fs.placeOf destination) all before fs' written := by
  obtain ⟨hnone, hview, hkeeps, hbelow⟩ := makeFolder_below hd hm
  have hsame : ∀ q content, fs'.view q = some (.file content) ↔
      fs.view q = some (.file content) := by
    intro q content
    rw [hview]
    split
    · next hq => simp [hq, hnone]
    · rfl
  refine ⟨h.keeps.trans hkeeps, h.below.trans hbelow, ?_, ?_⟩
  · intro q hq
    obtain ⟨m, hm, hne, hqm, content, hc, hle⟩ := h.filled q hq
    exact ⟨m, hm, hne, hqm, content, (hsame q content).mpr hc, hle⟩
  · intro q hq content
    rw [hsame]
    exact h.rest q hq content

theorem write (h : Extraction (fs.placeOf destination) all before fs written) {m : Member}
    (hmem : m ∈ all) {ns : List String} {n : String} (hnames : m.writtenNames = ns ++ [n])
    (hd : ".." ∉ ns ++ [n]) {content : List UInt8} (hle : content.length ≤ m.size)
    (hw : fs.write ⟨destination.slashes, destination.names ++ (ns ++ [n])⟩ content = .ok fs') :
    Extraction (fs.placeOf destination) all before fs'
      ((fs.placeOf destination ++ m.writtenNames) :: written) := by
  obtain ⟨hview, hkeeps, hbelow⟩ := write_below hd hw
  rw [← hnames] at hview
  refine ⟨h.keeps.trans hkeeps, h.below.trans hbelow, ?_, ?_⟩
  · intro q hq
    by_cases hqn : q = fs.placeOf destination ++ m.writtenNames
    · exact ⟨m, hmem, by simp [hnames], hqn, content, by rw [hview, if_pos hqn], hle⟩
    · obtain ⟨m', hm', hne, hqm, content', hc, hle'⟩ :=
        h.filled q ((List.mem_cons.mp hq).resolve_left hqn)
      exact ⟨m', hm', hne, hqm, content', by rw [hview, if_neg hqn]; exact hc, hle'⟩
  · intro q hq content'
    rw [List.mem_cons, not_or] at hq
    rw [hview, if_neg hq.1]
    exact h.rest q hq.2 content'

end Extraction

lemma makeParents_of_lookup {slashes : Nat} {names : List String} {e : Entry}
    (h : fs.lookup ⟨slashes, names⟩ = .ok e) :
    makeParents fs slashes names.reverse = (fs, none) := by
  cases hr : names.reverse with
  | nil => rfl
  | cons n above =>
    have hn : (n :: above).reverse = names := by rw [← hr, List.reverse_reverse]
    simp only [makeParents, hn, h]

/-- The folders above a member are made below the destination, which stands. -/
theorem Extraction.makeParents
    (h : Extraction (fs.placeOf destination) all before fs written)
    (hdest : fs.lookup destination = .ok (.folder entries)) {rs : List String}
    (hd : ".." ∉ rs) :
    Extraction (fs.placeOf destination) all before
      (makeParents fs destination.slashes (rs ++ destination.names.reverse)).1 written := by
  -- on the names below the destination: the recursion stops there at the latest
  induction rs with
  | nil =>
    rw [List.nil_append, makeParents_of_lookup hdest]
    exact h
  | cons n rs ih =>
    obtain ⟨hn, hrs⟩ : ".." ≠ n ∧ ".." ∉ rs := by simpa using hd
    have hi := ih hrs
    have hnames : (n :: (rs ++ destination.names.reverse)).reverse =
        destination.names ++ (rs.reverse ++ [n]) := by simp
    simp only [List.cons_append, Archive.makeParents, hnames]
    split
    · exact h
    · split
      · next fs₁ e he =>
        rw [he] at hi
        exact hi
      · next fs₁ he =>
        rw [he] at hi
        split
        · next fs₂ hm =>
          have hp : fs₁.placeOf destination = fs.placeOf destination := by
            rw [hi.keeps.placeOf, h.keeps.placeOf]
          rw [← hp] at hi ⊢
          exact hi.makeFolder (by simp [hrs, hn]) hm
        · exact hi

/-- The names of a member lead downwards, or there are none. -/
lemma Member.writtenNames_cases (m : Member) : m.writtenNames = [] ∨
    ∃ ns n, m.writtenNames = ns ++ [n] ∧ ".." ∉ ns ++ [n] ∧ ".." ∉ ns.reverse := by
  rcases List.eq_nil_or_concat m.writtenNames with hnil | ⟨ns, n, hcat⟩
  · exact Or.inl hnil
  rw [List.concat_eq_append] at hcat
  have hdots : ".." ∉ ns ++ [n] := by
    rw [← hcat]
    simp [Member.writtenNames]
  refine Or.inr ⟨ns, n, hcat, hdots, ?_⟩
  rw [List.mem_reverse]
  exact fun hn => hdots (List.mem_append_left _ hn)

lemma reverse_names_parent (destination : Path) (ns : List String) (n : String) :
    (destination.append (ns ++ [n])).parent.names.reverse =
      ns.reverse ++ destination.names.reverse := by
  rw [Path.parent, Path.append, ← List.append_assoc, List.dropLast_concat, List.reverse_append]

/-- A member without names that lead downwards changes nothing: its place is the destination. -/
lemma extractMember_of_nil (a : Bytes) (hdest : fs.lookup destination = .ok (.folder entries))
    (hm : m.writtenNames = []) : (extractMember a destination fs m).files = fs := by
  have hp : destination.append m.writtenNames = destination := by
    rw [hm]
    simp [Path.append]
  have hlast : destination.parent.names ++ destination.names.drop (destination.names.length - 1) =
      destination.names := by
    rw [Path.parent, List.dropLast_eq_take, List.take_append_drop]
  have hwhole : fs.lookup ⟨destination.parent.slashes, destination.parent.names ++
      destination.names.drop (destination.names.length - 1)⟩ = .ok (.folder entries) := by
    rw [hlast]
    exact hdest
  obtain ⟨e, he⟩ := lookup_of_append hwhole
  have hparents : makeParents fs destination.slashes destination.parent.names.reverse =
      (fs, none) := makeParents_of_lookup he
  have hfolder : lookupFolder fs destination = true := by
    simp [lookupFolder, hdest, Entry.isFolder]
  have hwrite : ∀ content, fs.write destination content = .error ⟨.isFolder, destination⟩ := by
    intro content
    obtain ⟨q, hq, hg⟩ := lookup_eq_ok_iff.mp hdest
    simp [FileSystem.write, hq, hg]
  simp only [extractMember, hp, hparents, hfolder, hwrite, if_true]
  split
  · rfl
  · split <;> rfl

/-- What one member adds: one file at most. -/
theorem Extraction.extractMember (a : Bytes)
    (h : Extraction (fs.placeOf destination) all before fs written)
    (hdest : fs.lookup destination = .ok (.folder entries)) (hmem : m ∈ all) :
    ∃ new, new.length ≤ 1 ∧ Extraction (fs.placeOf destination) all before
      (extractMember a destination fs m).files (new ++ written) := by
  rcases m.writtenNames_cases with hnil | ⟨ns, n, hcat, hdots, hns⟩
  · refine ⟨[], by simp, ?_⟩
    rw [extractMember_of_nil a hdest hnil]
    exact h
  have hmade := h.makeParents hdest hns
  have hslashes : (destination.append (ns ++ [n])).slashes = destination.slashes := rfl
  simp only [Archive.extractMember, hcat, reverse_names_parent, hslashes]
  split
  · next fs₁ e he =>
    rw [he] at hmade
    exact ⟨[], by simp, hmade⟩
  next fs₁ he =>
  rw [he] at hmade
  have hplace : fs₁.placeOf destination = fs.placeOf destination := by
    rw [hmade.keeps.placeOf, h.keeps.placeOf]
  rw [← hplace] at hmade ⊢
  split
  · refine ⟨[], by simp, ?_⟩
    split
    · exact hmade
    · split
      · next fs₂ hm => exact hmade.makeFolder hdots hm
      · exact hmade
  · split
    · exact ⟨[], by simp, hmade⟩
    · next stored hs =>
      split
      · exact ⟨[], by simp, hmade⟩
      · next fs₂ hw =>
        exact ⟨[_], by simp, hmade.write hmem hcat hdots (length_unpack_le m stored) hw⟩

lemma latest_mem {ms : List Member} (h : m ∈ ms) : latest ms m ∈ ms := by
  unfold latest
  cases hf : ms.reverse.find? (·.name == m.name) with
  | none => exact h
  | some m' => exact List.mem_reverse.mp (List.mem_of_find?_eq_some hf)

/-- What a run over members adds: one file for each member at most. -/
theorem Extraction.extractEach (a : Bytes)
    (h : Extraction (before.placeOf destination) all before fs written)
    (hdest : before.lookup destination = .ok (.folder entries)) {ms : List Member}
    (hms : ∀ m ∈ ms, m ∈ all) :
    ∃ new, new.length ≤ ms.length ∧ Extraction (before.placeOf destination) all before
      (extractEach a destination all fs ms).files (new ++ written) := by
  induction ms generalizing fs written with
  | nil => exact ⟨[], le_rfl, h⟩
  | cons m ms ih =>
    obtain ⟨es, hes⟩ := h.keeps.lookup_folder hdest
    have hmem := latest_mem (hms m List.mem_cons_self)
    rw [← h.keeps.placeOf] at h
    obtain ⟨new, hone, hstep⟩ := h.extractMember a hes hmem
    -- the invariant speaks of the destination as it was found before the run
    have hplace := h.keeps.placeOf destination
    rw [hplace] at hstep
    simp only [Archive.extractEach]
    split
    · next fs₁ hs =>
      rw [hs] at hstep
      obtain ⟨new', hlen, hrun⟩ := ih hstep fun m hm => hms m (List.mem_cons_of_mem _ hm)
      refine ⟨new' ++ new, ?_, by rw [List.append_assoc]; exact hrun⟩
      rw [List.length_append, List.length_cons]
      omega
    · refine ⟨new, ?_, hstep⟩
      rw [List.length_cons]
      omega

/-- The size of the file at a place; where there is none it is zero. -/
def sizeAt (fs : FileSystem) (q : List String) : Nat :=
  match fs.view q with
  | some (.file content) => content.length
  | _ => 0

lemma totalSize_eq_sum (ms : List Member) : totalSize ms = (ms.map Member.size).sum := by
  induction ms with
  | nil => rfl
  | cons m ms ih => rw [totalSize, List.foldr_cons, ← totalSize, ih, List.map_cons, List.sum_cons]

/-- Files of different places come from different members, so their sizes are bounded together. -/
theorem Extraction.sum_sizeAt_le (h : Extraction place all before fs written)
    (hnodup : written.Nodup) : (written.map (sizeAt fs)).sum ≤ totalSize all := by
  by_cases hnil : written = []
  · simp [hnil]
  obtain ⟨q₀, hq₀⟩ := List.exists_mem_of_ne_nil written hnil
  obtain ⟨m₀, -⟩ := h.filled q₀ hq₀
  have : Nonempty Member := ⟨m₀⟩
  have hsource : ∀ q ∈ written, ∃ m ∈ all, q = place ++ m.writtenNames ∧ sizeAt fs q ≤ m.size := by
    intro q hq
    obtain ⟨m, hm, -, hqm, content, hc, hle⟩ := h.filled q hq
    exact ⟨m, hm, hqm, by simpa [sizeAt, hc] using hle⟩
  choose! source hmem hnames hle using hsource
  have hmap : (written.map source).Nodup := by
    apply List.Nodup.map_on _ hnodup
    intro q hq r hr hqr
    rw [hnames q hq, hnames r hr, hqr]
  have hsub : written.map source ⊆ all := by
    intro m hm
    obtain ⟨q, hq, rfl⟩ := List.mem_map.mp hm
    exact hmem q hq
  calc (written.map (sizeAt fs)).sum
      ≤ (written.map (Member.size ∘ source)).sum := List.sum_le_sum hle
    _ = ((written.map source).map Member.size).sum := by rw [List.map_map]
    _ ≤ totalSize all := by
      obtain ⟨l, hperm, hsl⟩ := List.subperm_of_subset hmap hsub
      rw [totalSize_eq_sum, ← (hperm.map Member.size).sum_eq]
      exact (hsl.map Member.size).sum_le_sum (by simp)

lemma examine_eq_ok_iff {ms : List Member} : examine ms place = .ok () ↔
    ms.length ≤ maxMembers ∧ totalSize ms ≤ maxTotalSize ∧ ∀ m ∈ ms, m.staysBelow place := by
  unfold examine
  by_cases hcount : maxMembers < ms.length
  · simp [hcount, Nat.not_le_of_lt hcount]
  by_cases hsize : maxTotalSize < totalSize ms
  · simp [hcount, hsize, Nat.not_le_of_lt hsize]
  cases hf : ms.find? (!·.staysBelow place) with
  | some m =>
    have hm := List.mem_of_find?_eq_some hf
    have hb : m.staysBelow place = false := by simpa using List.find?_some hf
    simp only [hcount, hsize, if_false, reduceCtorEq, false_iff]
    rintro ⟨-, -, hall⟩
    simp [hall m hm] at hb
  | none =>
    have hall : ∀ m ∈ ms, m.staysBelow place := by simpa using List.find?_eq_none.mp hf
    simp only [hcount, hsize, if_false, true_iff]
    exact ⟨Nat.le_of_not_lt hcount, Nat.le_of_not_lt hsize, hall⟩

/-- An extraction stops before anything is written, or it is a run over members found fit. -/
lemma extract_cases (fs : FileSystem) (archive destination : Path) :
    (∃ f, extract fs archive destination = ⟨fs, some f⟩) ∨
      ∃ content ms, fs.read archive = .ok content ∧ readMembers content.toArray = .ok ms ∧
        examine ms (fs.placeOf destination) = .ok () ∧
        extract fs archive destination = extractEach content.toArray destination ms fs ms := by
  unfold extract FileSystem.placeOf
  cases hread : fs.read archive with
  | error e => exact Or.inl ⟨_, rfl⟩
  | ok content =>
    dsimp only
    cases hms : readMembers content.toArray with
    | error f => exact Or.inl ⟨_, rfl⟩
    | ok ms =>
      dsimp only
      cases hfit : examine ms (Path.normalise (fs.startOf destination) destination.names) with
      | error f => exact Or.inl ⟨_, rfl⟩
      | ok u => exact Or.inr ⟨content, ms, rfl, hms, hfit, rfl⟩

lemma extract_of_examine {archive : Path} {content : List UInt8} {ms : List Member}
    {f : ExtractFault} (hread : fs.read archive = .ok content)
    (hms : readMembers content.toArray = .ok ms)
    (hf : examine ms (fs.placeOf destination) = .error f) :
    extract fs archive destination = ⟨fs, some f⟩ := by
  simp only [FileSystem.placeOf] at hf
  simp [extract, hread, hms, hf]

/-- Every extraction into a folder is a run over members that were found fit, or none at all. -/
lemma extract_extraction (archive : Path) (hdest : fs.lookup destination = .ok (.folder entries)) :
    ∃ all written, written.length ≤ maxMembers ∧ totalSize all ≤ maxTotalSize ∧
      Extraction (fs.placeOf destination) all fs (extract fs archive destination).files
        written := by
  rcases extract_cases fs archive destination with ⟨f, hx⟩ | ⟨content, ms, -, -, hfit, hx⟩
  · rw [hx]
    exact ⟨[], [], Nat.zero_le _, Nat.zero_le _, Extraction.refl _ _ _⟩
  · obtain ⟨hcount, hsize, -⟩ := examine_eq_ok_iff.mp hfit
    obtain ⟨written, hlen, hrun⟩ := (Extraction.refl (fs.placeOf destination) ms fs).extractEach
      content.toArray hdest fun m hm => hm
    rw [List.append_nil, ← hx] at hrun
    exact ⟨ms, written, hlen.trans hcount, hsize, hrun⟩

/-- Extraction into a folder changes nothing but what is strictly below it and removes nothing;
the files it writes are bounded in number and in size; and nothing is written of an archive that
has too many members, members too large together, or one whose name leads out of the folder. -/
theorem extract_confined (archive : Path) (hdest : fs.lookup destination = .ok (.folder entries)) :
    (∀ q, ¬ (fs.placeOf destination <+: q ∧ fs.placeOf destination ≠ q) →
      (extract fs archive destination).files.view q = fs.view q) ∧
    (∀ q, (fs.view q).isSome → ((extract fs archive destination).files.view q).isSome) ∧
    (∃ written : List (List String), written.Nodup ∧
      (∀ q ∈ written, fs.placeOf destination <+: q ∧ fs.placeOf destination ≠ q) ∧
      (∀ q content, q ∉ written →
        (extract fs archive destination).files.view q = some (.file content) →
        fs.view q = some (.file content)) ∧
      written.length ≤ maxMembers ∧
      (written.map (sizeAt (extract fs archive destination).files)).sum ≤ maxTotalSize) ∧
    ∀ content ms, fs.read archive = .ok content → readMembers content.toArray = .ok ms →
      (maxMembers < ms.length ∨ maxTotalSize < totalSize ms ∨
        ∃ m ∈ ms, ¬ fs.placeOf destination <+: m.target (fs.placeOf destination)) →
      (extract fs archive destination).files = fs ∧
        (extract fs archive destination).fault.isSome := by
  obtain ⟨all, written, hlen, hsize, hrun⟩ := extract_extraction archive hdest
  refine ⟨fun q hq => hrun.below.view hq, ?_,
    ⟨written.dedup, List.nodup_dedup _, ?_, ?_, ?_, ?_⟩, ?_⟩
  · intro q hq
    obtain ⟨node, hnode⟩ := Option.isSome_iff_exists.mp hq
    cases node with
    | folder => simp [hrun.keeps.folders q hnode]
    | file content =>
      by_cases hw : q ∈ written
      · obtain ⟨m, -, -, -, content', hc, -⟩ := hrun.filled q hw
        simp [hc]
      · simp [(hrun.rest q hw content).mpr hnode]
  · intro q hq
    obtain ⟨m, -, hne, rfl, -⟩ := hrun.filled q (List.mem_dedup.mp hq)
    exact ⟨List.prefix_append _ _, by simpa using hne⟩
  · intro q content hq hc
    exact (hrun.rest q (fun h => hq (List.mem_dedup.mpr h)) content).mp hc
  · exact (List.dedup_sublist written).length_le.trans hlen
  · have hdedup : Extraction (fs.placeOf destination) all fs
        (extract fs archive destination).files written.dedup :=
      ⟨hrun.keeps, hrun.below, fun q hq => hrun.filled q (List.mem_dedup.mp hq),
        fun q hq => hrun.rest q fun h => hq (List.mem_dedup.mpr h)⟩
    exact (hdedup.sum_sizeAt_le (List.nodup_dedup _)).trans hsize
  · intro content ms hread hms hunfit
    cases hx : examine ms (fs.placeOf destination) with
    | error f =>
      rw [extract_of_examine hread hms hx]
      exact ⟨rfl, rfl⟩
    | ok u =>
      obtain ⟨hcount, htotal, hstay⟩ := examine_eq_ok_iff.mp hx
      rcases hunfit with h | h | ⟨m, hm, hout⟩
      · omega
      · omega
      · exact absurd (List.isPrefixOf_iff_prefix.mp (hstay m hm)) hout

/-- An archive whose only member leads out of the folder it is extracted into. -/
def strayArchive : List UInt8 :=
  [80, 75, 1, 2, 20, 0, 20, 0, 0, 0, 0, 0, 0, 0, 33, 0, 0, 0, 0, 0, 0, 0, 0, 0, 0, 0, 0, 0, 4, 0, 0,
   0, 0, 0, 0, 0, 0, 0, 0, 0, 0, 0, 0, 0, 0, 0, 46, 46, 47, 120, 80, 75, 5, 6, 0, 0, 0, 0, 1, 0, 1, 0,
   50, 0, 0, 0, 0, 0, 0, 0, 0, 0]

def strayMember : Member := ⟨['.', '.', '/', 'x'], 0, 0, 0, 0, 0, 0, 0, 0⟩

def strayFiles : FileSystem :=
  ⟨.folder [("a.zip", .file strayArchive), ("out", .folder [])], [], ⟨1, ["tmp"]⟩⟩

theorem extract_stray : strayFiles.lookup ⟨0, ["out"]⟩ = .ok (.folder []) ∧
    (extract strayFiles ⟨0, ["a.zip"]⟩ ⟨0, ["out"]⟩).files = strayFiles := by
  have hdest : strayFiles.lookup ⟨0, ["out"]⟩ = .ok (.folder []) := rfl
  have hms : readMembers strayArchive.toArray = .ok [strayMember] :=
    eq_ok_of_toOption (by decide +kernel)
  have hout : ¬ strayFiles.placeOf ⟨0, ["out"]⟩ <+:
      strayMember.target (strayFiles.placeOf ⟨0, ["out"]⟩) := by decide +kernel
  refine ⟨hdest, ?_⟩
  exact ((extract_confined ⟨0, ["a.zip"]⟩ hdest).2.2.2 strayArchive [strayMember] rfl hms
    (Or.inr (Or.inr ⟨strayMember, List.mem_singleton_self _, hout⟩))).1

end QuizPreflight.Archive
