import QuizPreflight.Proofs.Archive.Unpacking

/-!
# Defects that are met unexpectedly

An extraction ends in a fault by which an archive is known to be unusable, or it trips over one of
a few defects in the bytes of the archive: a header that no file has a place for, a name that is no
text, compressed data that is corrupt, or data that the archive ends before.
-/
namespace QuizPreflight.Archive

open QuizPreflight.Text

/-- A name that is marked as Unicode and is not encoded as it is marked. -/
def Misnamed (flags : Nat) (bytes : List UInt8) (f : Fault) : Prop :=
  flags.testBit unicodeFlag = true ∧ ∃ u, Utf8.decode bytes = .error u ∧ f = .nameEncoding u

/-- A defect in an entry of a directory or in a member, by the fault it comes up as. -/
inductive Defect (a : Bytes) : Fault → Prop
  | entryName {start size : Nat} {f : Fault} (hmark : slice a start 4 = directoryMark)
      (h : Misnamed (numberAt a (start + 8) 2) (slice a (start + entrySize) size) f) : Defect a f
  | misplaced {ms : List Member} {m : Member} (hms : readMembers a = .ok ms) (hm : m ∈ ms)
      (h : m.header < -2 ^ 63 ∨ 2 ^ 63 ≤ m.header) : Defect a .offsetRange
  | headerName {ms : List Member} {m : Member} {f : Fault} (hms : readMembers a = .ok ms)
      (hm : m ∈ ms)
      (h : Misnamed (numberAt a (m.header.toNat + 6) 2) (slice a (m.header.toNat + headerSize)
        (numberAt a (m.header.toNat + 26) 2)) f) : Defect a f
  | deflated {ms : List Member} {m : Member} {s : Stored} {c : Corruption}
      (hms : readMembers a = .ok ms) (hm : m ∈ ms) (hs : m.stored a = .ok s)
      (hmethod : m.method = deflateMethod) (h : (inflate s.data).2 = some (.corrupt c)) :
      Defect a (.corrupt c)
  | rangeCoded {ms : List Member} {m : Member} {s : Stored} {f : Lzma.Fault}
      (hms : readMembers a = .ok ms) (hm : m ∈ ms) (hs : m.stored a = .ok s)
      (hmethod : m.method = lzmaMethod)
      (h : Lzma.unpack s.data = .error f ∨
        f = .corrupt ∧ ∃ out, Lzma.unpack s.data = .ok (out, some .invalid)) :
      Defect a (.rangeCode f)
  | cutOff {ms : List Member} {m : Member} {s : Stored} (hms : readMembers a = .ok ms)
      (hm : m ∈ ms) (hs : m.stored a = .ok s) (hcut : s.isCut = true) : Defect a .cutOff

/-- A result whose faults are expected ones or of a given kind. -/
abbrev Expects {α : Type} (P : Fault → Prop) (r : Except Fault α) : Prop :=
  FaultsIn (fun f => f.isExpected = true ∨ P f) r

namespace Expects

variable {α β : Type} {P : Fault → Prop} {r : Except Fault α} {g : α → Except Fault β} {a : Bytes}

lemma pure (x : α) : Expects P (.ok x) := .ok x

lemma bind (hr : Expects P r) (hg : ∀ x, Expects P (g x)) : Expects P (r >>= g) :=
  FaultsIn.bind hr fun x _ => hg x

lemma expected {f : Fault} (h : f.isExpected = true) : Expects P (.error f : Except Fault α) :=
  .error (.inl h)

lemma ite {c : Prop} [Decidable c] {r' : Except Fault α} (hr : Expects P r) (hr' : Expects P r') :
    Expects P (if c then r else r') := FaultsIn.ite hr hr'

lemma checked {c : Prop} [Decidable c] {f : Fault} (h : f.isExpected = true)
    (hr : ¬ c → Expects P r) : Expects P (if c then do throw f; r else r) :=
  FaultsIn.checked (fun _ => .inl h) hr

lemma decodeName (flags : Nat) (bytes : List UInt8) :
    Expects (Misnamed flags bytes) (decodeName flags bytes) := by
  unfold Archive.decodeName
  split
  · next hflag =>
    intro f h
    cases hd : Utf8.decode bytes with
    | ok name =>
      rw [hd] at h
      cases h
    | error u =>
      rw [hd] at h
      cases h
      exact .inr ⟨hflag, u, hd, rfl⟩
  · exact pure _

lemma takeLong (field : String) (data : List UInt8) : Expects P (takeLong field data) :=
  ite (expected rfl) (pure _)

lemma enlarge (m : Member) (data : List UInt8) : Expects P (m.enlarge data) := by
  unfold Member.enlarge
  dsimp only
  have hheader (x : Member × List UInt8) := ite (c := x.1.header = fullWord)
    (bind (takeLong (P := P) "Header offset" x.2) fun y => pure { x.1 with header := y.1 })
    (pure x.1)
  have hstored (x : Member × List UInt8) := ite (c := x.1.storedSize = fullWord)
    (bind (takeLong (P := P) "Compress size" x.2) fun y =>
      bind (pure ({ x.1 with storedSize := y.1 }, y.2)) hheader) (bind (pure x) hheader)
  exact ite (bind (takeLong _ _) fun _ => bind (pure _) hstored) (bind (pure _) hstored)

lemma readExtra (fuel : Nat) (m : Member) (extra : List UInt8) :
    Expects P (m.readExtra fuel extra) := by
  induction fuel generalizing m extra with
  | zero => exact pure m
  | succ fuel ih =>
    rw [Member.readExtra]
    exact ite (pure m) (ite (expected rfl)
      (ite (bind (enlarge _ _) fun m => ih m _) (bind (pure m) fun m => ih m _)))

lemma readEntry (start stop : Nat) : Expects (Defect a) (readEntry a start stop) := by
  unfold Archive.readEntry
  dsimp only
  refine checked rfl fun _ => checked rfl fun hmark => ?_
  have hmark : slice a start 4 = directoryMark := by simpa using hmark
  refine bind ?_ fun _ => checked rfl fun _ => bind (readExtra _ _ _) fun _ => pure _
  exact (decodeName _ _).mono fun f hf => hf.imp_right (.entryName hmark)

lemma readEntries (stop fuel start : Nat) : Expects (Defect a) (readEntries a stop fuel start) := by
  induction fuel generalizing start with
  | zero => exact pure _
  | succ fuel ih =>
    exact ite (pure _) (bind (readEntry start stop) fun _ => bind (ih _) fun _ => pure _)

lemma readEnd (a : Bytes) : Expects P (readEnd a) := by
  unfold Archive.readEnd
  split
  · exact expected rfl
  · exact ite (pure _) (ite (pure _) (ite (expected rfl) (ite (expected rfl)
      (ite (pure _) (pure _)))))

lemma readMembers (a : Bytes) : Expects (Defect a) (readMembers a) := by
  unfold Archive.readMembers
  refine bind (readEnd a) fun record => checked rfl fun _ => ?_
  exact bind (readEntries _ _ _) fun _ => pure _

/-! ### Members -/

variable {m : Member} {ms : List Member} {s : Stored}

lemma stored (hms : Archive.readMembers a = .ok ms) (hm : m ∈ ms) :
    Expects (Defect a) (m.stored a) := by
  unfold Member.stored
  dsimp only
  refine FaultsIn.checked (fun hplace => .inr (.misplaced hms hm ?_)) fun _ => ?_
  · simp only [isOffset, Bool.not_eq_true', Bool.and_eq_false_iff, decide_eq_false_iff_not] at hplace
    omega
  refine checked rfl fun _ => checked rfl fun _ => checked rfl fun _ => checked rfl fun _ =>
    checked rfl fun _ => bind ?_ fun _ => ?_
  · exact (decodeName _ _).mono fun f hf => hf.imp_right (.headerName hms hm)
  · exact checked rfl fun _ => checked rfl fun _ => checked rfl fun _ => checked rfl fun _ => pure _

end Expects

section Entries

lemma decodeName_of_flag {flags : Nat} {bytes : List UInt8} {u : Utf8.Fault}
    (hflag : flags.testBit unicodeFlag = true) (h : Utf8.decode bytes = .error u) :
    decodeName flags bytes = .error (.nameEncoding u) := by
  rw [decodeName, if_pos hflag, h]
  rfl

/-- An entry whose name cannot be read gives the fault of its name. -/
lemma readEntry_of_name {a : Bytes} {start stop : Nat} {f : Fault}
    (hsize : start + entrySize ≤ stop) (hmark : slice a start 4 = directoryMark)
    (h : decodeName (numberAt a (start + 8) 2) (slice a (start + entrySize)
      (min (numberAt a (start + 28) 2) (stop - (start + entrySize)))) = .error f) :
    readEntry a start stop = .error f := by
  unfold readEntry
  dsimp only
  rw [if_neg (Nat.not_lt.mpr hsize), if_neg (by simp [hmark]), h]
  rfl

/-- The fault of the first entry is that of the archive. -/
lemma readMembers_of_readEntry {a : Bytes} {record : EndRecord} {f : Fault}
    (hend : readEnd a = .ok record) (hstart : record.size ≤ record.stop) (hpos : 0 < record.size)
    (h : readEntry a (record.stop - record.size) record.stop = .error f) :
    readMembers a = .error f := by
  have hmore : ¬ record.stop ≤ record.stop - record.size := by omega
  have hentries : readEntries a record.stop (record.size + 1) (record.stop - record.size) =
      .error f := by
    rw [readEntries, if_neg hmore, h]
    rfl
  unfold readMembers
  rw [hend]
  dsimp only [bind, Except.bind]
  rw [if_neg (Nat.not_lt.mpr hstart), hentries]

end Entries

section Unpacked

variable {a : Bytes} {m : Member} {ms : List Member} {s : Stored} {f : Fault}

lemma ok_of_checked {α : Type} {c : Prop} [Decidable c] {r : Except Fault α} {x : α}
    (h : (if c then do throw f; r else r) = .ok x) : ¬ c ∧ r = .ok x := by
  split at h
  · obtain ⟨_, hthrow, -⟩ := bind_eq_ok_iff.mp h
    cases hthrow
  · next hc => exact ⟨hc, h⟩

lemma method_of_stored (hs : m.stored a = .ok s) :
    m.method ∈ [storedMethod, deflateMethod, bzipMethod, lzmaMethod] := by
  unfold Member.stored at hs
  dsimp only at hs
  obtain ⟨-, hs⟩ := ok_of_checked hs
  obtain ⟨-, hs⟩ := ok_of_checked hs
  obtain ⟨-, hs⟩ := ok_of_checked hs
  obtain ⟨-, hs⟩ := ok_of_checked hs
  obtain ⟨-, hs⟩ := ok_of_checked hs
  obtain ⟨-, hs⟩ := ok_of_checked hs
  obtain ⟨_, -, hs⟩ := bind_eq_ok_iff.mp hs
  obtain ⟨-, hs⟩ := ok_of_checked hs
  obtain ⟨-, hs⟩ := ok_of_checked hs
  obtain ⟨-, hs⟩ := ok_of_checked hs
  obtain ⟨hmethod, -⟩ := ok_of_checked hs
  rw [Bool.not_eq_true', Bool.not_eq_false, List.contains_iff_mem] at hmethod
  exact hmethod

lemma isExpected_of_verify {content : List UInt8} (h : (m.verify content).fault = some f) :
    f.isExpected = true := by
  unfold Member.verify at h
  split at h
  · cases h
  · cases h
    rfl

/-- What data that is unpacked in one go is written with ends at the end of the archive or at a
wrong checksum. -/
lemma fault_of_accept {isCut isEnded : Bool} {out : List UInt8}
    (h : (m.accept isCut isEnded out).fault = some f) :
    f.isExpected = true ∨ isCut = true ∧ f = .cutOff := by
  unfold Member.accept at h
  split at h
  · next hcut =>
    cases h
    simp only [Bool.and_eq_true] at hcut
    exact .inr ⟨hcut.1.1, rfl⟩
  · dsimp only at h
    split at h
    · exact .inl (isExpected_of_verify h)
    · exact .inl (isExpected_of_verify h)

lemma defect_of_copy (hms : readMembers a = .ok ms) (hm : m ∈ ms) (hs : m.stored a = .ok s)
    (h : (m.copy s).fault = some f) : f.isExpected = true ∨ Defect a f := by
  unfold Member.copy at h
  split at h
  · next hcut =>
    obtain rfl : Fault.cutOff = f := Option.some.inj h
    exact .inr (.cutOff hms hm hs (Bool.and_eq_true_iff.mp hcut).1)
  · exact .inl (isExpected_of_verify h)

lemma defect_of_expand (hms : readMembers a = .ok ms) (hm : m ∈ ms) (hs : m.stored a = .ok s)
    (hmethod : m.method = deflateMethod) (h : (m.expand s).fault = some f) :
    f.isExpected = true ∨ Defect a f := by
  unfold Member.expand at h
  rcases hinflate : inflate s.data with ⟨out, _ | _ | c⟩
  · rw [hinflate] at h
    exact .inl (isExpected_of_verify h)
  · rw [hinflate] at h
    dsimp only at h
    split at h
    · next hcut =>
      obtain rfl : Fault.cutOff = f := Option.some.inj h
      exact .inr (.cutOff hms hm hs (Bool.and_eq_true_iff.mp hcut).1)
    · exact .inl (isExpected_of_verify h)
  · rw [hinflate] at h
    dsimp only at h
    split at h
    · obtain rfl : Fault.corrupt c = f := Option.some.inj h
      exact .inr (.deflated hms hm hs hmethod (by rw [hinflate]))
    · exact .inl (isExpected_of_verify h)

lemma defect_of_unsort (hms : readMembers a = .ok ms) (hm : m ∈ ms) (hs : m.stored a = .ok s)
    (h : (m.unsort s).fault = some f) : f.isExpected = true ∨ Defect a f := by
  unfold Member.unsort at h
  split at h
  · next hcut =>
    cases h
    exact .inr (.cutOff hms hm hs (Bool.and_eq_true_iff.mp hcut).1)
  · split at h
    · cases h
      exact .inl rfl
    · rcases fault_of_accept h with hf | ⟨hcut, rfl⟩
      · exact .inl hf
      · exact .inr (.cutOff hms hm hs hcut)

lemma defect_of_decode (hms : readMembers a = .ok ms) (hm : m ∈ ms) (hs : m.stored a = .ok s)
    (hmethod : m.method = lzmaMethod) (h : (m.decode s).fault = some f) :
    f.isExpected = true ∨ Defect a f := by
  unfold Member.decode at h
  split at h
  · next hcut =>
    cases h
    exact .inr (.cutOff hms hm hs (Bool.and_eq_true_iff.mp hcut).1)
  · split at h
    · next hunpack =>
      cases h
      exact .inr (.rangeCoded hms hm hs hmethod (.inl hunpack))
    · next out hunpack =>
      cases h
      exact .inr (.rangeCoded hms hm hs hmethod (.inr ⟨rfl, out, hunpack⟩))
    · rcases fault_of_accept h with hf | ⟨hcut, rfl⟩
      · exact .inl hf
      · exact .inr (.cutOff hms hm hs hcut)

/-- The writing of a member ends in an expected fault or at a defect. -/
theorem defect_of_unpack (hms : readMembers a = .ok ms) (hm : m ∈ ms) (hs : m.stored a = .ok s)
    (h : (m.unpack s).fault = some f) : f.isExpected = true ∨ Defect a f := by
  unfold Member.unpack at h
  split at h
  · exact defect_of_copy hms hm hs h
  · next hstored =>
    split at h
    · exact defect_of_unsort hms hm hs h
    · next hbzip =>
      split at h
      · next hlzma => exact defect_of_decode hms hm hs hlzma h
      · next hlzma =>
        have hmethod : m.method = deflateMethod := by
          simpa [hstored, hbzip, hlzma] using method_of_stored hs
        exact defect_of_expand hms hm hs hmethod h

end Unpacked

/-! ### Whole archives -/

section Archives

variable {fs : FileSystem} {archive destination : Path} {content : List UInt8} {a : Bytes}
  {all ms : List Member} {m : Member} {f : ExtractFault}

/-- A fault of an extraction that is an expected one or comes from a defect of the archive. -/
def Explained (a : Bytes) (f : ExtractFault) : Prop :=
  f.isExpected = true ∨ ∃ g, f = .archive g ∧ Defect a g

/-- A member that is there in full: a folder, or a file that is unpacked to its end. -/
def Member.Intact (a : Bytes) (m : Member) : Prop :=
  m.isFolder = true ∨ ∃ s, m.stored a = .ok s ∧ (m.unpack s).fault = none

lemma explained_of_archive {g : Fault} (h : g.isExpected = true ∨ Defect a g) :
    Explained a (.archive g) := h.imp_right fun hg => ⟨g, rfl, hg⟩

lemma explained_of_extractMember (hms : readMembers a = .ok all) (hm : m ∈ all)
    (h : (extractMember a destination fs m).fault = some f) : Explained a f := by
  unfold extractMember at h
  dsimp only at h
  split at h
  · cases h
    exact .inl rfl
  split at h
  · split at h
    · cases h
    · split at h
      · cases h
      · cases h
        exact .inl rfl
  · split at h
    · next g hg =>
      cases h
      exact explained_of_archive (Expects.stored hms hm g hg)
    · next s hs =>
      split at h
      · cases h
        exact .inl rfl
      · obtain ⟨g, hg, rfl⟩ := Option.map_eq_some_iff.mp h
        exact explained_of_archive (defect_of_unpack hms hm hs hg)

lemma intact_of_extractMember (h : (extractMember a destination fs m).fault = none) :
    m.Intact a := by
  unfold extractMember at h
  dsimp only at h
  split at h
  · cases h
  split at h
  · next hfolder => exact .inl hfolder
  · split at h
    · cases h
    · next s hs =>
      split at h
      · cases h
      · exact .inr ⟨s, hs, Option.map_eq_none_iff.mp h⟩

lemma explained_of_extractEach (hms : readMembers a = .ok all) (hsub : ∀ m ∈ ms, m ∈ all)
    (h : (extractEach a destination all fs ms).fault = some f) : Explained a f := by
  induction ms generalizing fs with
  | nil => cases h
  | cons m ms ih =>
    obtain ⟨hm, hrest⟩ := List.forall_mem_cons.mp hsub
    rw [extractEach] at h
    split at h
    · exact ih hrest h
    · exact explained_of_extractMember hms (latest_mem hm) h

lemma intact_of_extractEach (h : (extractEach a destination all fs ms).fault = none) :
    ∀ m ∈ ms, (latest all m).Intact a := by
  induction ms generalizing fs with
  | nil => simp
  | cons m ms ih =>
    rw [extractEach] at h
    split at h
    · next fs₁ hstep =>
      have hnone : (extractMember a destination fs (latest all m)).fault = none := by rw [hstep]
      exact List.forall_mem_cons.mpr ⟨intact_of_extractMember hnone, ih h⟩
    · next hstop =>
      exact absurd (congrArg (Progress.mk _) h) (hstop _)

lemma isExpected_of_examine {place : List String} (h : examine ms place = .error f) :
    f.isExpected = true := by
  unfold examine at h
  split at h
  · cases h
    rfl
  split at h
  · cases h
    rfl
  · split at h
    · cases h
      rfl
    · cases h

/-- An extraction that is not brought to its end has met an expected fault or a defect. -/
theorem explained_of_extract (hread : fs.read archive = .ok content)
    (h : (extract fs archive destination).fault = some f) : Explained content.toArray f := by
  unfold extract at h
  rw [hread] at h
  dsimp only at h
  split at h
  · next g hg =>
    cases h
    exact explained_of_archive (Expects.readMembers content.toArray g hg)
  · next ms hms =>
    split at h
    · next g hexamine =>
      cases h
      exact .inl (isExpected_of_examine hexamine)
    · exact explained_of_extractEach hms (fun _ hm => hm) h

/-- An extraction that is brought to its end has found every member intact. -/
theorem intact_of_extract (h : (extract fs archive destination).fault = none) :
    ∃ content ms, fs.read archive = .ok content ∧ readMembers content.toArray = .ok ms ∧
      ∀ m ∈ ms, (latest ms m).Intact content.toArray := by
  rcases extract_cases fs archive destination with ⟨f, hx⟩ | ⟨content, ms, hread, hms, -, hx⟩
  · rw [hx] at h
    cases h
  · rw [hx] at h
    exact ⟨content, ms, hread, hms, intact_of_extractEach h⟩

end Archives

end QuizPreflight.Archive
