import QuizPreflight.Package.Validation
import QuizPreflight.Proofs.Archive.Confinement

/-!
# Validations leave no trace

A validation makes a working area, may fill it and removes it on every way out, so the file
system is afterwards what it was before. Validations one after the other are then the same as
each of them alone.
-/
namespace QuizPreflight

open FileSystem

namespace Text

lemma mem_of_mem_splitOn {sep c : Char} {s : List Char} (hc : c ∈ s) (hne : c ≠ sep) :
    ∃ piece ∈ splitOn sep s, c ∈ piece := by
  induction s with
  | nil => simp at hc
  | cons d rest ih =>
    simp only [splitOn]
    by_cases hd : d = sep
    · rw [if_pos hd]
      have hrest : c ∈ rest := by
        rcases List.mem_cons.mp hc with rfl | h
        · exact absurd hd hne
        · exact h
      obtain ⟨piece, hp, hcp⟩ := ih hrest
      exact ⟨piece, List.mem_cons_of_mem _ hp, hcp⟩
    · rw [if_neg hd]
      cases hs : splitOn sep rest with
      | nil => exact absurd hs (splitOn_ne_nil sep rest)
      | cons first pieces =>
        rcases List.mem_cons.mp hc with rfl | h
        · exact ⟨c :: first, List.mem_cons_self, List.mem_cons_self⟩
        · obtain ⟨piece, hp, hcp⟩ := ih h
          rw [hs] at hp
          rcases List.mem_cons.mp hp with rfl | hp
          · exact ⟨d :: piece, List.mem_cons_self, List.mem_cons_of_mem _ hcp⟩
          · exact ⟨piece, List.mem_cons_of_mem _ hp, hcp⟩

end Text

/-- A character that is neither a slash nor a dot is part of a name. -/
lemma Path.namesOf_ne_nil {c : Char} {s : List Char} (hc : c ∈ s) (hs : c ≠ '/') (hd : c ≠ '.') :
    Path.namesOf s ≠ [] := by
  obtain ⟨piece, hp, hcp⟩ := Text.mem_of_mem_splitOn hc hs
  have hkept : piece ∈ (Text.splitOn '/' s).filter fun n => !n.isEmpty && n != ['.'] := by
    rw [List.mem_filter]
    refine ⟨hp, ?_⟩
    have hne : piece ≠ [] := List.ne_nil_of_mem hcp
    have hdot : piece ≠ ['.'] := by
      rintro rfl
      exact hd (List.mem_singleton.mp hcp)
    simp [hne, hdot]
  intro hnil
  have hmem := List.mem_map_of_mem (f := String.ofList) hkept
  rw [← Path.namesOf, hnil] at hmem
  exact absurd hmem List.not_mem_nil

namespace Package

/-- The name of a working area ends with a number. -/
lemma areaOf_names_ne_nil (settings : Settings) (fs : FileSystem) :
    (areaOf settings fs).names ≠ [] := by
  have hcandidate : ∀ n : Nat, ((Path.ofString (settings.areaName ++ toString n)).within
      (settings.workFolder.getD fs.temporary)).names ≠ [] := by
    intro n
    obtain ⟨c, hc⟩ := List.exists_mem_of_ne_nil _ (Nat.toDigits_ne_nil (n := n) (b := 10))
    have hdigit : c.isDigit := Nat.isDigit_of_mem_toDigits (by decide) (by decide) hc
    have hmem : c ∈ (settings.areaName ++ toString n).toList := by
      rw [String.toList_append, Nat.toString_eq_ofList_toDigits, String.toList_ofList]
      exact List.mem_append_right _ hc
    have hnames := Path.namesOf_ne_nil hmem (by rintro rfl; simp at hdigit)
      (by rintro rfl; simp at hdigit)
    unfold Path.within
    split
    · exact hnames
    · simp only [Path.append]
      exact List.append_ne_nil_of_right_ne_nil _ hnames
  unfold areaOf FileSystem.freshPath
  dsimp only
  cases hf : List.find? _ _ with
  | none => exact hcandidate 0
  | some area =>
    obtain ⟨n, -, rfl⟩ := List.mem_map.mp (List.mem_of_find?_eq_some hf)
    exact hcandidate n

/-- Whatever becomes of a package, only what is inside the working area has changed. -/
lemma inspect_differsBelow (settings : Settings) (strict : Bool) {fs : FileSystem} (p : Path)
    {area : Path} {entries : List (String × Entry)}
    (harea : fs.lookup area = .ok (.folder entries)) :
    Keeps fs (inspect settings strict fs p area).2 ∧
      DiffersBelow (fs.placeOf area) fs (inspect settings strict fs p area).2 := by
  have hsame : Keeps fs fs ∧ DiffersBelow (fs.placeOf area) fs fs :=
    ⟨Keeps.refl fs, DiffersBelow.refl _ fs⟩
  obtain ⟨all, written, -, -, hrun⟩ := Archive.extract_extraction p harea
  unfold inspect
  split
  · exact hsame
  · exact hsame
  · split
    · split
      · next files hx =>
        rw [hx] at hrun
        exact ⟨hrun.keeps, hrun.below⟩
      · next files f hx =>
        rw [hx] at hrun
        exact ⟨hrun.keeps, hrun.below⟩
    · split
      · exact hsame
      · exact hsame

lemma run_of_makeFolder {settings : Settings} {strict : Bool} {fs working : FileSystem} {p : Path}
    (hex : fs.exists? p = .ok true) (hm : fs.makeFolder (areaOf settings fs) = .ok working) :
    run settings strict fs p =
      ((inspect settings strict working p (areaOf settings fs)).1,
        (inspect settings strict working p (areaOf settings fs)).2.remove (areaOf settings fs)) := by
  unfold run
  rw [hex]
  dsimp only
  rw [hm]

/-- A validation leaves the file system as it was. -/
theorem run_files (settings : Settings) (strict : Bool) (fs : FileSystem) (p : Path) :
    (run settings strict fs p).2 = fs := by
  rcases hex : fs.exists? p with e | _ | _
  · rw [run, hex]
  · rw [run, hex]
  · rcases hm : fs.makeFolder (areaOf settings fs) with e | working
    · rw [run, hex]
      dsimp only
      rw [hm]
    · have hn := areaOf_names_ne_nil settings fs
      obtain ⟨hkeeps, hlookup⟩ := lookup_of_makeFolder hn hm
      -- a failed extraction also leaves its traces inside the area only
      obtain ⟨hk, hb⟩ := inspect_differsBelow settings strict p hlookup
      rw [hkeeps.placeOf] at hb
      rw [run_of_makeFolder hex hm]
      dsimp only
      rw [remove_of_makeFolder hn hm hk hb]

/-- What one validation is asked for. -/
structure Call where
  path : Path
  options : Option Options

namespace Validator

/-- Validations one after the other, each with the file system that it leaves. -/
def validateAll (v : Validator) (fs : FileSystem) : List Call → List (Report × FileSystem)
  | [] => []
  | c :: calls =>
    let (report, after) := v.validate fs c.path c.options
    (report, after) :: v.validateAll after calls

lemma validate_files (v : Validator) (fs : FileSystem) (p : Path) (options : Option Options) :
    (v.validate fs p options).2 = fs :=
  run_files v.settings (v.isStrict options) fs p

/-- After each of any number of validations the file system is as before the first, and each
report is the one that a validator of the same options and settings gives for its call alone. -/
theorem validateAll_eq_map (v : Validator) (fs : FileSystem) (calls : List Call) :
    v.validateAll fs calls = calls.map fun c =>
      ((validate ⟨v.options, v.settings⟩ fs c.path c.options).1, fs) := by
  obtain ⟨options, settings⟩ := v
  induction calls with
  | nil => rfl
  | cons c calls ih =>
    have hfiles := validate_files ⟨options, settings⟩ fs c.path c.options
    rw [validateAll, List.map_cons]
    generalize validate ⟨options, settings⟩ fs c.path c.options = done at hfiles ⊢
    obtain ⟨report, after⟩ := done
    obtain rfl : after = fs := hfiles
    exact congrArg _ ih

end Validator

end Package

end QuizPreflight
