import QuizPreflight.Proofs.Archive.Unpacking
import QuizPreflight.Proofs.Package.Inspection
import QuizPreflight.Proofs.Package.Mirror

/-!
# Archives and folders are validated alike

An archive is validated in a working area and a folder where it stands. The report tells neither
from the other: it depends on what the package holds alone, as long as the validation comes to
its end.
-/
namespace QuizPreflight.Package

open FileSystem

/-- The validation was not ended before its end. -/
def Report.Complete (r : Report) : Prop := ∀ text : String, s!"Validation Error: {text}" ∉ r.errors

variable {settings : Settings} {strict : Bool} {fs : FileSystem} {p : Path}
  {entries : List (String × Entry)}

lemma not_complete_of_interruption (findings : List Finding) (i : Interruption) :
    ¬ (Outcome.checked findings (some i)).report.Complete := by
  intro h
  apply h i.message
  simp [Outcome.report, Report.error]

lemma result_of_complete {c : Check Unit} (h : (Outcome.ofCheck c).report.Complete) :
    c.result = .ok () := by
  unfold Outcome.ofCheck at h
  split at h
  · next hr => exact hr
  · exact absurd h (not_complete_of_interruption _ _)

/-- Checks that agree make for the same report, if it is complete. -/
theorem report_ofCheck_of_agree {c c' : Check Unit} (h : c.Agree c')
    (hc : (Outcome.ofCheck c).report.Complete) (hc' : (Outcome.ofCheck c').report.Complete) :
    (Outcome.ofCheck c).report = (Outcome.ofCheck c').report := by
  have hr := result_of_complete hc
  have hr' := result_of_complete hc'
  obtain ⟨hfindings, -⟩ := h () () hr hr'
  simp only [Outcome.ofCheck, hr, hr', hfindings]

lemma makeFolder_of_complete (hex : fs.exists? p = .ok true)
    (hc : (run settings strict fs p).1.report.Complete) :
    ∃ working, fs.makeFolder (areaOf settings fs) = .ok working := by
  cases hm : fs.makeFolder (areaOf settings fs) with
  | ok working => exact ⟨working, rfl⟩
  | error e =>
    simp only [run, hex, hm] at hc
    exact absurd hc (not_complete_of_interruption _ _)

/-- A folder is checked where it stands, in a file system with a working area elsewhere. -/
lemma run_folder (h : fs.lookup p = .ok (.folder entries))
    (hout : ¬ fs.placeOf p <+: fs.placeOf (areaOf settings fs))
    (hc : (run settings strict fs p).1.report.Complete) :
    ∃ working : FileSystem, working.lookup p = .ok (.folder entries) ∧
      (run settings strict fs p).1 =
        .ofCheck (checkSite ⟨working, p⟩ strict settings.manifestName) := by
  have hex : fs.exists? p = .ok true := test_of_lookup h _
  obtain ⟨working, hm⟩ := makeFolder_of_complete hex hc
  have hlookup := lookup_of_makeFolder_apart (areaOf_names_ne_nil settings fs) hm h hout
  have hfolder : working.isFolder? p = .ok true := test_of_lookup hlookup _
  exact ⟨working, hlookup, run_of_inspects (.folder hex hm hfolder) strict⟩

/-- An archive is extracted into the working area and checked there. -/
lemma run_archive {content : List UInt8} (hname : isArchiveName p = true)
    (hread : fs.read p = .ok content)
    (hroom : ∀ working, fs.makeFolder (areaOf settings fs) = .ok working →
      (Archive.extract working p (areaOf settings fs)).fault = none)
    (hc : (run settings strict fs p).1.report.Complete) :
    ∃ (extracted : FileSystem) (area : Path),
      extracted.lookup area = .ok (Archive.treeOf content) ∧
      (run settings strict fs p).1 =
        .ofCheck (checkSite ⟨extracted, area⟩ strict settings.manifestName) := by
  have hex : fs.exists? p = .ok true := test_of_lookup (read_eq_ok_iff.mp hread) _
  obtain ⟨working, hm⟩ := makeFolder_of_complete hex hc
  have hn := areaOf_names_ne_nil settings fs
  have hread' := read_of_makeFolder hn hm hread
  obtain ⟨extracted, hx⟩ : ∃ files, Archive.extract working p (areaOf settings fs) =
      ⟨files, none⟩ := ⟨_, by rw [← hroom working hm]⟩
  obtain ⟨content', hread'', htree⟩ := Archive.extract_treeOf (lookup_of_makeFolder hn hm).2 hx
  obtain rfl : content = content' := Except.ok.inj (hread'.symm.trans hread'')
  have hfile : working.isFile? p = .ok true := test_of_lookup (read_eq_ok_iff.mp hread') _
  exact ⟨extracted, areaOf settings fs, htree,
    run_of_inspects (.archive hex hm hfile hname hx) strict⟩

/-- An archive that is extracted into an empty folder, as into the working area, gives the report
of every folder that holds what was extracted, under whatever path and in whatever order it is
listed: if both validations come to their end, no reference leads upwards, and no working area is
made inside the folder. The archive may be a copy, and the folder in another file system. -/
theorem validate_archive_eq_validate_folder (v : Validator) (options : Option Options)
    {fs fs' source extracted : FileSystem} {p archive target folder : Path} {tree : Entry}
    {entries : List (String × Entry)}
    (hname : isArchiveName p = true)
    (hcopy : source.read archive = fs.read p)
    (hempty : source.lookup target = .ok (.folder []))
    (hextract : Archive.extract source archive target = ⟨extracted, none⟩)
    (htree : extracted.lookup target = .ok tree)
    (hroom : ∀ working, fs.makeFolder (areaOf v.settings fs) = .ok working →
      (Archive.extract working p (areaOf v.settings fs)).fault = none)
    (hfolder : fs'.lookup folder = .ok (.folder entries))
    (hholds : tree.Alike (.folder entries))
    (hdistinct : (entries.map Prod.fst).Nodup)
    (houtside : ¬ fs'.placeOf folder <+: fs'.placeOf (areaOf v.settings fs'))
    (hinward : RefersInward (.folder entries))
    (hrelative : (Path.ofString v.settings.manifestName).isAbsolute = false)
    (hbelow : ".." ∉ (Path.ofString v.settings.manifestName).names)
    (hcomplete : (v.validate fs p options).1.Complete)
    (hcomplete' : (v.validate fs' folder options).1.Complete) :
    (v.validate fs p options).1 = (v.validate fs' folder options).1 := by
  rw [v.validate_report] at hcomplete hcomplete' ⊢
  rw [v.validate_report]
  obtain ⟨content, hread, hcontent⟩ := Archive.extract_treeOf hempty hextract
  obtain rfl : tree = Archive.treeOf content := Except.ok.inj (htree.symm.trans hcontent)
  rw [hcopy] at hread
  obtain ⟨after, area, harea, hrun⟩ := run_archive hname hread hroom hcomplete
  obtain ⟨working, hworking, hrun'⟩ := run_folder hfolder houtside hcomplete'
  obtain ⟨es, hes⟩ := Entry.eq_folder_of_isFolder (Archive.isFolder_treeOf content)
  have hnodup : (es.map Prod.fst).Nodup :=
    Archive.distinct_treeOf content [] es (by rw [hes]; simp)
  rw [hes] at harea hholds
  have hmirrors : Mirrors ⟨working, folder⟩ ⟨after, area⟩ entries es :=
    ⟨hworking, harea, hholds.symm, hdistinct, hnodup, hinward⟩
  have hagree := checkSite_agree hmirrors hrelative hbelow (v.isStrict options)
  rw [hrun] at hcomplete ⊢
  rw [hrun'] at hcomplete' ⊢
  exact (report_ofCheck_of_agree hagree hcomplete' hcomplete).symm

/-- A manifest that refers to one file. -/
def bareManifest : List UInt8 :=
  [60, 109, 97, 110, 105, 102, 101, 115, 116, 32, 104, 114, 101, 102, 61, 34, 97, 34, 47, 62]

/-- An archive that holds the bare manifest as it is. -/
def bareArchive : List UInt8 :=
  [80, 75, 3, 4, 20, 0, 0, 0, 0, 0, 0, 0, 33, 0, 150, 103, 139, 110, 20, 0, 0, 0, 20, 0, 0, 0, 15, 0,
   0, 0, 105, 109, 115, 109, 97, 110, 105, 102, 101, 115, 116, 46, 120, 109, 108, 60, 109, 97, 110,
   105, 102, 101, 115, 116, 32, 104, 114, 101, 102, 61, 34, 97, 34, 47, 62, 80, 75, 1, 2, 20, 3, 20,
   0, 0, 0, 0, 0, 0, 0, 33, 0, 150, 103, 139, 110, 20, 0, 0, 0, 20, 0, 0, 0, 15, 0, 0, 0, 0, 0, 0, 0,
   0, 0, 0, 0, 128, 1, 0, 0, 0, 0, 105, 109, 115, 109, 97, 110, 105, 102, 101, 115, 116, 46, 120, 109,
   108, 80, 75, 5, 6, 0, 0, 0, 0, 1, 0, 1, 0, 61, 0, 0, 0, 65, 0, 0, 0, 0, 0]

def bareMember : Archive.Member :=
  ⟨"imsmanifest.xml".toList, 0, 0, 1854629782, 20, 20, 25165824, 0, 65⟩

/-- The archive, with an empty folder beside it. -/
def packedFiles : FileSystem :=
  ⟨.folder [("a.zip", .file bareArchive), ("out", .folder []), ("tmp", .folder [])], [],
    ⟨1, ["tmp"]⟩⟩

/-- A folder with what the archive holds. -/
def unpackedFiles : FileSystem :=
  ⟨.folder [("tmp", .folder []), ("b", .folder [("imsmanifest.xml", .file bareManifest)])], [],
    ⟨1, ["tmp"]⟩⟩

lemma treeOf_bareArchive :
    Archive.treeOf bareArchive = .folder [("imsmanifest.xml", .file bareManifest)] := by
  have hms : Archive.readMembers bareArchive.toArray = .ok [bareMember] :=
    eq_ok_of_toOption (by decide +kernel)
  have hcontent : bareMember.content bareArchive.toArray = bareManifest := by decide +kernel
  have hnames : bareMember.writtenNames = ["imsmanifest.xml"] := by decide +kernel
  have hlatest : Archive.latest [bareMember] bareMember = bareMember := by decide +kernel
  have hfile : bareMember.isFolder = false := by decide +kernel
  simp [Archive.treeOf, hms, Archive.growAll, hlatest, Archive.Member.grow, hnames, hfile, hcontent,
    Archive.growFolders, Entry.put]

lemma refersInward_bareManifest :
    RefersInward (.folder [("imsmanifest.xml", .file bareManifest)]) := by
  have hdoc : (documentOf bareManifest).toOption.map (fun root => hrefs root ++ images root) =
      some ["a"] := by decide +kernel
  have hone : LeadsInward "a" := by
    unfold LeadsInward
    decide +kernel
  intro names content root hget hroot
  rcases names with _ | ⟨n, names⟩
  · simp at hget
  rw [Entry.get?_folder_cons] at hget
  by_cases hn : n = "imsmanifest.xml"
  · rcases names with _ | ⟨m, names⟩
    · obtain rfl : bareManifest = content := by simpa [hn] using hget
      rw [hroot] at hdoc
      have hall : hrefs root ++ images root = ["a"] := Option.some.inj hdoc
      intro href hmem
      rw [hall] at hmem
      obtain rfl := List.mem_singleton.mp hmem
      exact hone
    · simp [hn] at hget
  · have hbeq : (n == "imsmanifest.xml") = false := by simpa using hn
    simp [List.lookup_cons, hbeq] at hget

lemma Report.complete_of_errors_nil {r : Report} (h : r.errors = []) : r.Complete := by
  intro text hmem
  rw [h] at hmem
  exact absurd hmem List.not_mem_nil

theorem validate_bare :
    (Validator.validate ⟨Options.inherit, Settings.default⟩ packedFiles ⟨0, ["a.zip"]⟩ none).1 =
      (Validator.validate ⟨Options.inherit, Settings.default⟩ unpackedFiles ⟨0, ["b"]⟩ none).1 := by
  have hempty : packedFiles.lookup ⟨0, ["out"]⟩ = .ok (.folder []) := rfl
  have hfault : (Archive.extract packedFiles ⟨0, ["a.zip"]⟩ ⟨0, ["out"]⟩).fault.isNone := by
    decide +kernel
  obtain ⟨extracted, hextract⟩ : ∃ files, Archive.extract packedFiles ⟨0, ["a.zip"]⟩ ⟨0, ["out"]⟩ =
      ⟨files, none⟩ := ⟨_, by rw [← Option.isNone_iff_eq_none.mp hfault]⟩
  obtain ⟨content, hread, htree⟩ := Archive.extract_treeOf hempty hextract
  obtain rfl : bareArchive = content := Except.ok.inj hread
  rw [treeOf_bareArchive] at htree
  refine validate_archive_eq_validate_folder ⟨Options.inherit, Settings.default⟩ none rfl rfl
    hempty hextract htree ?room rfl (Entry.Alike.refl _) (by simp) ?outside
    refersInward_bareManifest rfl (by decide +kernel) ?zip ?folder
  case room =>
    intro working hm
    obtain rfl : packedFiles.put ["tmp", "qti-validate-0"] (.folder []) = working :=
      Except.ok.inj hm
    have hfits : (Archive.extract (packedFiles.put ["tmp", "qti-validate-0"] (.folder []))
        ⟨0, ["a.zip"]⟩ (areaOf Settings.default packedFiles)).fault.isNone := by decide +kernel
    exact Option.isNone_iff_eq_none.mp hfits
  case outside => decide +kernel
  case zip => exact Report.complete_of_errors_nil (by decide +kernel)
  case folder => exact Report.complete_of_errors_nil (by decide +kernel)

end QuizPreflight.Package
