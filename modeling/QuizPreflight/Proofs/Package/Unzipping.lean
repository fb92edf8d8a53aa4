import QuizPreflight.Proofs.Archive.Defect
import QuizPreflight.Proofs.Package.Inspection
import QuizPreflight.Proofs.Package.Verdict

/-!
# Archives that are validated

An archive is extracted in full and checked, or it is rejected with one error. Which of the errors
that is depends on how the extraction ends: only a defect in a name or in compressed data is met
unexpectedly.
-/
namespace QuizPreflight.Package

open Archive FileSystem Text

variable {settings : Settings} {fs working : FileSystem} {p : Path} {content : List UInt8}

/-- How a validation goes on from the end of an extraction. -/
lemma run_of_extract (hname : isArchiveName p = true) (hread : fs.read p = .ok content)
    (hroom : fs.makeFolder (areaOf settings fs) = .ok working) (strict : Bool) :
    (run settings strict fs p).1 =
      match (extract working p (areaOf settings fs)).fault with
      | none => .ofCheck (checkSite ⟨(extract working p (areaOf settings fs)).files,
          areaOf settings fs⟩ strict settings.manifestName)
      | some f => if f.isExpected then .rejected .notExtracted else .interrupted (.archive f) := by
  have hread' := read_of_makeFolder (areaOf_names_ne_nil settings fs) hroom hread
  have hpresent : fs.exists? p = .ok true := test_of_lookup (read_eq_ok_iff.mp hread) _
  have hfile : working.isFile? p = .ok true := test_of_lookup (read_eq_ok_iff.mp hread') _
  rw [run_of_makeFolder hpresent hroom]
  simp only [inspect, hfile, isFolder?_of_isFile? hfile, hname, Bool.and_self, if_true]
  generalize extract working p (areaOf settings fs) = x
  obtain ⟨files, _ | f⟩ := x <;> dsimp only

/-- An archive of one member, whose name is marked as Unicode and is none. -/
def misnamedArchive : List UInt8 :=
  [80, 75, 1, 2, 20, 0, 20, 0, 0, 8, 0, 0, 0, 0, 33, 0, 0, 0, 0, 0, 0, 0, 0, 0, 0, 0, 0, 0, 1, 0, 0,
   0, 0, 0, 0, 0, 0, 0, 0, 0, 0, 0, 0, 0, 0, 0, 255, 80, 75, 5, 6, 0, 0, 0, 0, 1, 0, 1, 0, 47, 0, 0,
   0, 0, 0, 0, 0, 0, 0]

def misnamedFiles : FileSystem :=
  ⟨.folder [("a.zip", .file misnamedArchive), ("tmp", .folder [])], [], ⟨1, ["tmp"]⟩⟩

lemma readMembers_misnamed : readMembers misnamedArchive.toArray =
    .error (.nameEncoding ⟨.start, 255, 0, 1⟩) := by
  have hend : readEnd misnamedArchive.toArray = .ok ⟨47, 47, 0⟩ :=
    eq_ok_of_toOption (by decide +kernel)
  refine readMembers_of_readEntry hend le_rfl (by decide)
    (readEntry_of_name (by decide) (by decide +kernel) ?_)
  have hdecode : Utf8.decode [255] = .error ⟨.start, 255, 0, 1⟩ := by
    simp [Utf8.decode, Utf8.decodeFrom, Utf8.front]
  have hname : slice misnamedArchive.toArray 46 1 = [255] := by decide +kernel
  have hflag : (numberAt misnamedArchive.toArray 8 2).testBit unicodeFlag = true := by
    decide +kernel
  exact decodeName_of_flag hflag (hname ▸ hdecode)

end QuizPreflight.Package
