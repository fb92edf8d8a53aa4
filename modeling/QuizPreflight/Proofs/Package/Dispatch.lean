import QuizPreflight.Proofs.Package.Mirror
import QuizPreflight.Proofs.Package.Strictness

/-!
# The document that decides

The first legacy document of a package, by the names of its files, decides the report alone: no
other file of the package is told by it. Only a package without one is checked by its manifest.
Both hold for packages whose documents can be looked at; a path may be too long for that.
-/
namespace QuizPreflight.Package

open FileSystem Markup Text

/-- A name in a folder stands for a legacy document with some content. -/
structure IsLegacy (entries : List (String × Entry)) (name : String) (content : List UInt8) :
    Prop where
  present : (name, .file content) ∈ entries
  named : name.endsWith ".xml" = true
  parses : ∃ root, documentOf content = .ok root ∧ root.tag = Legacy.rootTag

/-- The legacy document whose name comes before those of all others. -/
structure IsFirstLegacy (entries : List (String × Entry)) (name : String)
    (content : List UInt8) : Prop where
  legacy : IsLegacy entries name content
  least : ∀ other content', IsLegacy entries other content' → name ≤ other

/-- A package with its entries under proper names, in which no path to a possible document is too
long to be looked at. -/
structure Listable (site : Site) (entries : List (String × Entry)) : Prop where
  holds : site.files.lookup site.root = .ok (.folder entries)
  distinct : (entries.map Prod.fst).Nodup
  admissible : Path.Admissible (entries.map Prod.fst)
  short : ∀ n ∈ entries.map Prod.fst, n.endsWith ".xml" = true →
    (site.root.append [n]).toString.utf8ByteSize ≤ maxPathBytes

variable {site : Site} {entries : List (String × Entry)} {name n : String} {content : List UInt8}

lemma firstLegacy?_of_legacy {p : Path} {root : Element}
    (h : site.readDocument p = .ok (.ok root)) (htag : root.tag = Legacy.rootTag)
    (ps : List Path) : firstLegacy? site (p :: ps) = .ok (some root) := by
  rw [firstLegacy?, h]
  simp [bind, Except.bind, pure, Except.pure, htag]

lemma firstLegacy?_of_not_legacy {p : Path} {d : Except DocumentFault Element}
    (h : site.readDocument p = .ok d) (hd : ∀ root, d = .ok root → root.tag ≠ Legacy.rootTag)
    (ps : List Path) : firstLegacy? site (p :: ps) = firstLegacy? site ps := by
  rw [firstLegacy?, h]
  cases d with
  | error f => rfl
  | ok root => simp [bind, Except.bind, hd root rfl]

namespace Listable

lemma lookup_of_mem (h : Listable site entries) {e : Entry} (hmem : (n, e) ∈ entries)
    (hxml : n.endsWith ".xml" = true) : site.files.lookup (site.root.append [n]) = .ok e := by
  have hn : n ∈ entries.map Prod.fst := List.mem_map_of_mem hmem
  have hd : ".." ∉ [n] := by
    intro hm
    obtain rfl := List.mem_singleton.mp hm
    revert hxml
    decide
  refine (lookup_append_eq_ok_iff h.holds hd).mpr ⟨?_, ?_, h.short n hn hxml⟩
  · rw [Entry.get?_folder_cons, Entry.lookup_of_mem h.distinct hmem]
    simp
  · intro m hm
    obtain rfl := List.mem_singleton.mp hm
    exact h.admissible m hn

lemma filesEnding_eq (h : Listable site entries) : site.files.filesEnding site.root ".xml" =
    .ok ((fileNames entries ".xml").map fun n => site.root.append [n]) := by
  refine (filesEnding_eq_ok_iff h.holds).mpr ⟨?_, rfl⟩
  rintro ⟨n, e⟩ hmem hxml
  exact ⟨_, test_of_lookup (h.lookup_of_mem hmem hxml) _⟩

/-- Each of the listed files is read, whether or not it holds a document. -/
lemma readDocument_eq (h : Listable site entries) (hn : n ∈ fileNames entries ".xml") :
    ∃ content, (n, .file content) ∈ entries ∧
      site.readDocument (site.root.append [n]) = .ok (documentOf content) := by
  obtain ⟨hxml, content, hmem⟩ := mem_fileNames.mp hn
  refine ⟨content, hmem, readDocument_eq_ok_iff.mpr ⟨content, ?_, rfl⟩⟩
  exact read_eq_ok_iff.mpr (h.lookup_of_mem hmem hxml)

/-- Files without a legacy document are passed over, broken or not. -/
lemma firstLegacy?_skip (h : Listable site entries) {names : List String}
    (hnames : ∀ n ∈ names, n ∈ fileNames entries ".xml" ∧ ∀ content, ¬IsLegacy entries n content)
    (rest : List Path) :
    firstLegacy? site (names.map (fun n => site.root.append [n]) ++ rest) =
      firstLegacy? site rest := by
  induction names with
  | nil => rfl
  | cons n names ih =>
    obtain ⟨⟨hn, hnot⟩, hrest⟩ := List.forall_mem_cons.mp hnames
    obtain ⟨content, hmem, hread⟩ := h.readDocument_eq hn
    have htag : ∀ root, documentOf content = .ok root → root.tag ≠ Legacy.rootTag :=
      fun root hdoc heq => hnot content ⟨hmem, (mem_fileNames.mp hn).1, root, hdoc, heq⟩
    rw [List.map_cons, List.cons_append, firstLegacy?_of_not_legacy hread htag, ih hrest]

theorem legacyDocument?_of_first (h : Listable site entries)
    (hf : IsFirstLegacy entries name content) :
    ∃ root, documentOf content = .ok root ∧ site.legacyDocument? = .ok (some root) := by
  obtain ⟨⟨hmem, hxml, root, hdoc, htag⟩, hleast⟩ := hf
  have hname : name ∈ fileNames entries ".xml" := mem_fileNames.mpr ⟨hxml, content, hmem⟩
  obtain ⟨before, after, hsplit, hnot⟩ := List.eq_append_cons_of_mem hname
  have hsorted := (sortedLE_fileNames entries ".xml").pairwise
  rw [hsplit, List.pairwise_append] at hsorted
  -- a legacy document before it in order would not come after it by name
  have hbefore : ∀ n ∈ before, n ∈ fileNames entries ".xml" ∧
      ∀ content, ¬IsLegacy entries n content := by
    intro n hn
    refine ⟨hsplit ▸ List.mem_append_left _ hn, fun content' hlegacy => ?_⟩
    have hle : n ≤ name := hsorted.2.2 n hn name List.mem_cons_self
    obtain rfl : n = name := le_antisymm hle (hleast n content' hlegacy)
    exact hnot hn
  have hread : site.readDocument (site.root.append [name]) = .ok (documentOf content) :=
    readDocument_eq_ok_iff.mpr ⟨content, read_eq_ok_iff.mpr (h.lookup_of_mem hmem hxml), rfl⟩
  refine ⟨root, hdoc, bind_eq_ok_iff.mpr ⟨_, h.filesEnding_eq, ?_⟩⟩
  rw [hdoc] at hread
  rw [hsplit, List.map_append, h.firstLegacy?_skip hbefore, List.map_cons]
  exact firstLegacy?_of_legacy hread htag _

theorem legacyDocument?_of_none (h : Listable site entries)
    (hno : ∀ n content, ¬IsLegacy entries n content) : site.legacyDocument? = .ok none := by
  refine bind_eq_ok_iff.mpr ⟨_, h.filesEnding_eq, ?_⟩
  rw [← List.append_nil (List.map _ _),
    h.firstLegacy?_skip fun n hn => ⟨hn, hno n⟩]
  rfl

end Listable

/-! ### The report -/

variable {v : Validator} {fs : FileSystem} {p : Path} (options : Option Options)

/-- The report on a legacy document. -/
def legacyReport (strict : Bool) (root : Element) : Report :=
  (Outcome.checked (Legacy.findings strict root) none).report

lemma report_of_first (hsite : Inspects v.settings fs p site) (h : Listable site entries)
    (hf : IsFirstLegacy entries name content) :
    ∃ root, documentOf content = .ok root ∧
      (v.validate fs p options).1 = legacyReport (v.isStrict options) root := by
  obtain ⟨root, hdoc, hroot⟩ := h.legacyDocument?_of_first hf
  refine ⟨root, hdoc, ?_⟩
  rw [v.validate_report, run_of_inspects hsite, checkSite_of_legacy hroot]
  rfl

/-- A folder that holds one legacy document alone. -/
lemma isFirstLegacy_alone {entries' : List (String × Entry)} (hf : IsLegacy entries name content)
    (h : entries' = [(name, .file content)]) : IsFirstLegacy entries' name content := by
  subst h
  refine ⟨⟨List.mem_singleton.mpr rfl, hf.named, hf.parses⟩, fun other content' hother => ?_⟩
  have heq := List.mem_singleton.mp hother.present
  exact le_of_eq (congrArg Prod.fst heq).symm

/-- Without a legacy document a package is checked by its manifest, if there is one. -/
lemma report_of_no_legacy (hsite : Inspects v.settings fs p site) (h : Listable site entries)
    (hno : ∀ n content, ¬IsLegacy entries n content) :
    let manifest := site.manifestPath v.settings.manifestName
    let report := (v.validate fs p options).1
    (site.files.exists? manifest = .ok true →
      report = (Outcome.ofCheck (Manifest.check site manifest)).report) ∧
    (site.files.exists? manifest = .ok false → report = unmanifested v.settings.manifestName) ∧
    (∀ e, site.files.exists? manifest = .error e →
      report = (Outcome.interrupted (.file e)).report) := by
  intro manifest report
  have hnone := h.legacyDocument?_of_none hno
  have hreport : report =
      (Outcome.ofCheck (checkSite site (v.isStrict options) v.settings.manifestName)).report := by
    rw [← run_of_inspects hsite]
    exact v.validate_report fs p options
  rw [hreport]
  refine ⟨fun hm => ?_, fun hm => ?_, fun e hm => ?_⟩
  · rw [checkSite_of_manifest hnone hm]
  · rw [checkSite_of_no_manifest hnone hm]
    rfl
  · rw [checkSite_of_unreadable hnone hm]
    rfl

/-- Two packages of which the first legacy documents have the same content get the same report
under the same strictness, whatever else they hold, and the same as that document alone. Without
a legacy document the manifest decides, and that there is none is the only error; a manifest that
cannot be looked at ends the validation. -/
theorem validate_isolated {v v' : Validator} {fs fs' : FileSystem} {p p' : Path}
    {options options' : Option Options} {site site' : Site}
    {entries entries' : List (String × Entry)}
    (hstrict : v.isStrict options = v'.isStrict options')
    (hsite : Inspects v.settings fs p site) (hsite' : Inspects v'.settings fs' p' site')
    (h : Listable site entries) (h' : Listable site' entries') :
    (∀ name name' content, IsFirstLegacy entries name content →
      IsFirstLegacy entries' name' content →
        (v.validate fs p options).1 = (v'.validate fs' p' options').1) ∧
    (∀ name content, IsFirstLegacy entries name content → entries' = [(name, .file content)] →
      (v.validate fs p options).1 = (v'.validate fs' p' options').1) ∧
    ((∀ name content, ¬IsLegacy entries name content) →
      let manifest := site.manifestPath v.settings.manifestName
      (site.files.exists? manifest = .ok true → (v.validate fs p options).1 =
        (Outcome.ofCheck (Manifest.check site manifest)).report) ∧
      (site.files.exists? manifest = .ok false → (v.validate fs p options).1 =
        unmanifested v.settings.manifestName) ∧
      (∀ e, site.files.exists? manifest = .error e → (v.validate fs p options).1 =
        (Outcome.interrupted (.file e)).report)) := by
  have hboth : ∀ name name' content, IsFirstLegacy entries name content →
      IsFirstLegacy entries' name' content →
        (v.validate fs p options).1 = (v'.validate fs' p' options').1 := by
    intro name name' content hf hf'
    obtain ⟨root, hdoc, hreport⟩ := report_of_first options hsite h hf
    obtain ⟨root', hdoc', hreport'⟩ := report_of_first options' hsite' h' hf'
    obtain rfl : root = root' := Except.ok.inj (hdoc.symm.trans hdoc')
    rw [hreport, hreport', hstrict]
  refine ⟨hboth, ?_, report_of_no_legacy options hsite h⟩
  intro name content hf halone
  exact hboth name name content hf (isFirstLegacy_alone hf.legacy halone)

/-! ### Paths that are too long -/

lemma not_listed_of_long {entries : List (String × Entry)}
    (hholds : site.files.lookup site.root = .ok (.folder entries))
    (hmem : n ∈ entries.map Prod.fst) (hxml : n.endsWith ".xml" = true)
    (hlong : site.files.lookup (site.root.append [n]) = .error .nameTooLong) :
    ∃ e, site.legacyDocument? = .error e := by
  cases hl : site.legacyDocument? with
  | error e => exact ⟨e, rfl⟩
  | ok root =>
    obtain ⟨ps, hps, -⟩ := bind_eq_ok_iff.mp hl
    obtain ⟨x, hx, rfl⟩ := List.mem_map.mp hmem
    obtain ⟨b, hb⟩ := ((filesEnding_eq_ok_iff hholds).mp hps).1 x hx hxml
    rw [isFile?, test_of_long hlong] at hb
    cases hb

/-- One path that is too long ends the validation of a package before any check. -/
theorem report_of_long (hsite : Inspects v.settings fs p site)
    (hholds : site.files.lookup site.root = .ok (.folder entries))
    (hmem : n ∈ entries.map Prod.fst) (hxml : n.endsWith ".xml" = true)
    (hlong : site.files.lookup (site.root.append [n]) = .error .nameTooLong) :
    ∃ e, (v.validate fs p options).1 = (Outcome.interrupted (.file e)).report := by
  obtain ⟨e, he⟩ := not_listed_of_long hholds hmem hxml hlong
  refine ⟨e, ?_⟩
  rw [v.validate_report, run_of_inspects hsite, checkSite_of_unlisted he]
  rfl

lemma endsWith_iff (s t : String) : s.endsWith t = true ↔ t.toList <:+ s.toList := by
  rw [← String.endsWith_toSlice, String.Slice.endsWith_string_iff, String.copy_toSlice]

lemma interrupted_errors (i : Interruption) :
    (Outcome.interrupted i).report.errors = [s!"Validation Error: {i.message}"] := rfl

lemma validationError_ne (text : String) {c d : Char} {entry : String} (h : Opens c d entry)
    (hne : [c, d] ≠ ['V', 'a']) : s!"Validation Error: {text}" ≠ entry := by
  rintro rfl
  have hbegins : beginsWith s!"Validation Error: {text}" "Validation Error: " = true :=
    beginsWith_append _ _
  rw [h.beginsWith_eq_false (.ofList _ _ _) hne] at hbegins
  cases hbegins

lemma utf8ByteSize_intercalate (ns : List String) (h : ns ≠ []) :
    ("/".intercalate ns).utf8ByteSize + 1 = (ns.map (·.utf8ByteSize + 1)).sum := by
  have hslash : "/".utf8ByteSize = 1 := rfl
  induction ns with
  | nil => exact absurd rfl h
  | cons n ns ih =>
    cases ns with
    | nil => simp
    | cons m ns =>
      have hrest := ih (by simp)
      rw [List.map_cons, List.sum_cons, ← hrest, String.intercalate_cons_cons,
        String.utf8ByteSize_append, String.utf8ByteSize_append, hslash]
      omega

lemma enterAll_replicate {fs : FileSystem} {place ns : List String}
    (h : fs.enterAll place ns = .ok place) (k : Nat) :
    fs.enterAll place (List.replicate k ns).flatten = .ok place := by
  induction k with
  | zero => rfl
  | succ k ih =>
    rw [List.replicate_succ, List.flatten_cons]
    exact enterAll_append_eq_ok_iff.mpr ⟨place, h, ih⟩

/-! ### A package under paths of any length -/

/-- A legacy document without an assessment. -/
def bareDocument : List UInt8 :=
  [60, 113, 117, 101, 115, 116, 101, 115, 116, 105, 110, 116, 101, 114, 111, 112, 47, 62]

def loneEntries : List (String × Entry) := [("b.xml", .file bareDocument)]

/-- The document between a file that is none and a broken manifest. -/
def crowdedEntries : List (String × Entry) :=
  [("imsmanifest.xml", .file [60]), ("b.xml", .file bareDocument), ("a.xml", .file [120])]

lemma parses_bareDocument :
    ∃ root, documentOf bareDocument = .ok root ∧ root.tag = Legacy.rootTag ∧
      (legacyReport false root).errors = ["QTI 1.2: Missing <assessment> element"] := by
  have hread : (documentOf bareDocument).toOption.map (fun root =>
      (root.tag, (legacyReport false root).errors)) =
        some (Legacy.rootTag, ["QTI 1.2: Missing <assessment> element"]) := by decide +kernel
  obtain ⟨root, hdoc, hparts⟩ := exists_of_toOption_map hread
  obtain ⟨htag, herrors⟩ := Prod.mk.inj hparts
  exact ⟨root, hdoc, htag, herrors⟩

lemma isLegacy_bareDocument {entries : List (String × Entry)}
    (h : ("b.xml", .file bareDocument) ∈ entries) : IsLegacy entries "b.xml" bareDocument := by
  obtain ⟨root, hdoc, htag, -⟩ := parses_bareDocument
  exact ⟨h, (endsWith_iff _ _).mpr (by decide), root, hdoc, htag⟩

lemma isFirstLegacy_loneEntries : IsFirstLegacy loneEntries "b.xml" bareDocument :=
  isFirstLegacy_alone (isLegacy_bareDocument (List.mem_singleton.mpr rfl)) rfl

lemma isFirstLegacy_crowdedEntries : IsFirstLegacy crowdedEntries "b.xml" bareDocument := by
  refine ⟨isLegacy_bareDocument (by simp [crowdedEntries]), ?_⟩
  rintro other content ⟨hmem, -, root, hdoc, -⟩
  have hbroken : (documentOf [120]).toOption.isNone = true := by decide +kernel
  simp only [crowdedEntries, List.mem_cons, Prod.mk.injEq, Entry.file.injEq, List.not_mem_nil,
    or_false] at hmem
  rcases hmem with ⟨rfl, -⟩ | ⟨rfl, -⟩ | ⟨rfl, rfl⟩
  · decide
  · exact le_refl _
  · simp [hdoc, Except.toOption] at hbroken

/-- As long as a name may be. -/
def sideName : String := String.ofList (List.replicate 255 'd')

def packageName : String := String.ofList (List.replicate 200 'q')

/-- A path that goes some times into a folder and back before it comes to a package. -/
def winding (n : Nat) : Path := ⟨0, (List.replicate n [sideName, ".."]).flatten ++ [packageName]⟩

/-- The package with that folder beside it, and with working areas. -/
def windingFiles (areas entries : List (String × Entry)) : FileSystem :=
  ⟨.folder [("tmp", .folder areas), (sideName, .folder []), (packageName, .folder entries)], [],
    ⟨1, ["tmp"]⟩⟩

lemma toList_sideName : sideName.toList = 'd' :: List.replicate 254 'd' := String.toList_ofList

lemma toList_packageName : packageName.toList = 'q' :: List.replicate 199 'q' :=
  String.toList_ofList

lemma utf8ByteSize_replicate (n : Nat) (c : Char) :
    (String.ofList (List.replicate n c)).utf8ByteSize = n * c.utf8Size := by
  rw [String.utf8ByteSize_ofList]
  induction n with
  | zero => simp
  | succ n ih => rw [List.replicate_succ, String.utf8Len_cons, ih, Nat.succ_mul]

lemma eq_of_mem_replicate {n : Nat} {c d : Char}
    (h : d ∈ (String.ofList (List.replicate n c)).toList) : d = c := by
  rw [String.toList_ofList] at h
  exact List.eq_of_mem_replicate h

lemma utf8ByteSize_sideName : sideName.utf8ByteSize = 255 := utf8ByteSize_replicate 255 'd'

lemma utf8ByteSize_packageName : packageName.utf8ByteSize = 200 := utf8ByteSize_replicate 200 'q'

lemma ne_of_head {s t : String} {c d : Char} {cs ds : List Char} (hs : s.toList = c :: cs)
    (ht : t.toList = d :: ds) (h : c ≠ d) : s ≠ t := by
  rintro rfl
  exact h (List.cons.inj (hs.symm.trans ht)).1

lemma utf8ByteSize_winding (n : Nat) (names : List String) :
    ((winding n).append names).toString.utf8ByteSize =
      259 * n + 200 + (names.map (·.utf8ByteSize + 1)).sum := by
  have hdots : "..".utf8ByteSize = 2 := rfl
  have hturns : (((List.replicate n [sideName, ".."]).flatten.map (·.utf8ByteSize + 1)).sum) =
      259 * n := by
    induction n with
    | zero => rfl
    | succ n ih =>
      rw [List.replicate_succ, List.flatten_cons, List.map_append, List.sum_append, ih]
      simp only [List.map_cons, List.map_nil, List.sum_cons, List.sum_nil, utf8ByteSize_sideName,
        hdots]
      omega
  have hsize := utf8ByteSize_intercalate ((winding n).append names).names
    (by simp [winding, Path.append])
  simp only [winding, Path.append, List.map_append, List.sum_append, hturns, List.map_cons,
    List.map_nil, List.sum_cons, List.sum_nil, utf8ByteSize_packageName] at hsize
  have hne : ((List.replicate n [sideName, ".."]).flatten ++ [packageName] ++ names).isEmpty =
      false := by simp
  have hslashes : (String.ofList (List.replicate 0 '/')).utf8ByteSize = 0 := rfl
  simp only [Path.toString, winding, Path.append, hne, Bool.and_false, Bool.false_eq_true, if_false,
    String.utf8ByteSize_append]
  omega

lemma zero_notMem_winding {n : Nat} {names : List String}
    (h : ∀ name ∈ names, '\x00' ∉ name.toList) :
    '\x00' ∉ ((winding n).append names).toString.toList := by
  rw [Path.mem_toString (by decide) (by decide)]
  rintro ⟨name, hname, hzero⟩
  simp only [winding, Path.append, List.mem_append, List.mem_flatten, List.mem_replicate,
    List.mem_singleton] at hname
  rcases hname with (⟨turn, ⟨-, rfl⟩, hname⟩ | rfl) | hname
  · rcases List.mem_pair.mp hname with rfl | rfl
    · exact absurd (eq_of_mem_replicate hzero) (by decide)
    · revert hzero
      decide
  · exact absurd (eq_of_mem_replicate hzero) (by decide)
  · exact h name hname hzero

theorem lookup_winding (areas entries : List (String × Entry)) {n : Nat} (hn : n ≤ 15) :
    (windingFiles areas entries).lookup (winding n) = .ok (.folder entries) := by
  have htmp : sideName ≠ "tmp" := ne_of_head toList_sideName (by rfl) (show 'd' ≠ 't' by decide)
  have hdots : sideName ≠ ".." := ne_of_head toList_sideName (by rfl) (show 'd' ≠ '.' by decide)
  have htmp' : packageName ≠ "tmp" :=
    ne_of_head toList_packageName (by rfl) (show 'q' ≠ 't' by decide)
  have hdots' : packageName ≠ ".." :=
    ne_of_head toList_packageName (by rfl) (show 'q' ≠ '.' by decide)
  have hside : packageName ≠ sideName :=
    ne_of_head toList_packageName toList_sideName (by decide)
  -- every turn into the folder beside the package leads back to where it began
  have hturn : (windingFiles areas entries).enterAll [] [sideName, ".."] = .ok [] := by
    refine enterAll_cons_eq_ok_iff.mpr ⟨[sideName], enter_eq_ok_iff.mpr ⟨rfl, ?_⟩,
      enterAll_cons_eq_ok_iff.mpr ⟨[], enter_eq_ok_iff.mpr ⟨?_, rfl⟩, rfl⟩⟩
    · rw [if_neg hdots, utf8ByteSize_sideName]
      exact ⟨le_refl _, rfl⟩
    · refine view_eq_folder_iff.mpr ⟨[], ?_⟩
      simp [windingFiles, Entry.get?_folder_cons, List.lookup_cons, beq_eq_false_iff_ne.mpr htmp]
  have hlast : (windingFiles areas entries).enterAll [] [packageName] = .ok [packageName] := by
    refine enterAll_cons_eq_ok_iff.mpr ⟨[packageName], enter_eq_ok_iff.mpr ⟨rfl, ?_⟩, rfl⟩
    rw [if_neg hdots', utf8ByteSize_packageName]
    exact ⟨by decide, rfl⟩
  have hroot : (winding n).append [] = winding n := by simp [Path.append]
  refine lookup_eq_ok_iff.mpr ⟨[packageName], locate_eq_ok_iff.mpr ⟨?_, ?_, ?_⟩, ?_⟩
  · rw [← hroot]
    exact zero_notMem_winding (by simp)
  · have hsize := utf8ByteSize_winding n []
    rw [hroot, List.map_nil, List.sum_nil] at hsize
    rw [hsize, maxPathBytes]
    omega
  · exact enterAll_append_eq_ok_iff.mpr ⟨[], enterAll_replicate hturn n, hlast⟩
  · simp [windingFiles, Entry.get?_folder_cons, List.lookup_cons, beq_eq_false_iff_ne.mpr htmp',
      beq_eq_false_iff_ne.mpr hside]

lemma lookup_manifest_of_long (areas entries : List (String × Entry)) :
    (windingFiles areas entries).lookup ((winding 15).append ["imsmanifest.xml"]) =
      .error .nameTooLong := by
  refine lookup_of_long (zero_notMem_winding (by decide)) ?_
  rw [utf8ByteSize_winding]
  decide

lemma areaOf_windingFiles (entries : List (String × Entry)) :
    areaOf Settings.default (windingFiles [] entries) = ⟨1, ["tmp", "qti-validate-0"]⟩ := by
  have hfirst : (Path.ofString (Settings.default.areaName ++ toString 0)).within ⟨1, ["tmp"]⟩ =
      ⟨1, ["tmp", "qti-validate-0"]⟩ := by decide
  have hnames : (windingFiles [] entries).namesIn ⟨1, ["tmp"]⟩ = [] := rfl
  have hparent : Path.parent ⟨1, ["tmp", "qti-validate-0"]⟩ = ⟨1, ["tmp"]⟩ := rfl
  have htemporary : Settings.default.workFolder.getD (windingFiles [] entries).temporary =
      ⟨1, ["tmp"]⟩ := rfl
  unfold areaOf freshPath
  dsimp only
  rw [htemporary, hfirst, hparent, hnames]
  simpa [List.range_succ] using hfirst

/-- What the validation of a winding path looks into. -/
def windingSite (n : Nat) (entries : List (String × Entry)) : Site :=
  ⟨windingFiles [("qti-validate-0", .folder [])] entries, winding n⟩

lemma inspects_winding (entries : List (String × Entry)) {n : Nat} (hn : n ≤ 15) :
    Inspects Settings.default (windingFiles [] entries) (winding n) (windingSite n entries) := by
  have hmade : (windingFiles [] entries).makeFolder ⟨1, ["tmp", "qti-validate-0"]⟩ =
      .ok (windingFiles [("qti-validate-0", .folder [])] entries) := rfl
  refine .folder (test_of_lookup (lookup_winding [] entries hn) _) ?_
    (test_of_lookup (lookup_winding _ entries hn) _)
  rw [areaOf_windingFiles, hmade]

lemma listable_winding {n : Nat} (hn : n ≤ 15) {entries : List (String × Entry)}
    (hdistinct : (entries.map Prod.fst).Nodup)
    (hnames : Path.Admissible (entries.map Prod.fst))
    (hshort : ∀ name ∈ entries.map Prod.fst, 259 * n + 201 + name.utf8ByteSize ≤ maxPathBytes) :
    Listable (windingSite n entries) entries := by
  refine ⟨lookup_winding _ entries hn, hdistinct, hnames, fun name hname _ => ?_⟩
  have hle := hshort name hname
  have hsize := utf8ByteSize_winding n [name]
  simp only [List.map_cons, List.map_nil, List.sum_cons, List.sum_nil] at hsize
  rw [windingSite, hsize]
  omega

lemma admissible_crowdedEntries : Path.Admissible (crowdedEntries.map Prod.fst) := by
  unfold Path.Admissible
  decide

lemma admissible_loneEntries : Path.Admissible (loneEntries.map Prod.fst) := by
  unfold Path.Admissible
  decide

def defaultValidator : Validator := ⟨Options.inherit, Settings.default⟩

theorem validate_crowded :
    (defaultValidator.validate (windingFiles [] crowdedEntries) (winding 0) none).1 =
      (defaultValidator.validate (windingFiles [] loneEntries) (winding 1) none).1 := by
  have hcrowded : Listable (windingSite 0 crowdedEntries) crowdedEntries :=
    listable_winding (by decide) (by decide) admissible_crowdedEntries (by decide)
  have hlone : Listable (windingSite 1 loneEntries) loneEntries :=
    listable_winding (by decide) (by decide) admissible_loneEntries (by decide)
  have hsite : Inspects defaultValidator.settings (windingFiles [] crowdedEntries) (winding 0)
      (windingSite 0 crowdedEntries) := inspects_winding _ (by decide)
  have hsite' : Inspects defaultValidator.settings (windingFiles [] loneEntries) (winding 1)
      (windingSite 1 loneEntries) := inspects_winding _ (by decide)
  have hstrict : defaultValidator.isStrict none = defaultValidator.isStrict none := rfl
  obtain ⟨-, halone, -⟩ := validate_isolated hstrict hsite hsite' hcrowded hlone
  exact halone "b.xml" bareDocument isFirstLegacy_crowdedEntries rfl

/-- Under a path that leaves no room for the name of the manifest the broken manifest is told by
the report, and that there is no manifest is not. -/
theorem validate_too_long :
    (IsFirstLegacy crowdedEntries "b.xml" bareDocument ∧
      IsFirstLegacy loneEntries "b.xml" bareDocument ∧
      Inspects Settings.default (windingFiles [] crowdedEntries) (winding 15)
        (windingSite 15 crowdedEntries) ∧
      Inspects Settings.default (windingFiles [] loneEntries) (winding 15)
        (windingSite 15 loneEntries) ∧
      (defaultValidator.validate (windingFiles [] crowdedEntries) (winding 15) none).1 ≠
        (defaultValidator.validate (windingFiles [] loneEntries) (winding 15) none).1) ∧
    Inspects Settings.default (windingFiles [] []) (winding 15) (windingSite 15 []) ∧
      (defaultValidator.validate (windingFiles [] []) (winding 15) none).1 ≠
        unmanifested Settings.default.manifestName := by
  have hn : 15 ≤ 15 := le_refl 15
  have hcrowded : Inspects defaultValidator.settings (windingFiles [] crowdedEntries) (winding 15)
      (windingSite 15 crowdedEntries) := inspects_winding _ hn
  have hlone : Inspects defaultValidator.settings (windingFiles [] loneEntries) (winding 15)
      (windingSite 15 loneEntries) := inspects_winding _ hn
  have hempty : Inspects defaultValidator.settings (windingFiles [] []) (winding 15)
      (windingSite 15 []) := inspects_winding _ hn
  refine ⟨⟨isFirstLegacy_crowdedEntries, isFirstLegacy_loneEntries, hcrowded, hlone, ?crowded⟩,
    hempty, ?empty⟩
  case crowded =>
    obtain ⟨e, he⟩ := report_of_long none hcrowded (lookup_winding _ _ hn)
      (by decide : "imsmanifest.xml" ∈ crowdedEntries.map Prod.fst)
      ((endsWith_iff _ _).mpr (by decide))
      (lookup_manifest_of_long _ _)
    obtain ⟨root, hdoc, hroot⟩ := report_of_first none hlone
      (listable_winding hn (by decide) admissible_loneEntries (by decide))
      isFirstLegacy_loneEntries
    obtain ⟨root', hdoc', -, hlist⟩ := parses_bareDocument
    obtain rfl : root = root' := Except.ok.inj (hdoc.symm.trans hdoc')
    intro heq
    have herrors := congrArg Report.errors ((he.symm.trans heq).trans hroot)
    rw [interrupted_errors] at herrors
    exact validationError_ne _ (.ofList _ _ _) (by decide)
      (List.cons.inj (herrors.trans hlist)).1
  case empty =>
    have hname : Path.ofString Settings.default.manifestName = ⟨0, ["imsmanifest.xml"]⟩ := by
      decide
    have hlong : (windingSite 15 []).files.exists?
        ((windingSite 15 []).manifestPath defaultValidator.settings.manifestName) =
          .error ⟨.nameTooLong, (winding 15).append ["imsmanifest.xml"]⟩ := by
      have hpath : (windingSite 15 []).manifestPath defaultValidator.settings.manifestName =
          (winding 15).append ["imsmanifest.xml"] := by
        rw [Site.manifestPath, show defaultValidator.settings = Settings.default from rfl, hname]
        rfl
      rw [hpath]
      exact test_of_long (lookup_manifest_of_long _ _) _
    have hlistable : Listable (windingSite 15 []) [] :=
      listable_winding hn List.nodup_nil (by simp [Path.Admissible]) (by simp)
    have hno : ∀ name content, ¬IsLegacy [] name content :=
      fun name content h => List.not_mem_nil h.present
    have hreport := (report_of_no_legacy none hempty hlistable hno).2.2 _ hlong
    intro heq
    have herrors := congrArg Report.errors (hreport.symm.trans heq)
    rw [interrupted_errors] at herrors
    exact validationError_ne _ (.append (.append (.ofList _ _ _) _) _) (by decide)
      (List.cons.inj herrors).1

end QuizPreflight.Package
