import QuizPreflight.Proofs.Files.Descent
import QuizPreflight.Proofs.Result
import QuizPreflight.Settings

/-!
# Settings that load

The settings of an environment load unless it names a work folder whose home folder is not known,
one that the system refuses to make, or one that neither is a folder nor can be made. Looking at a
path fails only where the system refuses to, or the path or a name in it is too long.
-/
namespace QuizPreflight

/-- The text of a path or one of its names is longer than any file system takes. -/
def Path.IsTooLong (p : Path) : Prop :=
  FileSystem.maxPathBytes < p.toString.utf8ByteSize ∨
    ∃ n ∈ p.names, FileSystem.maxNameBytes < n.utf8ByteSize

/-- The path that a text stands for, if the home folder it asks for is known. -/
def Environment.path? (env : Environment) (text : String) : Option Path :=
  (env.expandHome (Path.ofString text)).toOption

lemma Environment.expandHome_eq_ok {env : Environment} {text : String} {p : Path}
    (h : env.path? text = some p) : env.expandHome (Path.ofString text) = .ok p :=
  toOption_eq_some_iff.mp h

lemma Environment.path?_eq_none_iff {env : Environment} {text : String} :
    env.path? text = none ↔ ∃ f, env.expandHome (Path.ofString text) = .error f := by
  unfold Environment.path?
  cases env.expandHome (Path.ofString text) <;> simp [Except.toOption]

/-- A path that cannot be looked at: its home folder is not known, the system refuses to, or it is
too long. -/
inductive Unusable (access : Access) (env : Environment) (fs : FileSystem) (text : String) : Prop
  | home (h : env.path? text = none) : Unusable access env fs text
  | refused {p : Path} {message : String} (hp : env.path? text = some p)
      (h : access.look p = some message) : Unusable access env fs text
  | tooLong {p : Path} (hp : env.path? text = some p) (hlookup : fs.lookup p = .error .nameTooLong)
      (hlong : p.IsTooLong) : Unusable access env fs text

/-- What the environment names as the folder of working areas. -/
def workText? (env : Environment) : Option String :=
  Settings.value? env "QUIZ_DIAGNOSTIC_WORK_DIR"

/-- Why the settings of an environment cannot be used. -/
inductive SettingsObstacle (access : Access) (env : Environment) (fs : FileSystem) :
    PathFault → Prop
  | home {text : String} {f : PathFault} (htext : workText? env = some text)
      (h : env.expandHome (Path.ofString text) = .error f) : SettingsObstacle access env fs f
  | refused {text : String} {p : Path} {message : String} (htext : workText? env = some text)
      (hp : env.path? text = some p) (h : access.make p = some message) :
      SettingsObstacle access env fs (.refused message)
  | folder {text : String} {p : Path} {e : FileError} (htext : workText? env = some text)
      (hp : env.path? text = some p) (hmake : access.make p = none)
      (hno : fs.isFolder? p ≠ .ok true) (h : fs.ensureFolders p = .error e) :
      SettingsObstacle access env fs (.file e)

namespace FileSystem

variable {fs fs' : FileSystem} {p : Path} {place : List String} {names : List String} {e : FileError}

lemma long_of_enterAll (h : fs.enterAll place names = .error .nameTooLong) :
    ∃ n ∈ names, maxNameBytes < n.utf8ByteSize := by
  induction names generalizing place with
  | nil => cases h
  | cons n names ih =>
    simp only [enterAll, List.foldlM_cons] at h
    rcases bind_eq_error_iff.mp h with hn | ⟨mid, -, hrest⟩
    · refine ⟨n, List.mem_cons_self, ?_⟩
      unfold enter at hn
      split at hn
      · split at hn
        · cases hn
        · split at hn
          · next hlong => exact hlong
          · cases hn
      · cases hn
      · cases hn
    · obtain ⟨m, hm, hlong⟩ := ih hrest
      exact ⟨m, List.mem_cons_of_mem n hm, hlong⟩

lemma isTooLong_of_lookup (h : fs.lookup p = .error .nameTooLong) : p.IsTooLong := by
  rcases bind_eq_error_iff.mp h with hlocate | ⟨place, -, hget⟩
  · unfold locate at hlocate
    split at hlocate
    · cases hlocate
    · split at hlocate
      · next hlong => exact .inl hlong
      · exact .inr (long_of_enterAll hlocate)
  · split at hget <;> cases hget

/-- A path is looked at in vain only if it is too long. -/
lemma test_eq_error_iff {holds : Entry → Bool} :
    fs.test holds p = .error e ↔ fs.lookup p = .error .nameTooLong ∧ e = ⟨.nameTooLong, p⟩ := by
  unfold test
  rcases fs.lookup p with problem | x
  · cases problem <;> simp [eq_comm]
  · simp

lemma lookup_of_isFolder? (h : fs.isFolder? p = .ok true) : ∃ es, fs.lookup p = .ok (.folder es) := by
  unfold isFolder? test at h
  rcases hp : fs.lookup p with problem | content | es
  · cases problem <;> simp [hp] at h
  · simp [hp, Entry.isFolder] at h
  · exact ⟨es, rfl⟩

lemma makeFolder_of_isFolder? (h : fs.isFolder? p = .ok true) :
    fs.makeFolder p = .error ⟨.exists, p⟩ := by
  obtain ⟨es, hes⟩ := lookup_of_isFolder? h
  obtain ⟨place, hplace, hget⟩ := lookup_eq_ok_iff.mp hes
  simp [makeFolder, hplace, hget]

/-- Nothing needs to be made where a folder is. -/
lemma ensureFolders_of_isFolder? (h : fs.isFolder? p = .ok true) :
    fs.ensureFolders p = .ok fs := by
  have hmake := makeFolder_of_isFolder? h
  unfold ensureFolders
  rcases hnames : p.names.reverse with _ | ⟨name, above⟩
  · have hp : (⟨p.slashes, []⟩ : Path) = p := by simp [← List.reverse_eq_nil_iff.mp hnames]
    simp only [ensureAll, ensureFolder, hp, hmake, h]
    rfl
  · have hp : (⟨p.slashes, (name :: above).reverse⟩ : Path) = p := by
      rw [← hnames, List.reverse_reverse]
    simp only [ensureAll, hp, hmake, h]
    rfl

lemma lookup_ne_of_locate (h : fs.locate p = .ok place) : fs.lookup p ≠ .error .nameTooLong := by
  unfold lookup
  rw [h]
  rcases hget : fs.root.get? place with _ | e <;> simp [bind, Except.bind, hget, pure, Except.pure]

lemma lookup_ne_of_ensureFolder (h : fs.ensureFolder p = .ok fs') :
    fs'.lookup p ≠ .error .nameTooLong := by
  unfold ensureFolder at h
  split at h
  · next hmake =>
    obtain rfl := Except.ok.inj h
    by_cases hnames : p.names = []
    · obtain ⟨place, hplace, -⟩ := makeFolder_eq_ok_iff.mp hmake
      obtain ⟨hzero, hsize, -⟩ := locate_eq_ok_iff.mp hplace
      exact lookup_ne_of_locate (locate_eq_ok_iff.mpr ⟨hzero, hsize, by rw [hnames]; rfl⟩)
    · rw [(lookup_of_makeFolder hnames hmake).2]
      simp
  · obtain ⟨there, hthere, h⟩ := bind_eq_ok_iff.mp h
    split at h
    · next htrue =>
      obtain rfl := Except.ok.inj h
      obtain ⟨es, hes⟩ := lookup_of_isFolder? (htrue ▸ hthere)
      rw [hes]
      simp
    · cases h

/-- The folder that was made, or was there, can be looked at. -/
lemma lookup_ne_of_ensureFolders (h : fs.ensureFolders p = .ok fs') :
    fs'.lookup p ≠ .error .nameTooLong := by
  unfold ensureFolders at h
  rcases hnames : p.names.reverse with _ | ⟨name, above⟩
  · have hp : (⟨p.slashes, []⟩ : Path) = p := by simp [← List.reverse_eq_nil_iff.mp hnames]
    rw [hnames, ensureAll, hp] at h
    exact lookup_ne_of_ensureFolder h
  · have hp : (⟨p.slashes, (name :: above).reverse⟩ : Path) = p := by
      rw [← hnames, List.reverse_reverse]
    rw [hnames, ensureAll, hp] at h
    split at h
    · next hmake => exact lookup_ne_of_ensureFolder (by rw [ensureFolder, hmake]; exact h)
    · obtain ⟨mid, -, hlast⟩ := bind_eq_ok_iff.mp h
      exact lookup_ne_of_ensureFolder hlast
    · next hmake => exact lookup_ne_of_ensureFolder (by rw [ensureFolder, hmake]; exact h)

end FileSystem

section Looking

variable {access : Access} {env : Environment} {fs : FileSystem} {text : String} {p : Path}
  {holds : Entry → Bool} {f : PathFault} {b : Bool}

lemma Access.guard_eq_ok_iff : access.guard p (fs.test holds p) = .ok b ↔
    access.look p = none ∧ fs.test holds p = .ok b := by
  unfold Access.guard
  cases access.look p with
  | some message => simp
  | none => cases fs.test holds p <;> simp [Except.mapError]

/-- Looking at a path fails only at one that cannot be used. -/
lemma Unusable.of_guard (hp : env.path? text = some p)
    (h : access.guard p (fs.test holds p) = .error f) : Unusable access env fs text := by
  unfold Access.guard at h
  split at h
  · next hlook => exact .refused hp hlook
  · cases htest : fs.test holds p with
    | ok b => simp [htest, Except.mapError] at h
    | error e =>
      obtain ⟨hlookup, -⟩ := FileSystem.test_eq_error_iff.mp htest
      exact .tooLong hp hlookup (FileSystem.isTooLong_of_lookup hlookup)

/-- A path that cannot be used is not looked at. -/
lemma Unusable.guard_eq_error (h : Unusable access env fs text) (hp : env.path? text = some p)
    (holds : Entry → Bool) : ∃ f, access.guard p (fs.test holds p) = .error f := by
  unfold Access.guard
  rcases h with hnone | ⟨hp', hlook⟩ | ⟨hp', hlookup, -⟩
  · cases hp.symm.trans hnone
  · obtain rfl := Option.some.inj (hp.symm.trans hp')
    exact ⟨_, by rw [hlook]⟩
  · obtain rfl := Option.some.inj (hp.symm.trans hp')
    rw [FileSystem.test_of_long hlookup]
    cases access.look p <;> exact ⟨_, rfl⟩

end Looking

namespace Settings

variable {access : Access} {env : Environment} {fs after : FileSystem} {settings : Settings}
  {f : PathFault}

/-- The work folder that the environment asks for, if its home folder is known. -/
lemma ofEnvironment_cases (env : Environment) :
    (workText? env = none ∧ ∃ settings, ofEnvironment env = .ok settings ∧
      settings.workFolder = none) ∨
    ∃ text, workText? env = some text ∧
      ((∃ f, env.expandHome (Path.ofString text) = .error f ∧ ofEnvironment env = .error f) ∨
      ∃ p settings, env.path? text = some p ∧
        ofEnvironment env = .ok settings ∧ settings.workFolder = some p) := by
  unfold ofEnvironment workText?
  cases value? env "QUIZ_DIAGNOSTIC_WORK_DIR" with
  | none => exact .inl ⟨rfl, _, rfl, rfl⟩
  | some text =>
    refine .inr ⟨text, rfl, ?_⟩
    have hmap : (some text).mapM (fun s => env.expandHome (Path.ofString s)) =
        (env.expandHome (Path.ofString text)).map some := by
      cases hp : env.expandHome (Path.ofString text) <;> simp [hp, Except.map, Functor.map]
    rw [hmap]
    cases hp : env.expandHome (Path.ofString text) with
    | error f => exact .inl ⟨f, rfl, rfl⟩
    | ok p => exact .inr ⟨p, _, toOption_eq_some_iff.mpr hp, rfl, rfl⟩

/-- What loads is the settings of the environment, with their work folder made. -/
lemma load_of_ok (h : ofEnvironment env = .ok settings) : load access env fs =
    match settings.workFolder with
    | none => .ok (settings, fs)
    | some p =>
      match access.make p with
      | some message => .error (.refused message)
      | none => ((fs.ensureFolders p).mapError .file).map fun after => (settings, after) := by
  unfold load
  rw [h]
  cases hwork : settings.workFolder with
  | none => simp [bind, Except.bind, hwork, pure, Except.pure]
  | some p =>
    cases hmake : access.make p with
    | some message => simp [bind, Except.bind, hwork, hmake, throw, throwThe, MonadExceptOf.throw]
    | none =>
      cases he : fs.ensureFolders p <;>
        simp [bind, Except.bind, hwork, hmake, he, Except.mapError, Except.map, pure, Except.pure]

lemma settingsObstacle_iff {text : String} {p : Path} (htext : workText? env = some text)
    (hp : env.path? text = some p) : SettingsObstacle access env fs f ↔
      match access.make p with
      | some message => f = .refused message
      | none => ∃ e, fs.ensureFolders p = .error e ∧ f = .file e := by
  constructor
  · rintro (⟨htext', hf⟩ | ⟨htext', hp', hmake⟩ | ⟨htext', hp', hmake, -, he⟩)
    · obtain rfl := Option.some.inj (htext.symm.trans htext')
      cases (Environment.expandHome_eq_ok hp).symm.trans hf
    · obtain rfl := Option.some.inj (htext.symm.trans htext')
      obtain rfl := Option.some.inj (hp.symm.trans hp')
      rw [hmake]
    · obtain rfl := Option.some.inj (htext.symm.trans htext')
      obtain rfl := Option.some.inj (hp.symm.trans hp')
      rw [hmake]
      exact ⟨_, he, rfl⟩
  · intro h
    split at h
    · next message hmake => exact h ▸ .refused htext hp hmake
    · next hmake =>
      obtain ⟨e, he, rfl⟩ := h
      refine .folder htext hp hmake (fun hfolder => ?_) he
      cases he.symm.trans (FileSystem.ensureFolders_of_isFolder? hfolder)

theorem load_eq_error_iff : load access env fs = .error f ↔ SettingsObstacle access env fs f := by
  rcases ofEnvironment_cases env with ⟨hnone, settings, hsettings, hwork⟩ |
    ⟨text, htext, ⟨g, hg, hhome⟩ | ⟨p, settings, hp, hsettings, hwork⟩⟩
  · have hno : ¬SettingsObstacle access env fs f := by
      rintro (⟨htext, -⟩ | ⟨htext, -⟩ | ⟨htext, -⟩) <;> cases hnone.symm.trans htext
    rw [load_of_ok hsettings, hwork]
    exact iff_of_false (by simp) hno
  · have hload : load access env fs = .error g := by rw [load, hhome]; rfl
    rw [hload, Except.error.injEq]
    constructor
    · rintro rfl
      exact .home htext hg
    · rintro (⟨htext', hf⟩ | ⟨htext', hp, -⟩ | ⟨htext', hp, -⟩)
      all_goals obtain rfl := Option.some.inj (htext.symm.trans htext')
      · exact Except.error.inj (hg.symm.trans hf)
      · cases hg.symm.trans (Environment.expandHome_eq_ok hp)
      · cases hg.symm.trans (Environment.expandHome_eq_ok hp)
  · rw [load_of_ok hsettings, hwork, settingsObstacle_iff htext hp]
    dsimp only
    cases access.make p with
    | some message => simp [eq_comm]
    | none => cases he : fs.ensureFolders p <;> simp [Except.mapError, Except.map, eq_comm]

/-- The work folder of settings that load can be made, and looked at if that is not refused. -/
lemma lookup_of_load (h : load access env fs = .ok (settings, after)) :
    ∀ p ∈ settings.workFolder, after.lookup p ≠ .error .nameTooLong := by
  obtain ⟨settings', hsettings, -⟩ := bind_eq_ok_iff.mp h
  rw [load_of_ok hsettings] at h
  split at h
  · next hnone =>
    obtain rfl := congrArg Prod.fst (Except.ok.inj h)
    simp [hnone]
  · next p hp =>
    split at h
    · cases h
    · cases he : fs.ensureFolders p with
      | error e => simp [he, Except.mapError, Except.map] at h
      | ok made =>
        simp only [he, Except.mapError, Except.map, Except.ok.injEq, Prod.mk.injEq] at h
        obtain ⟨rfl, rfl⟩ := h
        rintro q hq
        obtain rfl := Option.some.inj (hp.symm.trans hq)
        exact FileSystem.lookup_ne_of_ensureFolders he

end Settings

end QuizPreflight
