import QuizPreflight.Proofs.Quiz.Parsing
import QuizPreflight.Yaml.Document

/-!
# Documents that give a quiz

Whatever stands in a document, its body gives a quiz. What can keep it from one is front matter
whose loader raises an error that is not its own, or whose points can be neither used nor passed
over; all other front matter that cannot be used is passed over. Nothing is assumed of the loader.
-/
namespace QuizPreflight.Quiz

open QuizPreflight.Yaml

/-- The metadata in force: that of front matter that is a mapping. -/
def metadataOf (loader : Loader) (inner : Option (List Char)) : Metadata :=
  match inner.map loader with
  | some (.ok (.map entries)) => entries
  | _ => []

/-- The default points in force, where the metadata name none that can be used. -/
def defaultOf (metadata : Metadata) : Float := (pointsOf metadata).toOption.getD defaultPoints

/-- Why the points that metadata name keep a document from being read. -/
inductive PointsFault (metadata : Metadata) : Fault → Prop
  /-- Points beyond the largest number with a fraction. -/
  | tooLarge {n : Int} (hn : lookUp "points" metadata = some (.int n))
      (hlarge : Decimal.ofInt? n = none) : PointsFault metadata .pointsTooLarge
  /-- Points that are no number but a collection, which holds one too long to be written out. -/
  | tooLong {v : Value} (hv : lookUp "points" metadata = some v) (hno : ∀ n, v ≠ .int n)
      (hlong : v.isWritable = false) : PointsFault metadata .pointsTooLong

/-- What keeps the front matter with a text from being read. -/
inductive Obstacle (loader : Loader) (inner : List Char) : Fault → Prop
  /-- An error comes up in the loader by which it does not refuse the text. -/
  | loading {kind : ErrorKind} {message : String}
      (h : loader inner = .error (.raised kind message)) :
      Obstacle loader inner (.frontmatter kind message)
  /-- Points that can be neither used nor passed over. -/
  | points {f : Fault} {entries : Metadata} (h : loader inner = .ok (.map entries))
      (hf : PointsFault entries f) : Obstacle loader inner f

variable {loader : Loader} {inner : Option (List Char)} {text : List Char} {metadata : Metadata}
  {f : Fault}

/-- Front matter that is malformed or no mapping is passed over. -/
lemma readMetadata_cases (loader : Loader) (inner : Option (List Char)) :
    readMetadata loader inner = .ok (metadataOf loader inner) ∨
      ∃ text kind message, inner = some text ∧ loader text = .error (.raised kind message) ∧
        readMetadata loader inner = .error (.frontmatter kind message) := by
  cases inner with
  | none => exact .inl rfl
  | some text =>
    cases hload : loader text with
    | ok v => cases v <;> simp [readMetadata, metadataOf, hload]
    | error f => cases f <;> simp [readMetadata, metadataOf, hload]

lemma readMetadata_of_forall_ne
    (h : ∀ text ∈ inner, ∀ kind message, loader text ≠ .error (.raised kind message)) :
    readMetadata loader inner = .ok (metadataOf loader inner) := by
  obtain hread | ⟨text, kind, message, hinner, hload, -⟩ := readMetadata_cases loader inner
  · exact hread
  · exact absurd hload (h text hinner kind message)

/-- All other points that are no number are passed over. -/
lemma pointsOf_eq_error_iff : pointsOf metadata = .error f ↔ PointsFault metadata f := by
  constructor
  · intro h
    unfold pointsOf at h
    split at h
    case h_2 n hn =>
      split at h
      · cases h
      · next hlarge =>
        cases h
        exact .tooLarge hn hlarge
    case h_6 v _ hint _ _ _ hv =>
      split at h
      · cases h
      · next hlong =>
        cases h
        exact .tooLong hv hint (Bool.eq_false_iff.mpr hlong)
    all_goals cases h
  · rintro (⟨hn, hlarge⟩ | @⟨v, hv, hno, hlong⟩)
    · simp only [pointsOf, hn, hlarge]
    · unfold pointsOf
      rw [hv]
      cases v with
      | int n => exact absurd rfl (hno n)
      | list items => simp only [hlong, Bool.false_eq_true, if_false]
      | map entries => simp only [hlong, Bool.false_eq_true, if_false]
      | set members => simp only [hlong, Bool.false_eq_true, if_false]
      | _ => cases hlong

lemma pointsOf_cases (metadata : Metadata) :
    pointsOf metadata = .ok (defaultOf metadata) ∨
      ∃ f, pointsOf metadata = .error f ∧ PointsFault metadata f := by
  cases hpoints : pointsOf metadata with
  | ok x => exact .inl (by simp [defaultOf, hpoints, Except.toOption])
  | error f => exact .inr ⟨f, rfl, pointsOf_eq_error_iff.mp hpoints⟩

lemma load_of_metadataOf (h : metadataOf loader inner ≠ []) :
    ∃ text, inner = some text ∧ loader text = .ok (.map (metadataOf loader inner)) := by
  unfold metadataOf at h ⊢
  split at h
  · next entries hinner =>
    obtain ⟨text, rfl, hload⟩ := Option.map_eq_some_iff.mp hinner
    exact ⟨text, rfl, hload⟩
  · exact absurd rfl h

lemma PointsFault.lookUp_ne_none (h : PointsFault metadata f) :
    lookUp "points" metadata ≠ none := by
  rcases h with ⟨hn, -⟩ | ⟨hv, -, -⟩
  · simp [hn]
  · simp [hv]

lemma PointsFault.ne_nil (h : PointsFault metadata f) : metadata ≠ [] := by
  rintro rfl
  exact h.lookUp_ne_none rfl

/-- A document gives the quiz of its body, or there is an obstacle in its front matter. -/
lemma parse_cases (loader : Loader) (content : String) :
    parse loader content = .ok (readBody (metadataOf loader (cut content.toList).inner)
      (defaultOf (metadataOf loader (cut content.toList).inner)) ((cut content.toList).offset + 1)
      (cut content.toList).body) ∨
    ∃ f, parse loader content = .error f ∧
      ∃ inner ∈ (cut content.toList).inner, Obstacle loader inner f := by
  unfold parse
  dsimp only
  obtain hread | ⟨text, kind, message, hinner, hload, hread⟩ :=
    readMetadata_cases loader (cut content.toList).inner
  · rw [hread]
    obtain hpoints | ⟨f, hpoints, hf⟩ :=
      pointsOf_cases (metadataOf loader (cut content.toList).inner)
    · exact .inl (by simp only [bind, Except.bind, hpoints, pure, Except.pure])
    · obtain ⟨text, hinner, hload⟩ := load_of_metadataOf hf.ne_nil
      refine .inr ⟨f, ?_, text, hinner, .points hload hf⟩
      simp only [bind, Except.bind, hpoints]
  · rw [hread]
    exact .inr ⟨_, rfl, text, hinner, .loading hload⟩

lemma Obstacle.parse_eq_error {content : String} (hinner : (cut content.toList).inner = some text)
    (h : Obstacle loader text f) : parse loader content = .error f := by
  unfold parse
  dsimp only
  rw [hinner]
  rcases h with hload | ⟨hload, hf⟩
  · simp [readMetadata, hload, bind, Except.bind]
  · simp [readMetadata, hload, bind, Except.bind, pointsOf_eq_error_iff.mpr hf]

/-- A document fails exactly with the faults of obstacles in its front matter. -/
lemma parse_eq_error_iff {content : String} : parse loader content = .error f ↔
    ∃ inner ∈ (cut content.toList).inner, Obstacle loader inner f := by
  refine ⟨fun herror => ?_, fun ⟨inner, hinner, hf⟩ => hf.parse_eq_error hinner⟩
  obtain hok | ⟨f', herror', hf⟩ := parse_cases loader content
  · cases hok.symm.trans herror
  · obtain rfl := Except.error.inj (herror.symm.trans herror')
    exact hf

end QuizPreflight.Quiz
