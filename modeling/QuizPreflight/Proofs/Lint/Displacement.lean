import Mathlib.Data.List.Forall2
import QuizPreflight.Proofs.Lint.Likeness
import QuizPreflight.Proofs.Quiz.Cut
import QuizPreflight.Proofs.Quiz.Totality

/-!
# Documents below front matter

Front matter moves the lines below it down. Of what it says, only the title and the default points
have a part in a quiz, and no rule looks at either. So a body is linted below front matter as it is
by itself, with the numbers of its lines moved on, unless the points can be neither used nor passed
over.
-/
namespace QuizPreflight

/-- The same question some lines further down, whatever it is worth there. -/
def Question.Moved (k : Nat) (q q' : Question) : Prop :=
  ∃ points, q' = { q with sourceLine := q.sourceLine + k, points := points }

namespace Quiz

/-- The same draft some lines further down, whatever it is worth there. -/
def Draft.Moved (k : Nat) (d d' : Draft) : Prop :=
  ∃ points, d' = { d with sourceLine := d.sourceLine + k, points := points }

/-- The same questions read some lines further down, in a quiz of any title. -/
structure Progress.Moved (k : Nat) (p p' : Progress) : Prop where
  titleSeen : p'.titleSeen = p.titleSeen
  type : p'.type = p.type
  sectionTitle : p'.sectionTitle = p.sectionTitle
  questions : List.Forall₂ (Question.Moved k) p.questions p'.questions
  pending : Option.Rel (Draft.Moved k) p.pending p'.pending

/-! ### Reading -/

section Drafts

variable {k : Nat} {d d' : Draft}

lemma Draft.Moved.finish (h : d.Moved k d') : d.finish.Moved k d'.finish := by
  obtain ⟨points, rfl⟩ := h
  exact ⟨points, rfl⟩

lemma Draft.Moved.readLine (h : d.Moved k d') (line : List Char) :
    (d.readLine line).Moved k (d'.readLine line) := by
  obtain ⟨points, rfl⟩ := h
  unfold Draft.readLine
  split
  · exact ⟨points, rfl⟩
  · split <;> exact ⟨points, rfl⟩

end Drafts

namespace Progress.Moved

variable {k : Nat} {p p' : Progress} (default default' : Float)

lemma start (title title' : String) : (Progress.start title).Moved k (Progress.start title') :=
  ⟨rfl, rfl, rfl, .nil, .none⟩

lemma closed (h : p.Moved k p') : List.Forall₂ (Question.Moved k) p.closed p'.closed := by
  have hpending := h.pending
  unfold Progress.closed
  generalize p.pending = pending, p'.pending = pending' at hpending
  cases hpending with
  | none => exact h.questions
  | some hd => exact List.rel_append h.questions (.cons hd.finish .nil)

lemma close (h : p.Moved k p') : p.close.Moved k p'.close :=
  ⟨h.titleSeen, h.type, h.sectionTitle, h.closed, .none⟩

/-- What changes the pending question alone. -/
lemma mapPending (h : p.Moved k p') {f : Draft → Draft}
    (hf : ∀ d d', d.Moved k d' → (f d).Moved k (f d')) :
    ({ p with pending := p.pending.map f } : Progress).Moved k
      { p' with pending := p'.pending.map f } := by
  refine ⟨h.titleSeen, h.type, h.sectionTitle, h.questions, ?_⟩
  have hpending := h.pending
  dsimp only
  generalize p.pending = pending, p'.pending = pending' at hpending
  cases hpending with
  | none => exact .none
  | some hd => exact .some (hf _ _ hd)

lemma addBody (h : p.Moved k p') (line : List Char) : (p.addBody line).Moved k (p'.addBody line) :=
  h.mapPending fun d d' ⟨points, hd⟩ => ⟨points, by rw [hd]⟩

lemma readHeading (h : p.Moved k p') (n n' : Nat) (heading : List Char) :
    (p.readHeading n heading).Moved k (p'.readHeading n' heading) := by
  have hclose := h.close
  unfold Progress.readHeading
  dsimp only
  rw [hclose.titleSeen]
  split
  · exact ⟨rfl, hclose.type, hclose.sectionTitle, hclose.questions, hclose.pending⟩
  · exact ⟨rfl, rfl, rfl, hclose.questions, hclose.pending⟩

lemma readQuestion (h : p.Moved k p') (n : Nat) (header : List Char) :
    (p.readQuestion default n header).Moved k (p'.readQuestion default' (n + k) header) := by
  have hclose := h.close
  -- an id that is made up counts the questions above, of which there are as many
  have hcount : p'.close.questions.length = p.close.questions.length :=
    hclose.questions.length_eq.symm
  refine ⟨hclose.titleSeen, hclose.type, hclose.sectionTitle, hclose.questions, .some ?_⟩
  refine ⟨(readHeader header).points.getD default', ?_⟩
  rw [hcount, hclose.type, hclose.sectionTitle]

lemma readActive (h : p.Moved k p') (n : Nat) (line : List Char) :
    (p.readActive default n line).Moved k (p'.readActive default' (n + k) line) := by
  unfold Progress.readActive
  cases heading? line with
  | some heading => exact h.readHeading n (n + k) heading
  | none =>
    cases questionHeader? line with
    | some header => exact h.readQuestion default default' n header
    | none =>
      dsimp only
      split
      · exact h
      · exact h.mapPending fun d d' hd => hd.readLine line

lemma read (h : p.Moved k p') (n : Nat) (line : Role × List Char) :
    (p.read default n line).Moved k (p'.read default' (n + k) line) := by
  unfold Progress.read
  split
  · exact h
  · exact h.addBody line.2
  · exact h.readActive default default' n line.2

/-- Neither the default points nor the title change which questions are read. -/
theorem readAll (h : p.Moved k p') (n : Nat) (lines : List (Role × List Char)) :
    (Progress.readAll default n p lines).Moved k
      (Progress.readAll default' (n + k) p' lines) := by
  induction lines generalizing n p p' with
  | nil => exact h
  | cons line lines ih =>
    rw [Progress.readAll, Progress.readAll, Nat.add_right_comm]
    exact ih (h.read default default' n line) (n + 1)

end Progress.Moved

lemma moved_readBody (k : Nat) (metadata metadata' : Metadata) (default default' : Float)
    (first : Nat) (body : List Char) :
    List.Forall₂ (Question.Moved k) (readBody metadata default first body).questions
      (readBody metadata' default' (first + k) body).questions :=
  ((Progress.Moved.start _ _).readAll default default' first _).closed

end Quiz

/-! ### Linting -/

/-- The same finding some lines further down, if it has a line. -/
def Diagnostic.moved (k : Nat) (d : Diagnostic) : Diagnostic :=
  { d with line := d.line.map (· + (k : Int)) }

namespace Lint

open QuizPreflight.Quiz

variable {k : Nat} {q q' : Question} {qs qs' : List Question} {selection : Selection}
  {width : Width}

/-- The rules look at neither the line nor the points of a question. -/
lemma alike_of_moved (h : q.Moved k q') : Alike (fun d => d) (Diagnostic.moved k) q q' := by
  obtain ⟨points, rfl⟩ := h
  exact ⟨rfl, rfl, rfl, rfl, fun _ _ _ _ => rfl⟩

lemma structureFindings_moved (h : List.Forall₂ (Question.Moved k) qs qs') :
    structureFindings selection qs' =
      (structureFindings selection qs).map (Diagnostic.moved k) := by
  have hlike : (structureFindings selection qs').map (fun d => d) =
      (structureFindings selection qs).map (Diagnostic.moved k) :=
    structureFindings_alike (h.imp fun _ _ => alike_of_moved) rfl
  rwa [List.map_id'] at hlike

lemma scanLines_moved (rules : List MarkerRule) (n : Int) (lines : List (List Char)) :
    scanLines rules width (n + k) lines =
      (scanLines rules width n lines).map (Diagnostic.moved k) := by
  induction lines generalizing n with
  | nil => rfl
  | cons line lines ih =>
    rw [scanLines, scanLines, List.map_append, scanLine, scanLine, List.map_map, ← ih,
      Int.add_right_comm]
    rfl

/-! ### Whole documents -/

section Documents

variable {loader : Yaml.Loader} {front body : String} {inner : List Char}

section Below

variable (hinner : (cut (front ++ body).toList).inner = some inner)
  (hrest : (cut (front ++ body).toList).body = body.toList)

include hinner hrest

lemma offset_append :
    (cut (front ++ body).toList).offset = front.toList.count '\n' := by
  rw [String.toList_append] at hinner hrest ⊢
  exact offset_of_append hinner hrest

/-- The lines of a body are scanned with the numbers that they have below front matter. -/
lemma markerFindings_moved (hbody : (cut body.toList).inner = none) :
    markerFindings (front ++ body) selection width =
      (markerFindings body selection width).map
        (Diagnostic.moved (front.toList.count '\n')) := by
  rw [markerFindings, markerFindings, hrest, offset_append hinner hrest,
    cut_of_inner_eq_none hbody]
  dsimp only
  rw [scanMarkers, scanMarkers, ← scanLines_moved]
  congr 1
  push_cast
  exact Int.add_comm _ _

lemma lintQuestions_moved (hbody : (cut body.toList).inner = none)
    (h : List.Forall₂ (Question.Moved (front.toList.count '\n')) qs qs') :
    lintQuestions (front ++ body) qs' selection width =
      (lintQuestions body qs selection width).map
        (Diagnostic.moved (front.toList.count '\n')) := by
  rw [lintQuestions, lintQuestions, List.map_append, markerFindings_moved hinner hrest hbody,
    structureFindings_moved h]

/-- Below front matter that can be read, all depends on the points it names. -/
lemma parse_append (hload : ∀ kind message, loader inner ≠ .error (.raised kind message)) :
    parse loader (front ++ body) =
      (pointsOf (metadataOf loader (some inner))).map fun default =>
        readBody (metadataOf loader (some inner)) default (1 + front.toList.count '\n')
          body.toList := by
  have hread : readMetadata loader (some inner) = .ok (metadataOf loader (some inner)) :=
    readMetadata_of_forall_ne fun text htext => Option.some.inj htext ▸ hload
  unfold parse
  dsimp only
  rw [hrest, offset_append hinner hrest, hinner, hread, Nat.add_comm]
  rfl

lemma lint_append (hbody : (cut body.toList).inner = none)
    (hload : ∀ kind message, loader inner ≠ .error (.raised kind message)) :
    lint loader (front ++ body) selection width =
      (pointsOf (metadataOf loader (some inner))).map fun _ =>
      (lintQuestions body (readBody [] defaultPoints 1 body.toList).questions selection width).map
        (Diagnostic.moved (front.toList.count '\n')) := by
  rw [lint, lintWith, parse_append hinner hrest hload]
  cases pointsOf (metadataOf loader (some inner)) with
  | error e => rfl
  | ok default =>
    have hmoved := moved_readBody (front.toList.count '\n') [] (metadataOf loader (some inner))
      defaultPoints default 1 body.toList
    exact congrArg Except.ok (lintQuestions_moved hinner hrest hbody hmoved)

end Below

/-- Points beyond the largest number with a fraction. -/
def largePoints : List Char := "points: 1".toList ++ List.replicate 309 '0'

def largeFront : String :=
  String.ofList ("---\n".toList ++ largePoints ++ "\n---\n".toList)

lemma toList_ofList_append (cs : List Char) (s : String) :
    (String.ofList cs ++ s).toList = cs ++ s.toList := by
  rw [String.toList_append, String.toList_ofList]

end Documents

end Lint

end QuizPreflight
