import Mathlib.Data.List.TakeWhile
import QuizPreflight.Proofs.Quiz.Arrow
import QuizPreflight.Proofs.Quiz.Cut
import QuizPreflight.Proofs.Quiz.Parsing
import QuizPreflight.Proofs.Text.Matching
import QuizPreflight.Yaml.Document

/-!
# The outline of a quiz

The active lines of a document tell where its questions and sections stand and what choices the
questions offer. Each question is read from one header and the active lines below it up to the
next heading; nothing else of the document has a part in its choices.
-/
namespace QuizPreflight.Quiz

open QuizPreflight.Text

/-! ### Active lines -/

/-- The active ones among numbered lines, the first of which is read at a place. -/
def activeAmong : Place → List (List Char × Nat) → List (List Char × Nat)
  | _, [] => []
  | p, line :: lines =>
    if (p.step line.1).1 = .active then line :: activeAmong (p.step line.1).2 lines
    else activeAmong (p.step line.1).2 lines

/-- The active lines of a document with their numbers in the whole document, counted from one.
Lines of the front matter are not active. -/
def activeLines (content : List Char) : List (List Char × Nat) :=
  activeAmong Place.start (((splitLines content).zipIdx 1).drop (cut content).offset)

def isSectionLine (line : List Char) : Bool := (heading? line).isSome

def isQuestionLine (line : List Char) : Bool := (questionHeader? line).isSome

def isHeadingLine (line : List Char) : Bool := isSectionLine line || isQuestionLine line

/-- A section heading without a prefix and without a keyword: the first of them is a title. -/
def isTitleLine (line : List Char) : Bool :=
  match heading? line with
  | some heading => !startsWith sectionPrefix heading && (headingType? (strip heading)).isNone
  | none => false

/-- A question header and the active lines below it up to the next heading. -/
structure Block where
  header : List Char
  number : Nat
  lines : List (List Char)
  deriving DecidableEq, Repr

/-- The lines in front of the first heading. -/
def linesAbove (active : List (List Char × Nat)) : List (List Char) :=
  (active.takeWhile fun line => !isHeadingLine line.1).map Prod.fst

/-- One block for each question header. -/
def blocksOf (active : List (List Char × Nat)) : List Block :=
  active.tails.filterMap fun
    | [] => none
    | line :: below => (questionHeader? line.1).map fun header =>
      ⟨header, line.2, linesAbove below⟩

/-- The arrow answers of a block in order. -/
def Block.arrows (b : Block) : List Arrow :=
  (readHeader b.header).arrow.toList ++ b.lines.filterMap arrow?

/-- The choices that are written out, or else those of the last arrow answer. -/
def offered (written : List Choice) (arrows : List Arrow) : List Choice :=
  match written, arrows.getLast? with
  | [], some a => a.choices
  | _, _ => written

/-- The choices that are written out below the header. -/
def Block.written (b : Block) : List Choice := b.lines.filterMap readChoice?

def Block.choices (b : Block) : List Choice := offered b.written b.arrows

/-- Where a question stands and what it offers. -/
def Block.place (b : Block) : Int × List Choice := (b.number, b.choices)

/-- Where a question stands and what it offers. -/
def questionPlace (q : Question) : Int × List Choice := (q.sourceLine, q.choices)

section Lines

variable {line heading header : List Char} {n : Nat} {p : Place} {b : Block}
  {active lines : List (List Char × Nat)}

lemma exists_of_heading? (h : heading? line = some heading) :
    ∃ c rest, line = '#' :: c :: rest ∧ isBlank c = true := by
  unfold heading? at h
  split at h
  · next c rest =>
    split at h
    · next hc => exact ⟨c, rest, rfl, hc⟩
    · cases h
  · cases h

lemma questionHeader?_of_heading? (h : heading? line = some heading) :
    questionHeader? line = none := by
  obtain ⟨c, rest, rfl, hc⟩ := exists_of_heading? h
  unfold questionHeader?
  split
  · next heq =>
    obtain ⟨rfl, -⟩ := List.cons.inj (List.cons.inj heq).2
    exact absurd hc (by decide)
  · rfl

@[simp] lemma linesAbove_nil : linesAbove [] = [] := rfl

@[simp] lemma blocksOf_nil : blocksOf [] = [] := rfl

lemma blocksOf_cons_of_header (h : questionHeader? line = some header) :
    blocksOf ((line, n) :: active) = ⟨header, n, linesAbove active⟩ :: blocksOf active := by
  simp [blocksOf, h]

lemma blocksOf_cons_of_none (h : questionHeader? line = none) :
    blocksOf ((line, n) :: active) = blocksOf active := by
  simp [blocksOf, h]

lemma linesAbove_cons (h : isHeadingLine line = false) :
    linesAbove ((line, n) :: active) = line :: linesAbove active := by
  simp [linesAbove, h]

lemma linesAbove_cons_of_heading (h : isHeadingLine line = true) :
    linesAbove ((line, n) :: active) = [] := by
  simp [linesAbove, h]

lemma isHeadingLine_of_heading? (h : heading? line = some heading) :
    isHeadingLine line = true := by
  simp [isHeadingLine, isSectionLine, h]

lemma isHeadingLine_of_questionHeader? (h : questionHeader? line = some header) :
    isHeadingLine line = true := by
  simp [isHeadingLine, isQuestionLine, h]

lemma isHeadingLine_eq_false (hheading : heading? line = none)
    (hheader : questionHeader? line = none) : isHeadingLine line = false := by
  simp [isHeadingLine, isSectionLine, isQuestionLine, hheading, hheader]

/-- The blocks stand at the numbers of the question headers. -/
theorem map_number_blocksOf (active : List (List Char × Nat)) :
    (blocksOf active).map Block.number =
      (active.filter fun line => isQuestionLine line.1).map Prod.snd := by
  induction active with
  | nil => rfl
  | cons line active ih =>
    obtain ⟨line, n⟩ := line
    cases h : questionHeader? line with
    | none => simp [blocksOf_cons_of_none h, isQuestionLine, h, ih]
    | some header => simp [blocksOf_cons_of_header h, isQuestionLine, h, ih]

end Lines

section Blanks

variable {line : List Char}

lemma readChoice?_of_allBlank (h : allBlank line = true) : readChoice? line = none := by
  simp [readChoice?, labelled?, dashed?, dropBlanks_of_allBlank h, skip, literal, one, shortNumber]

lemma arrowEnd?_of_allBlank (h : allBlank line = true) : arrowEnd? line = none := by
  simp [arrowEnd?, dropBlanks_of_allBlank h, literal]

lemma arrow?_of_allBlank (h : allBlank line = true) : arrow? line = none := by
  have hnone : occurs (fun s => (arrowEnd? s).map fun _ => []) line = false := by
    refine occurs_eq_false_iff.mpr fun rest hrest => ?_
    have hblank : allBlank rest = true :=
      List.all_eq_true.mpr fun c hc => List.all_eq_true.mp h c (hrest.subset hc)
    rw [arrowEnd?_of_allBlank hblank, Option.map_none]
  simp [arrow?, splitArrow, splitAtMatch_eq_none_iff.mpr hnone]

end Blanks

/-! ### Questions -/

namespace Draft

variable {line : List Char}

/-- What a draft offers once some more lines have been read. -/
def choicesWith (d : Draft) (lines : List (List Char)) : List Choice :=
  offered (d.choices ++ lines.filterMap readChoice?) (d.arrow.toList ++ lines.filterMap arrow?)

lemma offered_of_ne_nil {written : List Choice} (h : written ≠ []) (arrows : List Arrow) :
    offered written arrows = written := by
  unfold offered
  split
  · exact absurd rfl h
  · rfl

/-- Where the question stands and what it offers, once some more lines have been read. -/
def placeWith (d : Draft) (lines : List (List Char)) : Int × List Choice :=
  (d.sourceLine, d.choicesWith lines)

lemma finish_choices (d : Draft) : d.finish.choices = d.choicesWith [] := by
  cases hc : d.choices <;> cases ha : d.arrow <;> simp [finish, choicesWith, offered, hc, ha]

/-- A line is read at once or later. -/
lemma choicesWith_readLine (d : Draft) (line : List Char) (lines : List (List Char)) :
    (d.readLine line).choicesWith lines = d.choicesWith (line :: lines) := by
  unfold readLine
  cases hchoice : readChoice? line with
  | some c =>
    have hne : d.choices ++ c :: lines.filterMap readChoice? ≠ [] := by simp
    simp [choicesWith, hchoice, offered_of_ne_nil hne]
  | none =>
    cases harrow : splitArrow line with
    | none => simp [choicesWith, hchoice, arrow?, harrow]
    | some found =>
      obtain ⟨before, a⟩ := found
      simp [choicesWith, hchoice, arrow?, harrow, offered, List.getLast?_append, List.getLast?_cons]

lemma choicesWith_of_allBlank (d : Draft) (h : allBlank line = true) (lines : List (List Char)) :
    d.choicesWith (line :: lines) = d.choicesWith lines := by
  simp [choicesWith, readChoice?_of_allBlank h, arrow?_of_allBlank h]

lemma place_finish (d : Draft) : questionPlace d.finish = d.placeWith [] :=
  Prod.ext rfl d.finish_choices

/-- All that a line can bring is a choice, an answer or text behind the stem. -/
lemma exists_readLine (d : Draft) (line : List Char) : ∃ choices arrow more,
    d.readLine line = { d with choices := choices, arrow := arrow, body := d.body ++ more } := by
  unfold readLine
  cases readChoice? line with
  | some c => exact ⟨d.choices ++ [c], d.arrow, [], by rw [List.append_nil]⟩
  | none =>
    cases splitArrow line with
    | none => exact ⟨d.choices, d.arrow, [strip line], rfl⟩
    | some found =>
      obtain ⟨before, a⟩ := found
      dsimp only
      split
      · exact ⟨d.choices, some a, [], by rw [List.append_nil]⟩
      · exact ⟨d.choices, some a, [strip before], rfl⟩

lemma sourceLine_readLine (d : Draft) (line : List Char) :
    (d.readLine line).sourceLine = d.sourceLine := by
  obtain ⟨choices, arrow, more, hread⟩ := d.exists_readLine line
  rw [hread]

lemma placeWith_readLine (d : Draft) (line : List Char) (lines : List (List Char)) :
    (d.readLine line).placeWith lines = d.placeWith (line :: lines) := by
  rw [placeWith, sourceLine_readLine, choicesWith_readLine, placeWith]

end Draft

namespace Progress

variable {p : Progress} {line : List Char} {n : Nat} {active : List (List Char × Nat)}
  (default : Float)

/-- What the questions will be once some active lines have been read. -/
def outline (p : Progress) (active : List (List Char × Nat)) : List (Int × List Choice) :=
  p.questions.map questionPlace ++
    p.pending.toList.map (·.placeWith (linesAbove active)) ++ (blocksOf active).map Block.place

lemma map_place_closed (p : Progress) : p.closed.map questionPlace = p.outline [] := by
  unfold closed
  split
  · next d hd => simp [outline, hd, d.place_finish]
  · next hd => simp [outline, hd]

lemma outline_close (p : Progress) (active : List (List Char × Nat)) :
    p.close.outline active = p.outline [] ++ (blocksOf active).map Block.place := by
  rw [← map_place_closed]
  simp [outline, close]

lemma outline_of_heading (p : Progress) (h : isHeadingLine line = true) :
    p.outline ((line, n) :: active) =
      p.outline [] ++ (blocksOf ((line, n) :: active)).map Block.place := by
  simp [outline, linesAbove_cons_of_heading h]

lemma outline_readHeading (p : Progress) {heading : List Char} (h : heading? line = some heading)
    (number : Nat) : (p.readHeading number heading).outline active =
      p.outline ((line, n) :: active) := by
  have hclose : (p.readHeading number heading).outline active = p.close.outline active := by
    rw [outline, questions_readHeading, pending_readHeading]
    rfl
  have hheading := isHeadingLine_of_heading? h
  rw [hclose, outline_close, p.outline_of_heading hheading,
    blocksOf_cons_of_none (questionHeader?_of_heading? h)]

lemma outline_readQuestion (p : Progress) {header : List Char}
    (h : questionHeader? line = some header) :
    (p.readQuestion default n header).outline active = p.outline ((line, n) :: active) := by
  have hheading := isHeadingLine_of_questionHeader? h
  have hquestions : (p.readQuestion default n header).questions = p.closed := rfl
  rw [p.outline_of_heading hheading, ← map_place_closed, blocksOf_cons_of_header h, outline,
    hquestions, List.append_assoc]
  rfl

/-- An active line is read at once or later. -/
lemma outline_readActive (p : Progress) (line : List Char) (n : Nat)
    (active : List (List Char × Nat)) :
    (p.readActive default n line).outline active = p.outline ((line, n) :: active) := by
  unfold readActive
  cases hheading : heading? line with
  | some heading => exact p.outline_readHeading hheading n
  | none =>
    cases hheader : questionHeader? line with
    | some header => exact p.outline_readQuestion default hheader
    | none =>
      have hline := isHeadingLine_eq_false hheading hheader
      simp only [outline, linesAbove_cons hline, blocksOf_cons_of_none hheader]
      split
      · next hblank =>
        simp only [Draft.placeWith, Draft.choicesWith_of_allBlank _ hblank]
      · cases p.pending with
        | none => rfl
        | some d => simp [d.placeWith_readLine]

lemma outline_addBody (p : Progress) (line : List Char) (active : List (List Char × Nat)) :
    (p.addBody line).outline active = p.outline active := by
  cases hp : p.pending <;> simp [outline, addBody, hp, Draft.placeWith, Draft.choicesWith]

/-- What the active lines among some numbered ones say is what reading all of them leaves. -/
theorem outline_readAll (place : Place) (n : Nat) (p : Progress) (lines : List (List Char)) :
    (readAll default n p (assignRoles place lines)).outline [] =
      p.outline (activeAmong place (lines.zipIdx n)) := by
  induction lines generalizing place n p with
  | nil => rfl
  | cons line lines ih =>
    rw [assignRoles, readAll, ih, List.zipIdx_cons, activeAmong, read]
    dsimp only
    cases hrole : (place.step line).1 with
    | hidden => rfl
    | verbatim => exact p.outline_addBody line _
    | active => exact p.outline_readActive default line n _

/-! ### Sections -/

/-- The lines that open sections: a title is passed over unless one was seen before. -/
def openings (titleSeen : Bool) (active : List (List Char × Nat)) : List (List Char × Nat) :=
  let headings := active.filter fun line => isSectionLine line.1
  if titleSeen then headings else headings.eraseP fun line => isTitleLine line.1

/-- Where the sections will stand once some active lines have been read. -/
def sectionLines (p : Progress) (active : List (List Char × Nat)) : List Int :=
  p.sections.map Section.sourceLine ++ (openings p.titleSeen active).map fun line => (line.2 : Int)

lemma map_sourceLine_sections (p : Progress) :
    p.sections.map Section.sourceLine = p.sectionLines [] := by
  simp [sectionLines, openings]

lemma openings_cons_of_none (titleSeen : Bool) (h : heading? line = none) :
    openings titleSeen ((line, n) :: active) = openings titleSeen active := by
  simp [openings, isSectionLine, h]

lemma sectionLines_readHeading (p : Progress) {heading : List Char}
    (h : heading? line = some heading) :
    (p.readHeading n heading).sectionLines active = p.sectionLines ((line, n) :: active) := by
  have hskip : startsWith sectionPrefix heading = false → skip sectionPrefix heading = heading := by
    intro hprefix
    rw [startsWith, Option.isSome_eq_false_iff, Option.isNone_iff_eq_none] at hprefix
    rw [skip, hprefix, Option.getD_none]
  have htitle : isTitleLine line = (!startsWith sectionPrefix heading &&
      (headingType? (strip (skip sectionPrefix heading))).isNone) := by
    rw [isTitleLine, h]
    dsimp only
    cases hprefix : startsWith sectionPrefix heading with
    | true => rfl
    | false => rw [hskip hprefix]
  have hseen : p.close.titleSeen = p.titleSeen := rfl
  have hsections : p.close.sections = p.sections := rfl
  unfold readHeading
  dsimp only
  rw [← htitle, hseen, hsections]
  -- a heading is the title, or it opens a section, whether or not a title was seen
  split
  · next hfirst =>
    obtain ⟨htitle, hnot⟩ := Bool.and_eq_true_iff.mp hfirst
    rw [Bool.not_eq_true'] at hnot
    simp [sectionLines, openings, hnot, isSectionLine, h, htitle]
  · next hother =>
    have hcases : p.titleSeen = true ∨ isTitleLine line = false := by
      cases hs : p.titleSeen <;> cases ht : isTitleLine line <;> simp [hs, ht] at hother ⊢
    rcases hcases with hs | ht
    · simp [sectionLines, openings, hs, isSectionLine, h]
    · cases hs : p.titleSeen <;> simp [sectionLines, openings, hs, isSectionLine, h, ht]

lemma sectionLines_readActive (p : Progress) (line : List Char) (n : Nat)
    (active : List (List Char × Nat)) :
    (p.readActive default n line).sectionLines active = p.sectionLines ((line, n) :: active) := by
  unfold readActive
  cases hheading : heading? line with
  | some heading => exact p.sectionLines_readHeading hheading
  | none =>
    rw [sectionLines, sectionLines, openings_cons_of_none _ hheading]
    cases questionHeader? line with
    | some header => rfl
    | none =>
      dsimp only
      split <;> rfl

theorem sectionLines_readAll (place : Place) (n : Nat) (p : Progress) (lines : List (List Char)) :
    (readAll default n p (assignRoles place lines)).sectionLines [] =
      p.sectionLines (activeAmong place (lines.zipIdx n)) := by
  induction lines generalizing place n p with
  | nil => rfl
  | cons line lines ih =>
    rw [assignRoles, readAll, ih, List.zipIdx_cons, activeAmong, read]
    dsimp only
    cases hrole : (place.step line).1 with
    | hidden => rfl
    | verbatim => rfl
    | active => exact p.sectionLines_readActive default line n _

end Progress

/-! ### Choices of an arrow answer -/

/-- The choice that an arrow answer makes correct. -/
def Arrow.named : Arrow → Option String
  | .true => some "True"
  | .false => some "False"
  | .neither => none

lemma Arrow.map_text_choices (a : Arrow) : a.choices.map Choice.text = ["True", "False"] := rfl

lemma Arrow.map_text_correct (a : Arrow) :
    (a.choices.filter Choice.isCorrect).map Choice.text = a.named.toList := by
  cases a <;> rfl

namespace Block

variable {b : Block} {a : Arrow}

/-- A long s stands in the header or in a line below it. -/
def HasLongS (b : Block) : Prop := longS ∈ b.header ∨ ∃ line ∈ b.lines, longS ∈ line

lemma hasLongS_of_mem_arrows (h : .neither ∈ b.arrows) : b.HasLongS := by
  rcases List.mem_append.mp h with h | h
  · exact .inl (longS_mem_of_readHeader (Option.mem_toList.mp h))
  · obtain ⟨line, hline, harrow⟩ := List.mem_filterMap.mp h
    exact .inr ⟨line, hline, longS_mem_of_arrow? harrow⟩

lemma choices_of_written (h : b.written ≠ []) : b.choices = b.written :=
  Draft.offered_of_ne_nil h b.arrows

lemma choices_of_arrow (h : b.written = []) (ha : b.arrows.getLast? = some a) :
    b.choices = a.choices := by
  simp only [choices, offered, h, ha]

lemma choices_of_nothing (h : b.written = []) (ha : b.arrows = []) : b.choices = [] := by
  simp only [choices, offered, h, ha, List.getLast?_nil]

lemma hasLongS_of_named (ha : b.arrows.getLast? = some a) (hnone : a.named = none) :
    b.HasLongS := by
  cases a with
  | true => cases hnone
  | false => cases hnone
  | neither => exact hasLongS_of_mem_arrows (List.mem_of_getLast? ha)

end Block

/-! ### Whole documents -/

section Documents

variable {loader : Yaml.Loader} {content : String} {q : Quiz}

lemma drop_zipIdx (lines : List (List Char)) (n k : Nat) :
    (lines.zipIdx n).drop k = (lines.drop k).zipIdx (n + k) := by
  induction lines generalizing n k with
  | nil => simp
  | cons line lines ih =>
    cases k with
    | zero => rfl
    | succ k =>
      rw [List.zipIdx_cons, List.drop_succ_cons, List.drop_succ_cons, ih, Nat.add_right_comm,
        Nat.add_assoc]

lemma pairwise_zipIdx {α : Type} (l : List α) (n : Nat) :
    (l.zipIdx n).Pairwise fun a b => a.2 < b.2 := by
  rw [← List.pairwise_map, List.zipIdx_map_snd]
  exact List.pairwise_lt_range'

lemma activeLines_eq (content : List Char) :
    activeLines content = activeAmong Place.start
      ((splitLines (cut content).body).zipIdx ((cut content).offset + 1)) := by
  rw [activeLines, drop_zipIdx, splitLines_body, Nat.add_comm]

lemma activeAmong_sublist (place : Place) (lines : List (List Char × Nat)) :
    (activeAmong place lines).Sublist lines := by
  induction lines generalizing place with
  | nil => exact .slnil
  | cons line lines ih =>
    rw [activeAmong]
    split
    · exact (ih _).cons_cons line
    · exact (ih _).cons line

lemma readBody_outline (metadata : Metadata) (default : Float) (first : Nat) (body : List Char) :
    (readBody metadata default first body).questions.map questionPlace =
      (blocksOf (activeAmong Place.start ((splitLines body).zipIdx first))).map Block.place := by
  have hread := Progress.outline_readAll default Place.start first
    (Progress.start (titleOf metadata)) (splitLines body)
  rw [← Progress.map_place_closed] at hread
  exact hread

lemma readBody_sections (metadata : Metadata) (default : Float) (first : Nat) (body : List Char) :
    (readBody metadata default first body).sections.map Section.sourceLine =
      (((activeAmong Place.start ((splitLines body).zipIdx first)).filter fun line =>
        isSectionLine line.1).eraseP fun line => isTitleLine line.1).map fun line =>
          (line.2 : Int) := by
  have hread := Progress.sectionLines_readAll default Place.start first
    (Progress.start (titleOf metadata)) (splitLines body)
  rw [← Progress.map_sourceLine_sections] at hread
  exact hread

lemma map_questionPlace_of_parse (h : parse loader content = .ok q) :
    q.questions.map questionPlace = (blocksOf (activeLines content.toList)).map Block.place := by
  obtain ⟨metadata, default, -, -, rfl⟩ := parse_eq_ok_iff.mp h
  rw [readBody_outline, ← activeLines_eq]

lemma map_sourceLine_of_parse (h : parse loader content = .ok q) :
    q.questions.map Question.sourceLine =
      ((activeLines content.toList).filter fun line => isQuestionLine line.1).map
        (fun line => (line.2 : Int)) := by
  have hlines := congrArg (List.map Prod.fst) (map_questionPlace_of_parse h)
  have hnumbers := congrArg (List.map fun n : Nat => (n : Int))
    (map_number_blocksOf (activeLines content.toList))
  rw [List.map_map, List.map_map] at hlines hnumbers
  exact hlines.trans hnumbers

lemma map_sourceLine_sections_of_parse (h : parse loader content = .ok q) :
    q.sections.map Section.sourceLine =
      (((activeLines content.toList).filter fun line => isSectionLine line.1).eraseP
        fun line => isTitleLine line.1).map (fun line => (line.2 : Int)) := by
  obtain ⟨metadata, default, -, -, rfl⟩ := parse_eq_ok_iff.mp h
  rw [readBody_sections, ← activeLines_eq]

/-- Every question header outside code blocks and solutions gives a question with its number in
the whole document, and every section heading a section, but for the title. A question offers
what is written below its header up to the next heading, or else what its last arrow answer
names; only an answer written with a long s names nothing. -/
theorem parse_outline (h : parse loader content = .ok q) :
    q.questions.map questionPlace = (blocksOf (activeLines content.toList)).map Block.place ∧
    q.questions.map Question.sourceLine =
      ((activeLines content.toList).filter fun line => isQuestionLine line.1).map
        (fun line => (line.2 : Int)) ∧
    q.sections.map Section.sourceLine =
      (((activeLines content.toList).filter fun line => isSectionLine line.1).eraseP
        fun line => isTitleLine line.1).map (fun line => (line.2 : Int)) ∧
    ∀ b ∈ blocksOf (activeLines content.toList),
      (b.written ≠ [] → b.choices = b.written) ∧
      (b.written = [] → b.arrows = [] → b.choices = []) ∧
      ∀ a, b.written = [] → b.arrows.getLast? = some a →
        b.choices.map Choice.text = ["True", "False"] ∧
        (b.choices.filter Choice.isCorrect).map Choice.text = a.named.toList ∧
        (a.named = none → b.HasLongS) := by
  refine ⟨map_questionPlace_of_parse h, map_sourceLine_of_parse h,
    map_sourceLine_sections_of_parse h, fun b _ => ⟨b.choices_of_written, b.choices_of_nothing, ?_⟩⟩
  intro a hwritten ha
  rw [b.choices_of_arrow hwritten ha]
  exact ⟨a.map_text_choices, a.map_text_correct, b.hasLongS_of_named ha⟩

/-- A question below front matter, with a header in a code block that counts as none. -/
theorem parse_outline_fenced : ∃ q,
    parse Yaml.safeLoader
      "---\n\n---\n# Week 3\n# Essay\n## Is it so?\n-> true\n```\n## 2.\n```\n" = .ok q ∧
      q.questions.map questionPlace = [(6, [⟨"True", true⟩, ⟨"False", false⟩])] ∧
      q.sections.map Section.sourceLine = [5] := by
  obtain ⟨q, h⟩ : ∃ q, parse Yaml.safeLoader
      "---\n\n---\n# Week 3\n# Essay\n## Is it so?\n-> true\n```\n## 2.\n```\n" = .ok q := ⟨_, rfl⟩
  obtain ⟨hplaces, -, hsections, -⟩ := parse_outline h
  exact ⟨q, h, hplaces.trans (by decide), hsections.trans (by decide)⟩

/-- An arrow answer with a long s gives two choices of which none is correct. -/
theorem parse_long_s : ∃ q, parse Yaml.safeLoader "## 1. Q -> fal\u017fe" = .ok q ∧
    q.questions.map questionPlace = [(1, [⟨"True", false⟩, ⟨"False", false⟩])] := by
  refine ⟨_, rfl, ?_⟩
  decide

end Documents

end QuizPreflight.Quiz
