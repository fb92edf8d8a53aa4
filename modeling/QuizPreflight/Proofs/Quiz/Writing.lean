import QuizPreflight.Proofs.Quiz.Marking
import QuizPreflight.Proofs.Quiz.Tag
import QuizPreflight.Quiz.Document

/-!
# Written quizzes

The lines of a quiz in the documented form: a question is a header with the id, the stem and a
points tag, more lines of the stem, and choices behind their labels; questions stand on their own
or below the heading of a section. Each of these lines is read as what it stands for.
-/
namespace QuizPreflight.Quiz

open QuizPreflight.Text QuizPreflight.Decimal

/-! ### Lines -/

/-- A line that has no blanks at its ends and is not empty. -/
structure TrimmedLine where
  chars : List Char
  ne_nil : chars ≠ []
  strip_chars : strip chars = chars
  newline_notMem : '\n' ∉ chars

/-- A further line of a stem: it means nothing else. -/
structure StemLine extends TrimmedLine where
  no_heading : heading? chars = none
  no_header : questionHeader? chars = none
  no_fence : isFence chars = false
  no_choice : readChoice? chars = none
  no_arrow : splitArrow chars = none

inductive Label where
  | dash
  | letter (c : Char) (h : isAsciiLetter c = true)
  | digit (d : Char) (h : isDigit d = true)
  | digits (d e : Char) (hd : isDigit d = true) (he : isDigit e = true)

def Label.chars : Label → List Char
  | .dash => ['-']
  | .letter c _ => [c, ')']
  | .digit d _ => [d, ')']
  | .digits d e _ _ => [d, e, ')']

/-- A choice whose text has no markers, and whether one is written behind it. -/
structure WrittenChoice where
  label : Label
  text : TrimmedLine
  no_markers : stripMarkers text.chars = (text.chars, false)
  isMarked : Bool

def WrittenChoice.line (c : WrittenChoice) : List Char :=
  c.label.chars ++ ' ' :: (c.text.chars ++ if c.isMarked then mark else [])

def WrittenChoice.choice (c : WrittenChoice) : Choice := ⟨String.ofList c.text.chars, c.isMarked⟩

/-! ### Questions and sections -/

/-- A question as it is written. The letters and digits of the id are those of ASCII. -/
structure WrittenQuestion where
  id : List Char
  id_ne_nil : id ≠ []
  isIdChar_of_mem : ∀ c ∈ id, isIdChar c = true
  stem : TrimmedLine
  no_tag : occurs (fun s => (pointsTag s).map Prod.snd) stem.chars = false
  no_arrow : splitArrow stem.chars = none
  points : Option Numeral
  more : List StemLine
  choices : List WrittenChoice

namespace WrittenQuestion

/-- The stem with the points tag. -/
def tagged (q : WrittenQuestion) : List Char := q.stem.chars ++ (q.points.map tagOf).getD []

def headerText (q : WrittenQuestion) : List Char := q.id ++ '.' :: ' ' :: q.tagged

def header (q : WrittenQuestion) : List Char := '#' :: '#' :: ' ' :: q.headerText

def lines (q : WrittenQuestion) : List (List Char) :=
  q.header :: (q.more.map (·.chars) ++ q.choices.map WrittenChoice.line)

/-- The points that the header names, or else those of every question. -/
def worth (q : WrittenQuestion) : Float := (q.points.map Numeral.value).getD defaultPoints

/-- What is pending when the header has been read. -/
def draft (q : WrittenQuestion) (type : QuestionType) (title : Option (List Char)) (n : Nat) :
    Draft where
  id := q.id
  header := q.stem.chars
  points := q.worth
  sourceLine := n
  type := type
  sectionTitle := title
  body := []
  choices := []
  arrow := none

/-- The question that is meant, with the type and the title of its section. -/
def question (q : WrittenQuestion) (type : QuestionType) (title : Option (List Char)) (n : Nat) :
    Question where
  id := String.ofList q.id
  stem := String.ofList (joinLines (q.stem.chars :: q.more.map (·.chars)))
  type := type
  points := q.worth
  sourceLine := n
  choices := q.choices.map WrittenChoice.choice
  sectionTitle := title.map String.ofList

end WrittenQuestion

structure WrittenSection where
  title : TrimmedLine
  questions : List WrittenQuestion

namespace WrittenSection

def headingText (s : WrittenSection) : List Char := "Section: ".toList ++ s.title.chars

def heading (s : WrittenSection) : List Char := '#' :: ' ' :: s.headingText

def lines (s : WrittenSection) : List (List Char) :=
  s.heading :: s.questions.flatMap WrittenQuestion.lines

/-- The type that the title names. -/
def type (s : WrittenSection) : QuestionType :=
  (headingType? s.title.chars).getD .multipleChoice

end WrittenSection

/-- Questions on their own, then those of the sections. -/
structure WrittenQuiz where
  loose : List WrittenQuestion
  sections : List WrittenSection

namespace WrittenQuiz

def lines (t : WrittenQuiz) : List (List Char) :=
  t.loose.flatMap WrittenQuestion.lines ++ t.sections.flatMap WrittenSection.lines

def text (t : WrittenQuiz) : String := String.ofList (joinLines t.lines)

end WrittenQuiz

/-! ### The quiz that is meant -/

/-- Questions of one section, of which the first is written at line `n`. -/
def questionsFrom (type : QuestionType) (title : Option (List Char)) :
    Nat → List WrittenQuestion → List Question
  | _, [] => []
  | n, q :: qs => q.question type title n :: questionsFrom type title (n + q.lines.length) qs

namespace WrittenSection

/-- The questions of sections of which the first is written at line `n`. -/
def questionsOf : Nat → List WrittenSection → List Question
  | _, [] => []
  | n, s :: rest =>
    questionsFrom s.type (some s.title.chars) (n + 1) s.questions ++
      questionsOf (n + s.lines.length) rest

def sectionsOf : Nat → List WrittenSection → List Section
  | _, [] => []
  | n, s :: rest =>
    ⟨String.ofList s.title.chars, s.type, n⟩ :: sectionsOf (n + s.lines.length) rest

end WrittenSection

namespace WrittenQuiz

/-- The first line of the first section. -/
def sectionsStart (t : WrittenQuiz) : Nat := 1 + (t.loose.flatMap WrittenQuestion.lines).length

def quiz (t : WrittenQuiz) : Quiz where
  title := ""
  questions := questionsFrom .multipleChoice none 1 t.loose ++
    WrittenSection.questionsOf t.sectionsStart t.sections
  sections := WrittenSection.sectionsOf t.sectionsStart t.sections
  metadata := []

end WrittenQuiz

variable {c : Char} {s body : List Char}

/-! ### Trimmed lines -/

lemma newline_notMem_of_not_blank (h : ∀ c ∈ s, isBlank c = false) : '\n' ∉ s :=
  fun hmem => absurd (h '\n' hmem) (by decide)

namespace TrimmedLine

variable (l : TrimmedLine)

lemma startsPlain : StartsPlain l.chars := (strip_eq_self_iff.mp l.strip_chars).1

lemma endsPlain : EndsPlain l.chars := (strip_eq_self_iff.mp l.strip_chars).2

lemma startsPlain_append (t : List Char) : StartsPlain (l.chars ++ t) :=
  l.startsPlain.append l.ne_nil t

lemma not_allBlank : allBlank l.chars = false := by
  obtain ⟨c, cs, hcs⟩ := List.exists_cons_of_ne_nil l.ne_nil
  have hc : isBlank c = false := l.startsPlain c (by rw [hcs]; rfl)
  rw [hcs, allBlank, List.all_cons, hc, Bool.false_and]

end TrimmedLine

/-! ### Choices -/

lemma labelled?_cons (hblank : isBlank c = false) (hstar : c ≠ '*') (s : List Char) :
    labelled? (c :: s) = ((one isAsciiLetter (c :: s)).or (shortNumber (c :: s))).bind fun s =>
      (closingParen s).bind fun s => (blanks s).map fun text => (false, text) := by
  have hdrop : dropBlanks (c :: s) = c :: s := dropBlanks_eq_self_iff.mpr (startsPlain_cons hblank)
  have hnostar : literal ['*'] (c :: s) = none := if_neg (Ne.symm hstar)
  unfold labelled?
  simp only [hdrop, startsWith, skip, hnostar, Option.getD_none, Option.isSome_none,
    Option.orElse_eq_orElse, Option.orElse_eq_or, Option.bind_eq_bind]
  cases (one isAsciiLetter (c :: s)).or (shortNumber (c :: s)) with
  | none => rfl
  | some rest =>
    cases hparen : closingParen rest with
    | none => simp [hparen]
    | some after => cases hblanks : blanks after <;> simp [hparen, hblanks]

namespace Label

lemma isBlank_of_mem_chars (l : Label) : ∀ c ∈ l.chars, isBlank c = false := by
  have hparen : isBlank ')' = false := by decide
  cases l with
  | dash => simp [chars, show isBlank '-' = false by decide]
  | letter c h => simp [chars, hparen, isBlank_of_isAsciiLetter h]
  | digit d h => simp [chars, hparen, isBlank_of_isDigit h]
  | digits d e hd he => simp [chars, hparen, isBlank_of_isDigit hd, isBlank_of_isDigit he]

/-- A label starts no other kind of line. -/
lemma exists_chars_eq_cons (l : Label) :
    ∃ c rest, l.chars = c :: rest ∧ c ≠ '#' ∧ c ≠ '`' ∧ c ≠ '~' := by
  have hletter : ∀ c, isAsciiLetter c = true → c ≠ '#' ∧ c ≠ '`' ∧ c ≠ '~' := by
    intro c hc
    refine ⟨?_, ?_, ?_⟩ <;> rintro rfl <;> cases hc
  have hdigit : ∀ c, isDigit c = true → c ≠ '#' ∧ c ≠ '`' ∧ c ≠ '~' := by
    intro c hc
    refine ⟨?_, ?_, ?_⟩ <;> rintro rfl <;> revert hc <;> decide
  cases l with
  | dash => exact ⟨'-', [], rfl, by decide⟩
  | letter c h => exact ⟨c, [')'], rfl, hletter c h⟩
  | digit d h => exact ⟨d, [')'], rfl, hdigit d h⟩
  | digits d e hd he => exact ⟨d, [e, ')'], rfl, hdigit d hd⟩

/-- What stands behind a label is taken whole. -/
lemma readChoice?_chars (l : Label) (hbody : StartsPlain body) :
    readChoice? (l.chars ++ ' ' :: body) =
      some ⟨String.ofList (stripMarkers body).1, (stripMarkers body).2⟩ := by
  have hblanks : blanks (' ' :: body) = some body := by
    rw [blanks, if_pos isBlank_space, dropBlanks_eq_self_iff.mpr hbody]
  have hletterless : ∀ d s, isDigit d = true → one isAsciiLetter (d :: s) = none := by
    intro d s hd
    rw [one, isAsciiLetter_of_isDigit hd, if_neg Bool.false_ne_true]
  have hnodigit : isDigit ')' = false := by decide
  have hread : ∀ line, labelled? line = some (false, body) →
      readChoice? line = some ⟨String.ofList (stripMarkers body).1, (stripMarkers body).2⟩ := by
    intro line hline
    simp [readChoice?, hline]
  cases l with
  | dash =>
    have hdigit : isDigit '-' = false := by decide
    have hletter : isAsciiLetter '-' = false := by decide
    have hlabelled : labelled? ('-' :: ' ' :: body) = none := by
      rw [labelled?_cons (by decide) (by decide)]
      simp [one, shortNumber, hdigit, hletter]
    have hdashed : dashed? ('-' :: ' ' :: body) = some body := hblanks
    simp [chars, readChoice?, hlabelled, hdashed]
  | letter c h =>
    refine hread _ ?_
    rw [chars, List.cons_append, labelled?_cons (isBlank_of_isAsciiLetter h)
      (by rintro rfl; cases h)]
    simp [one, h, closingParen, literal, hblanks]
  | digit d h =>
    refine hread _ ?_
    rw [chars, List.cons_append, labelled?_cons (isBlank_of_isDigit h)
      (by rintro rfl; revert h; decide), hletterless d _ h]
    simp [shortNumber, one, skip, h, hnodigit, closingParen, literal, hblanks]
  | digits d e hd he =>
    refine hread _ ?_
    rw [chars, List.cons_append, labelled?_cons (isBlank_of_isDigit hd)
      (by rintro rfl; revert hd; decide), hletterless d _ hd]
    simp [shortNumber, one, skip, hd, he, closingParen, literal, hblanks]

end Label

namespace WrittenChoice

variable (c : WrittenChoice)

lemma stripMarkers_body :
    stripMarkers (c.text.chars ++ if c.isMarked then mark else []) =
      (c.text.chars, c.isMarked) := by
  cases c.isMarked with
  | true => exact stripMarkers_append_mark c.no_markers c.text.strip_chars c.text.ne_nil
  | false => simpa using c.no_markers

lemma readChoice?_line : readChoice? c.line = some c.choice := by
  rw [line, c.label.readChoice?_chars (c.text.startsPlain_append _), stripMarkers_body, choice]

lemma exists_line_eq_cons : ∃ d rest, c.line = d :: rest ∧ isBlank d = false ∧
    d ≠ '#' ∧ d ≠ '`' ∧ d ≠ '~' := by
  obtain ⟨d, rest, hchars, hother⟩ := c.label.exists_chars_eq_cons
  have hblank := c.label.isBlank_of_mem_chars d (by rw [hchars]; exact List.mem_cons_self)
  exact ⟨d, _, by rw [line, hchars, List.cons_append], hblank, hother⟩

lemma newline_notMem_line : '\n' ∉ c.line := by
  have hlabel := newline_notMem_of_not_blank c.label.isBlank_of_mem_chars
  have htext := c.text.newline_notMem
  cases hmarked : c.isMarked <;> simp [line, hmarked, hlabel, htext, mark]

end WrittenChoice

/-! ### Headers and headings -/

lemma isBlank_of_isIdChar (h : isIdChar c = true) : isBlank c = false := by
  have hascii : c.toNat < 128 := by
    simp only [isIdChar, Bool.or_eq_true, beq_iff_eq] at h
    rcases h with (h | rfl) | rfl
    · exact toNat_lt_of_isAlphanum h
    · decide
    · decide
  exact forall_ascii (P := fun c => isIdChar c = true → isBlank c = false) (by decide) hascii h

lemma endsPlain_tagOf (n : Numeral) : EndsPlain (tagOf n) := by
  have htag : tagOf n = ' ' :: '[' :: (n.chars ++ " pts".toList) ++ [']'] := by simp [tagOf]
  have hbracket : EndsPlain [']'] := by simp [EndsPlain, show isBlank ']' = false by decide]
  rw [htag]
  exact hbracket.append (by simp) _

lemma newline_notMem_tagOf (n : Numeral) : '\n' ∉ tagOf n := by
  have hdigits : ∀ c ∈ n.whole ++ n.fraction, isBlank c = false :=
    fun c hc => isBlank_of_isDigit (n.isDigit_of_mem c hc)
  obtain ⟨hwhole, hfraction⟩ := List.forall_mem_append.mp hdigits
  have hchars : '\n' ∉ n.chars := by
    refine newline_notMem_of_not_blank (List.forall_mem_append.mpr ⟨hwhole, ?_⟩)
    cases hds : n.fraction with
    | nil => simp [Numeral.tail]
    | cons d ds =>
      rw [hds] at hfraction
      exact List.forall_mem_cons.mpr ⟨by decide, hfraction⟩
  simp [tagOf, hchars]

namespace WrittenQuestion

variable (q : WrittenQuestion)

lemma endsPlain_tagged : EndsPlain q.tagged := by
  rw [tagged]
  cases q.points with
  | none => simpa using q.stem.endsPlain
  | some n => exact (endsPlain_tagOf n).append (by simp [tagOf]) _

lemma strip_headerText : strip q.headerText = q.headerText := by
  obtain ⟨d, ds, hid⟩ := List.exists_cons_of_ne_nil q.id_ne_nil
  have hd : isBlank d = false :=
    isBlank_of_isIdChar (q.isIdChar_of_mem d (by rw [hid]; exact List.mem_cons_self))
  have htagged : q.tagged ≠ [] := by simp [tagged, q.stem.ne_nil]
  have htext : q.headerText = q.id ++ ['.', ' '] ++ q.tagged := by simp [headerText]
  rw [strip_eq_self_iff, htext]
  constructor
  · rw [hid]
    exact startsPlain_cons hd
  · exact q.endsPlain_tagged.append htagged _

lemma leadingId?_headerText : leadingId? q.headerText = some (q.id, q.tagged) := by
  have hpoint : isIdChar '.' = false := by decide
  have htake : q.headerText.takeWhile isIdChar = q.id := by
    rw [headerText, takeWhile_append_cons hpoint, List.takeWhile_eq_self_iff]
    exact q.isIdChar_of_mem
  have hdrop : q.headerText.dropWhile isIdChar = '.' :: ' ' :: q.tagged := by
    rw [headerText, dropWhile_append_cons hpoint, List.dropWhile_eq_nil_iff.mpr q.isIdChar_of_mem,
      List.nil_append]
  have hblanks : dropBlanks q.tagged = q.tagged :=
    dropBlanks_eq_self_iff.mpr (q.stem.startsPlain_append _)
  obtain ⟨d, ds, hid⟩ := List.exists_cons_of_ne_nil q.id_ne_nil
  unfold leadingId?
  rw [htake, hdrop, hid]
  simp [hblanks, isBlank_space]

lemma splitPoints_tagged :
    splitPoints q.tagged = (q.points.map Numeral.value, q.stem.chars) := by
  have hnone := splitAtMatch_eq_none_iff.mpr q.no_tag
  rw [tagged]
  cases q.points with
  | none =>
    rw [Option.map_none, Option.getD_none, List.append_nil, splitPoints, hnone]
    rfl
  | some n => exact splitPoints_append_tagOf n q.stem.endsPlain hnone

/-- A header says the id, the points and the stem that were written. -/
lemma readHeader_headerText : readHeader q.headerText =
    ⟨some q.id, q.points.map Numeral.value, none, q.stem.chars⟩ := by
  have hid : splitId q.headerText = (some q.id, q.tagged) := by
    rw [splitId, leadingId?_headerText]
  have huntagged : untagged q.headerText = q.stem.chars := by
    rw [untagged, hid, splitPoints_tagged]
  have hanswer : splitAnswer q.stem.chars = (none, q.stem.chars) := by
    rw [splitAnswer, q.no_arrow]
  rw [readHeader_eq, huntagged, hid, splitPoints_tagged, hanswer, q.stem.strip_chars]

lemma questionHeader?_header : questionHeader? q.header = some q.headerText := by
  rw [header, questionHeader?, if_pos isBlank_space, strip_headerText]

lemma heading?_header : heading? q.header = none := by
  have hblank : isBlank '#' = false := by decide
  rw [header, heading?, hblank]
  rfl

lemma newline_notMem_header : '\n' ∉ q.header := by
  have hid := newline_notMem_of_not_blank fun c hc => isBlank_of_isIdChar (q.isIdChar_of_mem c hc)
  have hstem := q.stem.newline_notMem
  cases hpoints : q.points with
  | none => simp [header, headerText, tagged, hpoints, hid, hstem]
  | some n => simp [header, headerText, tagged, hpoints, hid, hstem, newline_notMem_tagOf n]

end WrittenQuestion

namespace WrittenSection

variable (s : WrittenSection)

lemma heading?_heading : heading? s.heading = some s.headingText := by
  have hcons : s.headingText = 'S' :: ("ection: ".toList ++ s.title.chars) := rfl
  have hdrop : dropBlanks s.headingText = s.headingText := rfl
  have hend : dropBlanksEnd s.headingText = s.headingText :=
    dropBlanksEnd_eq_self_iff.mpr (s.title.endsPlain.append s.title.ne_nil _)
  rw [heading, heading?, if_pos isBlank_space, hdrop, hcons]
  dsimp only
  rw [← hcons, hend]

lemma newline_notMem_heading : '\n' ∉ s.heading := by
  have hopening : '\n' ∉ '#' :: ' ' :: "Section: ".toList := by decide
  have hheading : s.heading = '#' :: ' ' :: "Section: ".toList ++ s.title.chars := rfl
  rw [hheading, List.mem_append, not_or]
  exact ⟨hopening, s.title.newline_notMem⟩

lemma sectionPrefix_headingText : sectionPrefix s.headingText = some s.title.chars := by
  have hword : word "section".toList s.headingText = some (':' :: ' ' :: s.title.chars) := rfl
  have hcolon : literal [':'] (dropBlanks (':' :: ' ' :: s.title.chars)) =
      some (' ' :: s.title.chars) := rfl
  have hdrop : dropBlanks (' ' :: s.title.chars) = dropBlanks s.title.chars := rfl
  unfold sectionPrefix
  rw [hword, Option.bind_eq_bind, Option.bind_some, hcolon, Option.bind_some, hdrop,
    dropBlanks_eq_self_iff.mpr s.title.startsPlain]

end WrittenSection

end QuizPreflight.Quiz
