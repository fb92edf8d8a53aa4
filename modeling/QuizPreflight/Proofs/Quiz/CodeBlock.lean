import QuizPreflight.Proofs.Quiz.Attribution
import QuizPreflight.Proofs.Quiz.Solution

/-!
# Code blocks

No line of a code block is active, whatever stands in it, and the lines below the block are read as
at the start. The block goes into the stem of the question above it as it is written. It ends with
the next fence line, though the fence of this line may be of the other kind.
-/
namespace QuizPreflight.Quiz

open QuizPreflight.Text

inductive Fence where
  | backticks
  | tildes
  deriving DecidableEq, Repr

def Fence.mark : Fence → List Char
  | .backticks => "```".toList
  | .tildes => "~~~".toList

/-- Whether a line begins with a fence; blanks may stand in front of it. -/
def Fence.begins (f : Fence) (line : List Char) : Bool :=
  startsWith (literal f.mark) (dropBlanks line)

/-- The lines from one that opens a code block to the next one that begins with a fence, be it of
the same kind or of the other one. -/
structure IsCodeBlock (first : List Char) (inner : List (List Char)) (last : List Char) : Prop where
  opens : ∃ f : Fence, f.begins first = true
  visible : opensSolution first = false
  inside : ∀ line ∈ inner, ∀ f : Fence, f.begins line = false
  closes : ∃ f : Fence, f.begins last = true

/-- The number of the last heading, if it is a question header. -/
def questionAbove (active : List (List Char × Nat)) : Option Nat :=
  ((active.filter fun line => isHeadingLine line.1).getLast?.filter fun line =>
    isQuestionLine line.1).map Prod.snd

variable {p p' : Place} {first last line : List Char} {inner above below lines : List (List Char)}

lemma isFence_iff : isFence line = true ↔ ∃ f : Fence, f.begins line = true := by
  refine Bool.or_eq_true_iff.trans ⟨?_, ?_⟩
  · rintro (h | h)
    · exact ⟨.backticks, h⟩
    · exact ⟨.tildes, h⟩
  · rintro ⟨f, h⟩
    cases f with
    | backticks => exact .inl h
    | tildes => exact .inr h

lemma isFence_eq_false_iff : isFence line = false ↔ ∀ f : Fence, f.begins line = false := by
  simp only [← Bool.not_eq_true, isFence_iff, not_exists]

/-! ### Roles -/

/-- In a code block lines are kept up to the next fence line. -/
lemma assignRoles_of_inFence (hp : p.inFence = true) (hdepth : p.depth ≤ 0)
    (h : ∀ line ∈ lines, isFence line = false) :
    assignRoles p lines = lines.map (fun line => (.verbatim, line)) ∧ p.after lines = p := by
  refine assignRoles_of_forall_step fun line hline => ?_
  rw [Place.step, if_neg (Int.not_lt.mpr hdepth), hp, h line hline]
  rfl

lemma Place.step_of_isFence (hdepth : p.depth ≤ 0) (hline : isFence line = true)
    (hsolution : p.inFence = false → opensSolution line = false) :
    p.step line = (.verbatim, { p with inFence := !p.inFence }) := by
  have hvisible : (!p.inFence && opensSolution line) = false := by
    cases hp : p.inFence with
    | true => rfl
    | false => rw [hsolution hp]; rfl
  rw [step, if_neg (Int.not_lt.mpr hdepth), hvisible, if_neg Bool.false_ne_true, if_pos hline]

/-- A code block is kept as it is, and leads out of itself. -/
lemma assignRoles_of_isCodeBlock (hp : p.IsOutside) (h : IsCodeBlock first inner last) :
    assignRoles p (first :: (inner ++ [last])) =
      (first :: (inner ++ [last])).map (fun line => (.verbatim, line)) ∧
      p.after (first :: (inner ++ [last])) = p := by
  obtain ⟨hinside, hdepth⟩ := hp
  have hfirst : p.step first = (.verbatim, { p with inFence := true }) := by
    have hstep := Place.step_of_isFence hdepth (isFence_iff.mpr h.opens) fun _ => h.visible
    rwa [hinside] at hstep
  have hlast : ({ p with inFence := true } : Place).step last = (.verbatim, p) := by
    have hstep := Place.step_of_isFence (p := { p with inFence := true }) hdepth
      (isFence_iff.mpr h.closes) fun h => by cases h
    rw [hstep]
    obtain ⟨inFence, depth⟩ := p
    dsimp only at hinside ⊢
    rw [hinside, Bool.not_true]
  obtain ⟨hroles, hafter⟩ := assignRoles_of_inFence (p := { p with inFence := true }) rfl hdepth
    fun line hline => isFence_eq_false_iff.mpr (h.inside line hline)
  rw [assignRoles, hfirst, assignRoles_append, hroles, hafter, assignRoles, hlast, List.map_cons,
    List.map_append]
  refine ⟨rfl, ?_⟩
  rw [Place.after] at hafter ⊢
  rw [List.foldl_cons, hfirst, List.foldl_append, hafter, List.foldl_cons, hlast, List.foldl_nil]

lemma activeAmong_append (p : Place) (above below : List (List Char × Nat)) :
    activeAmong p (above ++ below) =
      activeAmong p above ++ activeAmong (p.after (above.map Prod.fst)) below := by
  induction above generalizing p with
  | nil => rfl
  | cons line above ih =>
    rw [List.cons_append, activeAmong, activeAmong, ih]
    split <;> rfl

lemma activeAmong_eq_nil (lines : List (List Char × Nat))
    (h : ∀ line ∈ assignRoles p (lines.map Prod.fst), line.1 ≠ .active) :
    activeAmong p lines = [] := by
  induction lines generalizing p with
  | nil => rfl
  | cons line lines ih =>
    obtain ⟨hline, hlines⟩ := List.forall_mem_cons.mp h
    rw [activeAmong, if_neg hline, ih hlines]

lemma activeAmong_of_alike (h : p.Alike p') (lines : List (List Char × Nat)) :
    activeAmong p lines = activeAmong p' lines := by
  induction lines generalizing p p' with
  | nil => rfl
  | cons line lines ih =>
    obtain ⟨hrole, hplace⟩ := h.step line.1
    rw [activeAmong, activeAmong, hrole, ih hplace]

/-- The active lines of a text with a code block are those above it and those below it. -/
theorem activeAmong_of_isCodeBlock (habove : (p.after above).IsOutside)
    (h : IsCodeBlock first inner last) (n : Nat) :
    activeAmong p ((above ++ (first :: (inner ++ [last]) ++ below)).zipIdx n) =
      activeAmong p (above.zipIdx n) ++
        activeAmong Place.start (below.zipIdx (n + above.length + (inner.length + 2))) := by
  obtain ⟨hroles, hafter⟩ := assignRoles_of_isCodeBlock habove h
  have hnone : activeAmong (p.after above)
      ((first :: (inner ++ [last])).zipIdx (n + above.length)) = [] := by
    refine activeAmong_eq_nil _ fun line hline => ?_
    rw [List.zipIdx_map_fst, hroles] at hline
    obtain ⟨other, -, rfl⟩ := List.mem_map.mp hline
    simp
  have hlength : (first :: (inner ++ [last])).length = inner.length + 2 := by simp
  rw [List.zipIdx_append, List.zipIdx_append, activeAmong_append, activeAmong_append,
    List.zipIdx_map_fst, List.zipIdx_map_fst, hnone, hafter, hlength, List.nil_append,
    activeAmong_of_alike (habove.alike Place.isOutside_start)]

/-! ### The open question -/

section Open

variable {active : List (List Char × Nat)} {heading header : List Char} {n : Nat}

lemma questionAbove_of_heading (h : heading? line = some heading) :
    questionAbove (active ++ [(line, n)]) = none := by
  have hheader := questionHeader?_of_heading? h
  simp [questionAbove, isHeadingLine, isSectionLine, isQuestionLine, h, hheader]

lemma questionAbove_of_header (h : questionHeader? line = some header) :
    questionAbove (active ++ [(line, n)]) = some n := by
  simp [questionAbove, isHeadingLine, isQuestionLine, h]

lemma questionAbove_of_other (h : isHeadingLine line = false) :
    questionAbove (active ++ [(line, n)]) = questionAbove active := by
  simp [questionAbove, h]

namespace Progress

/-- The line of the question that is open. -/
def openLine (p : Progress) : Option Nat := p.pending.map Draft.sourceLine

variable (default : Float) (progress : Progress)

lemma openLine_mapPending {f : Draft → Draft} (hf : ∀ d, (f d).sourceLine = d.sourceLine) :
    ({ progress with pending := progress.pending.map f } : Progress).openLine =
      progress.openLine := by
  rw [openLine, openLine, Option.map_map]
  exact congrArg (progress.pending.map ·) (funext hf)

lemma openLine_readActive (line : List Char) (h : progress.openLine = questionAbove active) :
    (progress.readActive default n line).openLine = questionAbove (active ++ [(line, n)]) := by
  unfold readActive
  cases hheading : heading? line with
  | some heading =>
    rw [questionAbove_of_heading hheading]
    dsimp only
    rw [openLine, pending_readHeading, Option.map_none]
  | none =>
    cases hheader : questionHeader? line with
    | some header =>
      rw [questionAbove_of_header hheader]
      rfl
    | none =>
      have hline := isHeadingLine_eq_false hheading hheader
      rw [questionAbove_of_other hline, ← h]
      dsimp only
      split
      · rfl
      · exact progress.openLine_mapPending fun d => d.sourceLine_readLine line

/-- The question that is open below some lines is the one of the last heading. -/
theorem openLine_readAll (title : String) (place : Place) (first : Nat)
    (lines : List (List Char)) :
    (readAll default first (Progress.start title) (assignRoles place lines)).openLine =
      questionAbove (activeAmong place (lines.zipIdx first)) := by
  induction lines using List.reverseRecOn with
  | nil => rfl
  | append_singleton lines line ih =>
    rw [assignRoles_append, readAll_append, List.zipIdx_append, activeAmong_append,
      List.zipIdx_map_fst, assignRoles_length, assignRoles, assignRoles, readAll, readAll,
      List.zipIdx_cons, List.zipIdx_nil, activeAmong, activeAmong, read]
    dsimp only
    cases ((place.after lines).step line).1 with
    | hidden => rw [if_neg (by decide), List.append_nil, ih]
    | verbatim =>
      rw [if_neg (by decide), List.append_nil, ← ih]
      exact openLine_mapPending _ fun d => rfl
    | active => rw [if_pos rfl, openLine_readActive _ _ _ ih]

end Progress

end Open

/-! ### Stems -/

/-- The question at line `n`, whose stem begins with some lines. -/
structure BeginsStem (n : Nat) (lines : List (List Char)) (q : Question) : Prop where
  sourceLine : q.sourceLine = n
  stem : ∃ more, q.stem = String.ofList (strip (joinLines (lines ++ more)))

/-- The stem of the question at line `n` begins with some lines, whether it is open or not. -/
def Progress.Holds (n : Nat) (lines : List (List Char)) (p : Progress) : Prop :=
  (∃ q ∈ p.questions, BeginsStem n lines q) ∨
    ∃ d ∈ p.pending, d.sourceLine = n ∧ lines <+: d.header :: d.body

namespace Progress

section Holding

variable {n : Nat} {progress progress' : Progress} (default : Float)

lemma Holds.closed (h : progress.Holds n lines) : ∃ q ∈ progress.closed, BeginsStem n lines q := by
  unfold Progress.closed
  rcases h with ⟨q, hq, hbegins⟩ | ⟨d, hd, hline, more, hmore⟩
  · refine ⟨q, ?_, hbegins⟩
    split
    · exact List.mem_append_left _ hq
    · exact hq
  · rw [Option.mem_def.mp hd]
    refine ⟨d.finish, List.mem_append_right _ (List.mem_singleton_self _), ?_, more, ?_⟩
    · exact congrArg Nat.cast hline
    · rw [hmore]
      rfl

lemma Holds.of_closed (h : progress.Holds n lines)
    (hquestions : progress'.questions = progress.closed) : progress'.Holds n lines := by
  obtain ⟨q, hq, hbegins⟩ := h.closed
  exact .inl ⟨q, hquestions ▸ hq, hbegins⟩

lemma Holds.mapPending (h : progress.Holds n lines) {f : Draft → Draft}
    (hf : ∀ d, (f d).sourceLine = d.sourceLine ∧ (f d).header = d.header ∧ d.body <+: (f d).body) :
    ({ progress with pending := progress.pending.map f } : Progress).Holds n lines := by
  rcases h with hquestion | ⟨d, hd, hline, hlines⟩
  · exact .inl hquestion
  · obtain ⟨hsame, hheader, hbody⟩ := hf d
    refine .inr ⟨f d, Option.mem_map_of_mem f hd, hsame.trans hline, ?_⟩
    rw [hheader]
    exact hlines.trans ((List.prefix_cons_inj d.header).mpr hbody)

lemma Holds.addBody (h : progress.Holds n lines) (line : List Char) :
    (progress.addBody line).Holds n lines :=
  h.mapPending fun _ => ⟨rfl, rfl, List.prefix_append _ _⟩

lemma Holds.readActive (h : progress.Holds n lines) (k : Nat) (line : List Char) :
    (progress.readActive default k line).Holds n lines := by
  unfold Progress.readActive
  split
  · exact h.of_closed (progress.questions_readHeading k _)
  · split
    · exact h.of_closed rfl
    · split
      · exact h
      · refine h.mapPending fun d => ?_
        obtain ⟨choices, arrow, more, hread⟩ := d.exists_readLine line
        rw [hread]
        exact ⟨rfl, rfl, List.prefix_append _ _⟩

lemma Holds.read (h : progress.Holds n lines) (k : Nat) (line : Role × List Char) :
    (progress.read default k line).Holds n lines := by
  unfold Progress.read
  split
  · exact h
  · exact h.addBody line.2
  · exact h.readActive default k line.2

/-- What stands at the start of a stem stays there. -/
theorem Holds.readAll (h : progress.Holds n lines) (k : Nat) (below : List (Role × List Char)) :
    (Progress.readAll default k progress below).Holds n lines := by
  induction below generalizing k progress with
  | nil => exact h
  | cons line below ih => exact ih (h.read default k line) (k + 1)

/-- Lines that are kept go to the end of the stem at hand. -/
lemma readAll_verbatim (k : Nat) (progress : Progress) (lines : List (List Char)) :
    Progress.readAll default k progress (lines.map fun line => (.verbatim, line)) =
      { progress with pending :=
          progress.pending.map fun d => { d with body := d.body ++ lines } } := by
  induction lines generalizing k progress with
  | nil => simp [Progress.readAll]
  | cons line lines ih =>
    rw [List.map_cons, Progress.readAll, ih]
    simp [Progress.read, Progress.addBody, Option.map_map, Function.comp_def]

lemma holds_verbatim (h : progress.openLine = some n) (k : Nat) (lines : List (List Char)) :
    ∃ top, (Progress.readAll default k progress (lines.map fun line => (.verbatim, line))).Holds n
      (top ++ lines) := by
  obtain ⟨d, hd, hline⟩ := Option.map_eq_some_iff.mp h
  refine ⟨d.header :: d.body, .inr ⟨{ d with body := d.body ++ lines }, ?_, hline, ?_⟩⟩
  · rw [readAll_verbatim, hd]
    rfl
  · exact List.prefix_rfl

end Holding

end Progress

lemma exists_not_blank_of_isFence (h : isFence line = true) : ∃ c ∈ line, isBlank c = false := by
  by_contra hnone
  have hblank : allBlank line = true :=
    List.all_eq_true.mpr fun c hc => Bool.not_eq_false _ |>.mp fun hplain => hnone ⟨c, hc, hplain⟩
  rw [isFence_of_allBlank hblank] at h
  cases h

/-- Lines between two that are not blank are lines of the trimmed text. -/
lemma infix_splitLines_strip {top more : List (List Char)}
    (hfirst : ∃ c ∈ first, isBlank c = false) (hlast : ∃ c ∈ last, isBlank c = false)
    (hinner : ∀ line ∈ inner, '\n' ∉ line) :
    inner <:+: splitLines (strip (joinLines (top ++ first :: (inner ++ [last]) ++ more))) := by
  by_cases hne : inner = []
  · exact hne ▸ List.nil_infix
  have hjoined : joinLines (top ++ first :: (inner ++ [last]) ++ more) =
      joinLines (top ++ [first]) ++
        ('\n' :: (joinLines inner ++ ['\n']) ++ joinLines (last :: more)) := by
    have hlines : top ++ first :: (inner ++ [last]) ++ more =
        (top ++ [first]) ++ (inner ++ last :: more) := by simp
    rw [hlines, joinLines_append (by simp) (by simp), joinLines_append hne (by simp)]
    simp
  have habove : ∃ c ∈ joinLines (top ++ [first]), isBlank c = false := by
    obtain ⟨c, hc, hplain⟩ := hfirst
    exact ⟨c, subset_joinLines (List.mem_append_right _ (List.mem_singleton_self first)) hc, hplain⟩
  have hbelow : ∃ c ∈ joinLines (last :: more), isBlank c = false := by
    obtain ⟨c, hc, hplain⟩ := hlast
    exact ⟨c, subset_joinLines List.mem_cons_self hc, hplain⟩
  obtain ⟨s, t, hstrip⟩ := exists_strip_append habove hbelow ('\n' :: (joinLines inner ++ ['\n']))
  have hseparated : s ++ ('\n' :: (joinLines inner ++ ['\n']) ++ t) =
      s ++ '\n' :: (joinLines inner ++ '\n' :: t) := by simp
  rw [hjoined, hstrip, hseparated, splitLines, splitOn_append_cons, splitOn_append_cons,
    ← splitLines, ← splitLines, splitLines_joinLines hne hinner, ← List.append_assoc]
  exact List.infix_append _ _ _

/-! ### Whole documents -/

section Documents

variable {loader : Yaml.Loader} {content : String} {quiz : Quiz} {n : Nat}

/-- The active lines of a text of its own, the first line of which has number `n`. -/
def activeFrom (n : Nat) (lines : List (List Char)) : List (List Char × Nat) :=
  activeAmong Place.start (lines.zipIdx n)

/-- A quiz whose questions and sections are those of some active lines. -/
structure ReadsAs (active : List (List Char × Nat)) (quiz : Quiz) : Prop where
  places : quiz.questions.map questionPlace = (blocksOf active).map Block.place
  attributed : List.Forall₂ (Attributed quiz.sections) (blocksOf active) quiz.questions
  sections : quiz.sections.map Section.sourceLine =
    ((active.filter fun line => isSectionLine line.1).eraseP fun line =>
      isTitleLine line.1).map fun line => (line.2 : Int)

lemma readsAs_of_parse (h : parse loader content = .ok quiz) :
    ReadsAs (activeLines content.toList) quiz :=
  ⟨map_questionPlace_of_parse h, attributed_of_parse h, map_sourceLine_sections_of_parse h⟩

lemma activeLines_of_isCodeBlock
    (hlines : splitLines (cut content.toList).body =
      above ++ (first :: (inner ++ [last]) ++ below))
    (habove : (Place.start.after above).IsOutside) (hblock : IsCodeBlock first inner last) :
    activeLines content.toList =
      activeFrom ((cut content.toList).offset + 1) above ++
        activeFrom ((cut content.toList).offset + 1 + above.length + (inner.length + 2)) below := by
  rw [activeLines_eq, hlines, activeAmong_of_isCodeBlock habove hblock]
  rfl

/-- A code block stands in the stem of the question above it. -/
lemma readBody_of_isCodeBlock (metadata : Metadata) (default : Float) (k : Nat) {body : List Char}
    (hlines : splitLines body = above ++ (first :: (inner ++ [last]) ++ below))
    (habove : (Place.start.after above).IsOutside) (hblock : IsCodeBlock first inner last)
    (hquestion : questionAbove (activeFrom k above) = some n) :
    ∃ q ∈ (readBody metadata default k body).questions, q.sourceLine = n ∧
      inner <:+: splitLines q.stem.toList := by
  obtain ⟨hroles, -⟩ := assignRoles_of_isCodeBlock habove hblock
  have hopen := Progress.openLine_readAll default (titleOf metadata) Place.start k above
  obtain ⟨top, hholds⟩ := Progress.holds_verbatim default (hopen.trans hquestion)
    (k + (assignRoles Place.start above).length) (first :: (inner ++ [last]))
  obtain ⟨q, hq, hline, more, hstem⟩ := (hholds.readAll default
    (k + (assignRoles Place.start above).length +
      (assignRoles (Place.start.after above) (first :: (inner ++ [last]))).length)
    (assignRoles ((Place.start.after above).after (first :: (inner ++ [last]))) below)).closed
  refine ⟨q, ?_, hline, ?_⟩
  · unfold readBody
    dsimp only
    rw [hlines, assignRoles_append, assignRoles_append, Progress.readAll_append,
      Progress.readAll_append]
    rw [← hroles] at hq
    exact hq
  · have hinner : ∀ line ∈ inner, '\n' ∉ line := by
      intro line hline
      have hmem : line ∈ splitLines body := by simp [hlines, hline]
      exact newline_notMem_of_mem_splitLines hmem
    rw [hstem, String.toList_ofList]
    exact infix_splitLines_strip (exists_not_blank_of_isFence (isFence_iff.mpr hblock.opens))
      (exists_not_blank_of_isFence (isFence_iff.mpr hblock.closes)) hinner

/-- Nothing is read from a code block: questions and sections are those of the active lines above
it and of the lines below it, which are read as at the start. All its lines stand in the stem of the
question above it. The block ends at the next line that begins with a fence of either kind. -/
theorem parse_codeBlock (h : parse loader content = .ok quiz)
    (hlines : splitLines (cut content.toList).body =
      above ++ (first :: (inner ++ [last]) ++ below))
    (habove : (Place.start.after above).IsOutside) (hblock : IsCodeBlock first inner last) :
    activeLines content.toList =
      activeFrom ((cut content.toList).offset + 1) above ++
        activeFrom ((cut content.toList).offset + 1 + above.length + (inner.length + 2)) below ∧
    ReadsAs (activeLines content.toList) quiz ∧
    ∀ n, questionAbove (activeFrom ((cut content.toList).offset + 1) above) = some n →
      ∃ q ∈ quiz.questions, q.sourceLine = n ∧ inner <:+: splitLines q.stem.toList := by
  refine ⟨activeLines_of_isCodeBlock hlines habove hblock, readsAs_of_parse h, fun n hn => ?_⟩
  obtain ⟨metadata, default, -, -, rfl⟩ := parse_eq_ok_iff.mp h
  exact readBody_of_isCodeBlock metadata default _ hlines habove hblock hn

/-- Headings, a choice with an arrow behind it and a solution, none of which counts. -/
def untidyCode : List (List Char) :=
  ["# No".toList, "## 2. No".toList, "  a) no -> false".toList, [], "<div class='solution'>".toList]

def untidyCodeText : String :=
  "---\n\n---\n## 1. Q\n  ```lean\n# No\n## 2. No\n  a) no -> false\n\n<div class='solution'>\n" ++
    "```\n-> true"

/-- The question offers only what its answer below the code block names. -/
theorem parse_untidy_code : ∃ quiz, parse Yaml.safeLoader untidyCodeText = .ok quiz ∧
    quiz.questions.map questionPlace = [(4, [⟨"True", true⟩, ⟨"False", false⟩])] ∧
    quiz.sections.map Section.sourceLine = [] ∧
    ∃ q ∈ quiz.questions, q.sourceLine = 4 ∧ untidyCode <:+: splitLines q.stem.toList := by
  obtain ⟨quiz, h⟩ : ∃ quiz, parse Yaml.safeLoader untidyCodeText = .ok quiz := ⟨_, rfl⟩
  have hinside : (untidyCode.all fun line => !isFence line) = true := by decide
  have hblock : IsCodeBlock "  ```lean".toList untidyCode "```".toList :=
    { opens := ⟨.backticks, by decide⟩
      visible := by decide
      inside := fun line hline => isFence_eq_false_iff.mp
        (by simpa using List.all_eq_true.mp hinside line hline)
      closes := ⟨.backticks, by decide⟩ }
  have hlines : splitLines (cut untidyCodeText.toList).body =
      ["## 1. Q".toList] ++ ("  ```lean".toList :: (untidyCode ++ ["```".toList]) ++
        ["-> true".toList]) := by decide
  have hoffset : (cut untidyCodeText.toList).offset = 3 := by decide
  obtain ⟨hactive, hreads, hstem⟩ :=
    parse_codeBlock h hlines ⟨by decide, by decide⟩ hblock
  rw [hactive, hoffset] at hreads
  rw [hoffset] at hstem
  exact ⟨quiz, h, hreads.places.trans (by decide), hreads.sections.trans (by decide),
    hstem 4 (by decide)⟩

/-- The tildes end the block, so that the header below them counts and the backticks open another
block. -/
theorem parse_mixed_fences : ∃ quiz,
    parse Yaml.safeLoader "## 1. Q\n```\n~~~\n## 2. R\n```" = .ok quiz ∧
    quiz.questions.map (fun q => (q.sourceLine, q.stem)) = [(1, "Q\n```\n~~~"), (4, "R\n```")] :=
  ⟨_, rfl, rfl⟩

end Documents

end QuizPreflight.Quiz
