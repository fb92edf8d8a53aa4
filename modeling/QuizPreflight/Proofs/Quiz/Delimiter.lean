import QuizPreflight.Lint.Check
import QuizPreflight.Proofs.Quiz.Cut
import QuizPreflight.Proofs.Text.Trimming
import QuizPreflight.Yaml.Document

/-!
# Delimiters of front matter

Front matter between two delimiter lines ends at the second one when a line between them has text
in it. Blank lines between them may be taken for lines behind the opening delimiter, and then the
second delimiter is passed over if another one closes; with no lines between them it always is.
-/
namespace QuizPreflight.Quiz

open QuizPreflight.Text

/-- Lines, each with its end. -/
def ended (lines : List (List Char)) : List Char := lines.flatMap fun line => line ++ ['\n']

/-- Three dashes and nothing but blanks behind them. -/
def isDelimiter (line : List Char) : Bool := (literal dashes line).any allBlank

/-- A line on its own that does not begin as a delimiter does. -/
structure IsInner (line : List Char) : Prop where
  newline_notMem : '\n' ∉ line
  no_dashes : ¬dashes <+: line

/-- A document of a delimiter line, some lines, another delimiter line and a body. -/
def delimited (lines : List (List Char)) (body : List Char) : List Char :=
  ended (dashes :: (lines ++ [dashes])) ++ body

/-- Whether the front matter between two delimiter lines ends at the second one: there are lines
between them, and if all of these are blank then no line of the body is a delimiter. The last line
of a body is none, as a delimiter ends in a newline. -/
def EndsAtDelimiter (lines : List (List Char)) (body : List Char) : Prop :=
  lines ≠ [] ∧ ((∀ line ∈ lines, allBlank line = true) →
    ∀ line ∈ (splitLines body).dropLast, isDelimiter line = false)

variable {s line blank inner after body : List Char} {lines : List (List Char)}

/-! ### Lines -/

section Lines

@[simp] lemma ended_nil : ended [] = [] := rfl

@[simp] lemma ended_cons (line : List Char) (lines : List (List Char)) :
    ended (line :: lines) = line ++ '\n' :: ended lines := by
  simp [ended]

@[simp] lemma ended_append (lines more : List (List Char)) :
    ended (lines ++ more) = ended lines ++ ended more := List.flatMap_append

lemma count_ended (h : ∀ line ∈ lines, '\n' ∉ line) : (ended lines).count '\n' = lines.length := by
  induction lines with
  | nil => rfl
  | cons line lines ih =>
    obtain ⟨hline, hlines⟩ := List.forall_mem_cons.mp h
    rw [ended_cons, List.count_append, List.count_eq_zero.mpr hline, List.count_cons_self,
      ih hlines, List.length_cons, Nat.zero_add]

lemma newline_notMem_dashes : '\n' ∉ dashes := by decide

lemma IsInner.literal_eq_none (h : IsInner line) : literal dashes line = none := by
  cases hrest : literal dashes line with
  | none => rfl
  | some rest => exact absurd ⟨rest, (eq_append_of_literal hrest).symm⟩ h.no_dashes

/-- A line with text in it ends a run of blank lines. -/
lemma afterBlankLines?_of_text (htext : allBlank line = false) (hline : '\n' ∉ line)
    (s : List Char) : afterBlankLines? (line ++ s) = none := by
  induction line with
  | nil => cases htext
  | cons c line ih =>
    rw [List.mem_cons, not_or] at hline
    rw [allBlank, List.all_cons] at htext
    rw [List.cons_append, afterBlankLines?]
    cases hc : isBlank c with
    | false => rfl
    | true =>
      rw [hc, Bool.true_and] at htext
      rw [if_pos rfl, ih htext hline.2]
      exact if_neg (Ne.symm hline.1)

lemma isSome_afterBlankLines?_append (hline : '\n' ∉ line) (s : List Char) :
    (afterBlankLines? (line ++ '\n' :: s)).isSome = allBlank line := by
  cases htext : allBlank line with
  | true => rw [afterBlankLines?_append htext, Option.isSome_some]
  | false => rw [afterBlankLines?_of_text htext hline, Option.isSome_none]

end Lines

/-! ### Closing delimiters -/

section Closing

/-- A closing delimiter is looked for at newlines alone. -/
lemma untilClosing?_append (h : '\n' ∉ line) (s : List Char) :
    untilClosing? (line ++ s) =
      (untilClosing? s).map fun found => (line ++ found.1, found.2) := by
  induction line with
  | nil => simp
  | cons c line ih =>
    rw [List.mem_cons, not_or] at h
    have hclosing : closing? (c :: (line ++ s)) = none := by
      rw [closing?, literal, if_neg h.1]
      rfl
    rw [List.cons_append, untilClosing?, hclosing, ih h.2]
    cases untilClosing? s <;> rfl

lemma closing?_of_literal (h : literal dashes s = none) : closing? ('\n' :: s) = none := by
  rw [closing?, literal, if_pos rfl, h]
  rfl

lemma closing?_dashes (hbody : afterBlankLines? body = none) :
    closing? ('\n' :: (dashes ++ '\n' :: body)) = some body := by
  have hblank : afterBlankLines? ([] ++ '\n' :: body) = some ((afterBlankLines? body).getD body) :=
    afterBlankLines?_append rfl body
  rw [hbody, Option.getD_none, List.nil_append] at hblank
  rw [closing?, literal, if_pos rfl, literal_append, Option.bind_some, hblank]

/-- Behind lines of which none begins as a delimiter does, the delimiter closes. -/
lemma untilClosing?_ended (hline : '\n' ∉ line) (hlines : ∀ line ∈ lines, IsInner line)
    (hbody : afterBlankLines? body = none) :
    untilClosing? (ended (line :: lines) ++ (dashes ++ '\n' :: body)) =
      some (joinLines (line :: lines), body) := by
  induction lines generalizing line with
  | nil =>
    rw [ended_cons, ended_nil, List.append_assoc, untilClosing?_append hline, List.singleton_append,
      untilClosing?, closing?_dashes hbody]
    simp [joinLines, joinWith]
  | cons next lines ih =>
    obtain ⟨hnext, hlines⟩ := List.forall_mem_cons.mp hlines
    have hnone : closing? ('\n' :: (ended (next :: lines) ++ (dashes ++ '\n' :: body))) = none := by
      refine closing?_of_literal ?_
      rw [ended_cons, List.append_assoc, List.cons_append,
        literal_append_cons newline_notMem_dashes, hnext.literal_eq_none, Option.map_none]
    rw [ended_cons line, List.append_assoc, untilClosing?_append hline, List.cons_append,
      untilClosing?, hnone, ih hnext.newline_notMem hlines, joinLines_cons_cons]
    rfl

lemma untilClosing?_newline (s : List Char) :
    (untilClosing? ('\n' :: s)).isSome =
      ((closing? ('\n' :: s)).isSome || (untilClosing? s).isSome) := by
  rw [untilClosing?]
  cases closing? ('\n' :: s) with
  | some after => rfl
  | none => exact Option.isSome_map

lemma isSome_closing?_append (hline : '\n' ∉ line) (s : List Char) :
    (closing? ('\n' :: (line ++ '\n' :: s))).isSome = isDelimiter line := by
  rw [closing?, literal, if_pos rfl, literal_append_cons newline_notMem_dashes, isDelimiter]
  cases hrest : literal dashes line with
  | none => rfl
  | some rest =>
    have hnewline : '\n' ∉ rest := fun hmem => hline ((suffix_of_literal hrest).subset hmem)
    exact isSome_afterBlankLines?_append hnewline s

lemma untilClosing?_of_line (hline : '\n' ∉ line) : untilClosing? line = none := by
  rw [← List.append_nil line, untilClosing?_append hline]
  rfl

lemma closing?_of_line (hline : '\n' ∉ line) : closing? ('\n' :: line) = none := by
  cases h : closing? ('\n' :: line) with
  | none => rfl
  | some after =>
    obtain ⟨rest, heq, hrest⟩ := exists_of_closing? h
    obtain ⟨before, -, rfl⟩ := exists_of_afterBlankLines? hrest
    rw [(List.cons.inj heq).2] at hline
    simp at hline

/-- The lines of a text but for the last one may close front matter that is open above them. -/
lemma isSome_untilClosing?_joinLines (hne : lines ≠ []) (h : ∀ line ∈ lines, '\n' ∉ line) :
    (untilClosing? ('\n' :: joinLines lines)).isSome = lines.dropLast.any isDelimiter := by
  induction lines with
  | nil => exact absurd rfl hne
  | cons line lines ih =>
    obtain ⟨hline, hlines⟩ := List.forall_mem_cons.mp h
    rw [untilClosing?_newline]
    cases lines with
    | nil =>
      have hjoin : joinLines [line] = line := rfl
      rw [hjoin, closing?_of_line hline, untilClosing?_of_line hline]
      rfl
    | cons next lines =>
      rw [joinLines_cons_cons, isSome_closing?_append hline, untilClosing?_append hline,
        Option.isSome_map, ih (List.cons_ne_nil next lines) hlines, List.dropLast_cons_cons,
        List.any_cons]

end Closing

/-! ### Opening delimiters -/

section Opening

variable {found : List Char × List Char}

lemma openThenClose?_of_text (h : afterBlankLines? s = none) : openThenClose? s = none := by
  induction s with
  | nil => rfl
  | cons c s ih =>
    rw [afterBlankLines?] at h
    rw [openThenClose?]
    split
    · next hblank =>
      rw [if_pos hblank] at h
      cases hs : afterBlankLines? s with
      | some after =>
        rw [hs] at h
        cases h
      | none =>
        rw [hs] at h
        rw [ih hs]
        dsimp only at h ⊢
        split
        · next hc =>
          rw [if_pos hc] at h
          cases h
        · rfl
    · rfl

/-- The opening delimiter takes all blank lines if the front matter closes behind them. -/
lemma openThenClose?_append (hblank : allBlank blank = true) (h : openThenClose? s = some found) :
    openThenClose? (blank ++ s) = some found := by
  induction blank with
  | nil => exact h
  | cons c blank ih =>
    rw [allBlank, List.all_cons, Bool.and_eq_true] at hblank
    rw [List.cons_append, openThenClose?, if_pos hblank.1, ih hblank.2]

lemma openThenClose?_newline (hs : openThenClose? s = none) :
    openThenClose? ('\n' :: s) = untilClosing? s := by
  have hnewline : isBlank '\n' = true := by decide
  rw [openThenClose?, if_pos hnewline, hs]
  exact if_pos rfl

lemma openThenClose?_of_line (hline : '\n' ∉ line) (hs : openThenClose? s = none) :
    openThenClose? (line ++ s) = none := by
  induction line with
  | nil => exact hs
  | cons c line ih =>
    rw [List.mem_cons, not_or] at hline
    rw [List.cons_append, openThenClose?, ih hline.2]
    split
    · exact if_neg (Ne.symm hline.1)
    · rfl

lemma openThenClose?_dashes (s : List Char) : openThenClose? (dashes ++ s) = none := rfl

lemma untilClosing?_dashes (s : List Char) : untilClosing? (dashes ++ s) =
    (untilClosing? s).map fun found => (dashes ++ found.1, found.2) :=
  untilClosing?_append newline_notMem_dashes s

/-- Blank lines are taken for lines behind the opening delimiter where the body closes. -/
lemma openThenClose?_ended_of_blank (hlines : ∀ line ∈ lines, allBlank line = true)
    (h : untilClosing? ('\n' :: body) = some found) :
    openThenClose? ('\n' :: (ended lines ++ (dashes ++ '\n' :: body))) =
      some (dashes ++ found.1, found.2) := by
  induction lines with
  | nil =>
    rw [ended_nil, List.nil_append, openThenClose?_newline (openThenClose?_dashes _),
      untilClosing?_dashes, h]
    rfl
  | cons line lines ih =>
    obtain ⟨hline, hlines⟩ := List.forall_mem_cons.mp hlines
    have hblank : allBlank ('\n' :: line) = true := hline
    rw [ended_cons, List.append_assoc, List.cons_append, ← List.cons_append]
    exact openThenClose?_append hblank (ih hlines)

lemma openThenClose?_nil (h : untilClosing? ('\n' :: body) = none) :
    openThenClose? ('\n' :: (dashes ++ '\n' :: body)) = none := by
  rw [openThenClose?_newline (openThenClose?_dashes _), untilClosing?_dashes, h]
  rfl

/-- With lines between them, the second delimiter closes unless the body does. -/
lemma openThenClose?_ended (hlines : ∀ line ∈ lines, IsInner line)
    (hbody : afterBlankLines? body = none) (hne : lines ≠ [])
    (h : (∀ line ∈ lines, allBlank line = true) → untilClosing? ('\n' :: body) = none) :
    ∃ inner, openThenClose? ('\n' :: (ended lines ++ (dashes ++ '\n' :: body))) =
      some (inner, body) := by
  induction lines with
  | nil => exact absurd rfl hne
  | cons line lines ih =>
    obtain ⟨hline, hinner⟩ := List.forall_mem_cons.mp hlines
    have hclose := untilClosing?_ended hline.newline_notMem hinner hbody
    have hsplit : '\n' :: (ended (line :: lines) ++ (dashes ++ '\n' :: body)) =
        ('\n' :: line) ++ '\n' :: (ended lines ++ (dashes ++ '\n' :: body)) := by simp
    cases hblank : allBlank line with
    | false =>
      have htext : afterBlankLines? (ended (line :: lines) ++ (dashes ++ '\n' :: body)) = none := by
        rw [ended_cons, List.append_assoc]
        exact afterBlankLines?_of_text hblank hline.newline_notMem _
      exact ⟨_, (openThenClose?_newline (openThenClose?_of_text htext)).trans hclose⟩
    | true =>
      have hblanks : allBlank ('\n' :: line) = true := hblank
      by_cases hlast : lines = []
      · subst hlast
        have hnone := openThenClose?_nil (h (by simpa using hblank))
        have hskip : openThenClose? (ended [line] ++ (dashes ++ '\n' :: body)) = none := by
          rw [ended_cons, ended_nil, List.append_assoc]
          exact openThenClose?_of_line hline.newline_notMem hnone
        exact ⟨_, (openThenClose?_newline hskip).trans hclose⟩
      · obtain ⟨inner, hfound⟩ := ih hinner hlast fun hall =>
          h (List.forall_mem_cons.mpr ⟨hblank, hall⟩)
        exact ⟨inner, hsplit ▸ openThenClose?_append hblanks hfound⟩

end Opening

/-! ### Whole documents -/

section Documents

variable {content : String}

lemma afterBlankLines?_of_body (h : ∀ first ∈ (splitLines body).head?, allBlank first = false) :
    afterBlankLines? body = none := by
  obtain ⟨first, lines, hbody⟩ := exists_splitOn_eq_cons '\n' body
  have hnewline : '\n' ∉ first := newline_notMem_of_mem_splitLines (hbody ▸ List.mem_cons_self)
  have htext : allBlank first = false := h first (by rw [splitLines, hbody]; rfl)
  have hjoin := joinLines_splitLines body
  rw [splitLines, hbody] at hjoin
  rw [← hjoin]
  cases lines with
  | nil => exact List.append_nil first ▸ afterBlankLines?_of_text htext hnewline []
  | cons next lines =>
    rw [joinLines_cons_cons]
    exact afterBlankLines?_of_text htext hnewline _

lemma isSome_untilClosing? (body : List Char) :
    (untilClosing? ('\n' :: body)).isSome = (splitLines body).dropLast.any isDelimiter := by
  have hlines : ∀ line ∈ splitLines body, '\n' ∉ line :=
    fun line hline => newline_notMem_of_mem_splitLines hline
  have hsome := isSome_untilClosing?_joinLines (splitOn_ne_nil '\n' body) hlines
  rwa [← splitLines, joinLines_splitLines] at hsome

lemma found_delimited (lines : List (List Char)) (body : List Char) :
    (literal dashes (delimited lines body)).bind openThenClose? =
      openThenClose? ('\n' :: (ended lines ++ (dashes ++ '\n' :: body))) := by
  rw [delimited, ended_cons, List.append_assoc, literal_append, Option.bind_some]
  simp

lemma cut_delimited_of_found (hlines : ∀ line ∈ lines, IsInner line)
    (h : openThenClose? ('\n' :: (ended lines ++ (dashes ++ '\n' :: body))) = some (inner, body)) :
    cut (delimited lines body) = ⟨some inner, body, lines.length + 2⟩ := by
  rw [← found_delimited] at h
  have hinner : (cut (delimited lines body)).inner = some inner := by rw [cut, h]
  have hbody : (cut (delimited lines body)).body = body := by rw [cut, h]
  have hnewline : ∀ line ∈ dashes :: (lines ++ [dashes]), '\n' ∉ line :=
    List.forall_mem_cons.mpr ⟨newline_notMem_dashes, List.forall_mem_append.mpr
      ⟨fun line hline => (hlines line hline).newline_notMem,
        List.forall_mem_singleton.mpr newline_notMem_dashes⟩⟩
  have hoffset : (cut (delimited lines body)).offset = lines.length + 2 := by
    rw [delimited] at hinner hbody ⊢
    rw [offset_of_append hinner hbody, count_ended hnewline]
    simp
  generalize cut (delimited lines body) = c at hinner hbody hoffset ⊢
  obtain ⟨found, rest, offset⟩ := c
  exact Cut.mk.injEq .. ▸ ⟨hinner, hbody, hoffset⟩

/-- Front matter that ends elsewhere ends further down, or there is none. -/
lemma cut_delimited_of_not (hlines : ∀ line ∈ lines, IsInner line)
    (h : ¬EndsAtDelimiter lines body) :
    (cut (delimited lines body)).inner = none ∨
      (cut (delimited lines body)).body.length < body.length := by
  rw [EndsAtDelimiter, not_and_or, not_not, Classical.not_imp] at h
  cases hbody : untilClosing? ('\n' :: body) with
  | none =>
    have hany := isSome_untilClosing? body
    rw [hbody, Option.isSome_none] at hany
    rcases h with rfl | ⟨-, hlater⟩
    · left
      rw [cut, found_delimited, ended_nil, List.nil_append, openThenClose?_nil hbody]
    · refine absurd (fun line hline => ?_) hlater
      exact Bool.eq_false_iff.mpr (List.any_eq_false.mp hany.symm line hline)
  | some found =>
    right
    have hblank : ∀ line ∈ lines, allBlank line = true := by
      rcases h with rfl | ⟨hblank, -⟩
      · exact fun _ hline => absurd hline List.not_mem_nil
      · exact hblank
    obtain ⟨rest, hrest, hafter⟩ := exists_of_untilClosing? hbody
    obtain ⟨before, -, rfl⟩ := exists_of_afterBlankLines? hafter
    have hlength := congrArg List.length hrest
    simp only [List.length_cons, List.length_append] at hlength
    rw [cut, found_delimited, openThenClose?_ended_of_blank hblank hbody]
    dsimp only
    omega

/-- Front matter between two delimiter lines ends at the second one exactly if there are lines
between them and, where all of these are blank, the body has no delimiter line. Then quizzes are
read and lines scanned from the first line of the body on, with its number in the document. -/
theorem cut_delimited (loader : Yaml.Loader) (hlines : ∀ line ∈ lines, IsInner line)
    (hbody : ∀ first ∈ (splitLines body).head?, allBlank first = false)
    (hcontent : content.toList = delimited lines body) :
    (EndsAtDelimiter lines body ↔
      (cut content.toList).body = body ∧ (cut content.toList).offset = lines.length + 2) ∧
    (EndsAtDelimiter lines body →
      (parse loader content = (readMetadata loader (cut content.toList).inner).bind fun metadata =>
        (pointsOf metadata).map fun default =>
          readBody metadata default (lines.length + 3) body) ∧
      ∀ selection width, Lint.markerFindings content selection width =
        Lint.scanMarkers body (Lint.markerRules.filter (Lint.isSelected selection ·.name)) width
          (lines.length + 2)) := by
  have hends : EndsAtDelimiter lines body → (cut content.toList).body = body ∧
      (cut content.toList).offset = lines.length + 2 := by
    rintro ⟨hne, hclosed⟩
    obtain ⟨inner, hfound⟩ :=
      openThenClose?_ended hlines (afterBlankLines?_of_body hbody) hne fun hblank => by
        have hany := isSome_untilClosing? body
        rw [List.any_eq_false.mpr fun line hline => by simp [hclosed hblank line hline]] at hany
        exact Option.isNone_iff_eq_none.mp (by simpa using hany)
    rw [hcontent, cut_delimited_of_found hlines hfound]
    exact ⟨rfl, rfl⟩
  refine ⟨⟨hends, fun ⟨hrest, hoffset⟩ => ?_⟩, fun h => ?_⟩
  · by_contra hnot
    rw [hcontent] at hrest hoffset
    rcases cut_delimited_of_not hlines hnot with hnone | hshort
    · rw [cut_of_inner_eq_none hnone] at hoffset
      cases hoffset
    · rw [hrest] at hshort
      exact Nat.lt_irrefl _ hshort
  · obtain ⟨hrest, hoffset⟩ := hends h
    refine ⟨?_, fun selection width => ?_⟩
    · unfold parse
      dsimp only
      rw [hrest, hoffset]
      cases readMetadata loader (cut content.toList).inner with
      | error f => rfl
      | ok metadata =>
        cases hpoints : pointsOf metadata <;> simp [hpoints, bind, Except.bind] <;> rfl
    · rw [Lint.markerFindings, hrest, hoffset]
      rfl

/-- Below a line of text, further delimiter lines belong to the body. -/
theorem cut_delimited_text :
    EndsAtDelimiter [[], "a: 1".toList] "## 1. Q\n---\n## 2. R\n".toList ∧
    (cut "---\n\na: 1\n---\n## 1. Q\n---\n## 2. R\n".toList).body =
      "## 1. Q\n---\n## 2. R\n".toList := by
  have hlines : ∀ line ∈ [[], "a: 1".toList], IsInner line :=
    List.forall_mem_cons.mpr ⟨⟨by decide, by decide⟩,
      List.forall_mem_singleton.mpr ⟨by decide, by decide⟩⟩
  have hends : EndsAtDelimiter [[], "a: 1".toList] "## 1. Q\n---\n## 2. R\n".toList :=
    ⟨by decide, fun hblank => absurd (hblank "a: 1".toList (by simp)) (by decide)⟩
  have hbody : ∀ first ∈ (splitLines "## 1. Q\n---\n## 2. R\n".toList).head?,
      allBlank first = false := by decide
  have hcontent : "---\n\na: 1\n---\n## 1. Q\n---\n## 2. R\n".toList =
      delimited [[], "a: 1".toList] "## 1. Q\n---\n## 2. R\n".toList := by decide
  obtain ⟨hiff, -⟩ := cut_delimited Yaml.safeLoader hlines hbody hcontent
  exact ⟨hends, (hiff.mp hends).1⟩

/-- Nothing stands between the delimiter lines, and the front matter goes on to the next one. -/
theorem cut_delimited_nothing :
    delimited [] "## 1. Q\n---\n## 2. R\n".toList =
      "---\n---\n## 1. Q\n---\n## 2. R\n".toList ∧
    cut (delimited [] "## 1. Q\n---\n## 2. R\n".toList) =
      ⟨some "---\n## 1. Q".toList, "## 2. R\n".toList, 4⟩ ∧
    cut (delimited [[]] "## 1. Q\n---\n## 2. R\n".toList) =
      ⟨some "---\n## 1. Q".toList, "## 2. R\n".toList, 5⟩ := by
  decide

end Documents

end QuizPreflight.Quiz
