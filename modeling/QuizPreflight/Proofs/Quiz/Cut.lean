import QuizPreflight.Proofs.Text.Lines
import QuizPreflight.Quiz.Frontmatter

/-!
# Lines below the front matter

Front matter ends with a newline, so the lines of the body are lines of the whole document: those
behind as many as the offset says.
-/
namespace QuizPreflight.Quiz

open QuizPreflight.Text

variable {s t before after rest rest' inner body content : List Char}

/-- Blank lines go up to the last newline of a run of blanks. -/
lemma exists_of_afterBlankLines? (h : afterBlankLines? s = some after) :
    ∃ before, allBlank before = true ∧ s = before ++ '\n' :: after := by
  induction s generalizing after with
  | nil => simp [afterBlankLines?] at h
  | cons c s ih =>
    rw [afterBlankLines?] at h
    split at h
    · next hc =>
      split at h
      · next found hs =>
        obtain rfl : found = after := Option.some.inj h
        obtain ⟨before, hbefore, rfl⟩ := ih hs
        exact ⟨c :: before, by rw [allBlank, List.all_cons, hc, ← allBlank, hbefore]; rfl, rfl⟩
      · split at h
        · next hc => exact ⟨[], rfl, by rw [hc, Option.some.inj h, List.nil_append]⟩
        · cases h
    · cases h

lemma afterBlankLines?_append (h : allBlank before = true) (s : List Char) :
    afterBlankLines? (before ++ '\n' :: s) = some ((afterBlankLines? s).getD s) := by
  have hnewline : isBlank '\n' = true := by decide
  induction before with
  | nil =>
    rw [List.nil_append, afterBlankLines?, if_pos hnewline]
    cases afterBlankLines? s <;> rfl
  | cons c before ih =>
    rw [allBlank, List.all_cons, Bool.and_eq_true] at h
    rw [List.cons_append, afterBlankLines?, if_pos h.1, ih h.2]

lemma exists_of_closing? (h : closing? s = some after) :
    ∃ rest, s = '\n' :: (dashes ++ rest) ∧ afterBlankLines? rest = some after := by
  obtain ⟨rest, hdashes, hrest⟩ := Option.bind_eq_some_iff.mp h
  exact ⟨rest, eq_append_of_literal hdashes, hrest⟩

lemma exists_of_untilClosing? (h : untilClosing? s = some (inner, after)) :
    ∃ rest, s = inner ++ '\n' :: (dashes ++ rest) ∧ afterBlankLines? rest = some after := by
  induction s generalizing inner with
  | nil => simp [untilClosing?] at h
  | cons c s ih =>
    rw [untilClosing?] at h
    split at h
    · next found hclosing =>
      cases h
      exact exists_of_closing? hclosing
    · obtain ⟨⟨piece, found⟩, hs, heq⟩ := Option.map_eq_some_iff.mp h
      cases heq
      obtain ⟨rest, rfl, hrest⟩ := ih hs
      exact ⟨rest, rfl, hrest⟩

lemma exists_of_openThenClose? (h : openThenClose? s = some (inner, after)) :
    ∃ before rest, allBlank before = true ∧
      s = before ++ '\n' :: (inner ++ '\n' :: (dashes ++ rest)) ∧
      afterBlankLines? rest = some after := by
  induction s with
  | nil => simp [openThenClose?] at h
  | cons c s ih =>
    rw [openThenClose?] at h
    split at h
    · next hblank =>
      split at h
      · next found hs =>
        obtain rfl : found = (inner, after) := Option.some.inj h
        obtain ⟨before, rest, hbefore, rfl, hrest⟩ := ih hs
        refine ⟨c :: before, rest, ?_, rfl, hrest⟩
        rw [allBlank, List.all_cons, hblank, ← allBlank, hbefore]
        rfl
      · split at h
        · next hc =>
          obtain ⟨rest, rfl, hrest⟩ := exists_of_untilClosing? h
          exact ⟨[], rest, rfl, by rw [hc, List.nil_append], hrest⟩
        · cases h
    · cases h

/-- The parts of a document with front matter. -/
lemma exists_of_found (h : (literal dashes content).bind openThenClose? = some (inner, body)) :
    ∃ before rest, allBlank before = true ∧
      content = dashes ++ (before ++ '\n' :: (inner ++ '\n' :: (dashes ++ rest))) ∧
      afterBlankLines? rest = some body := by
  obtain ⟨opened, hdashes, hopen⟩ := Option.bind_eq_some_iff.mp h
  obtain ⟨before, rest, hbefore, rfl, hrest⟩ := exists_of_openThenClose? hopen
  exact ⟨before, rest, hbefore, eq_append_of_literal hdashes, hrest⟩

/-- A document without front matter is its body; front matter ends in a newline. -/
theorem cut_cases (content : List Char) : cut content = ⟨none, content, 0⟩ ∨
    ∃ inner front body, content = front ++ '\n' :: body ∧
      cut content = ⟨some inner, body, front.count '\n' + 1⟩ := by
  unfold cut
  split
  · next inner body h =>
    obtain ⟨before, rest, -, hcontent, hrest⟩ := exists_of_found h
    obtain ⟨blank, -, rfl⟩ := exists_of_afterBlankLines? hrest
    obtain ⟨front, hfront⟩ : ∃ front, content = front ++ '\n' :: body :=
      ⟨dashes ++ (before ++ '\n' :: (inner ++ '\n' :: (dashes ++ blank))), by simp [hcontent]⟩
    refine .inr ⟨inner, front, body, hfront, ?_⟩
    have hlength : (front ++ '\n' :: body).length - body.length =
        (front ++ ['\n']).length := by
      simp only [List.length_append, List.length_cons, List.length_nil]
      omega
    rw [hfront, hlength, List.append_cons front '\n' body, List.take_left, List.count_append,
      List.count_singleton_self]
  · exact .inl rfl

lemma exists_of_inner (h : (cut content).inner = some inner) :
    ∃ before rest, allBlank before = true ∧
      content = dashes ++ (before ++ '\n' :: (inner ++ '\n' :: (dashes ++ rest))) ∧
      afterBlankLines? rest = some (cut content).body := by
  unfold cut at h ⊢
  split at h
  · next found body hfound =>
    obtain rfl : found = inner := Option.some.inj h
    exact exists_of_found hfound
  · cases h

/-- The lines of the body are those of the document from the offset on. -/
theorem splitLines_body (content : List Char) :
    splitLines (cut content).body = (splitLines content).drop (cut content).offset := by
  rcases cut_cases content with hcut | ⟨inner, front, body, hcontent, hcut⟩
  · rw [hcut, List.drop_zero]
  · have hfront : (splitOn '\n' front).length = front.count '\n' + 1 := length_splitOn '\n' front
    rw [hcut, hcontent, splitLines, splitLines, splitOn_append_cons, ← hfront, List.drop_left]

/-- The offset is the number of newlines in the front matter. -/
lemma offset_of_append {front : List Char} (hinner : (cut (front ++ body)).inner = some inner)
    (hbody : (cut (front ++ body)).body = body) :
    (cut (front ++ body)).offset = front.count '\n' := by
  rcases cut_cases (front ++ body) with hcut | ⟨found, before, rest, hcontent, hcut⟩
  · rw [hcut] at hinner
    cases hinner
  · rw [hcut] at hbody ⊢
    obtain rfl : rest = body := hbody
    have hfront : front = before ++ ['\n'] := by
      rw [List.append_cons] at hcontent
      exact List.append_cancel_right hcontent
    rw [hfront, List.count_append, List.count_singleton_self]

/-- The blanks in front of the closing delimiter, the inner text among them, are passed over up to
the first character that is none: what stands behind the delimiter does not depend on where the
opening one ends. -/
lemma rest_eq_of_inner {before' : List Char} (hbefore : allBlank before = true)
    (hbefore' : allBlank before' = true)
    (h : before ++ '\n' :: (inner ++ '\n' :: (dashes ++ rest)) =
      before' ++ '\n' :: (inner ++ '\n' :: (dashes ++ rest'))) : rest = rest' := by
  have hdrop : ∀ {before : List Char}, allBlank before = true → ∀ s,
      (before ++ '\n' :: s).dropWhile isBlank = s.dropWhile isBlank := by
    intro before hbefore s
    rw [List.dropWhile_append_of_pos (List.all_eq_true.mp hbefore)]
    rfl
  have hdashes : ∀ s, ('\n' :: (dashes ++ s)).dropWhile isBlank = dashes ++ s := fun s => rfl
  have hsame := congrArg (List.dropWhile isBlank) h
  rw [hdrop hbefore, hdrop hbefore', List.dropWhile_append, List.dropWhile_append, hdashes,
    hdashes] at hsame
  split at hsame
  · exact List.append_cancel_left hsame
  · exact List.append_cancel_left (List.cons.inj (List.append_cancel_left hsame)).2

/-- Under the same front matter another body is found, without the blank lines at its start. -/
lemma body_of_inner {front body' : List Char} (h : (cut (front ++ body)).inner = some inner)
    (hbody : (cut (front ++ body)).body = body) (h' : (cut (front ++ body')).inner = some inner) :
    (cut (front ++ body')).body = (afterBlankLines? body').getD body' := by
  obtain ⟨before, rest, hbefore, hcontent, hrest⟩ := exists_of_inner h
  obtain ⟨before', rest', hbefore', hcontent', hrest'⟩ := exists_of_inner h'
  rw [hbody] at hrest
  obtain ⟨blank, hblank, rfl⟩ := exists_of_afterBlankLines? hrest
  have hfront : front = dashes ++ (before ++ '\n' ::
      (inner ++ '\n' :: (dashes ++ (blank ++ ['\n'])))) := by
    refine List.append_cancel_right (hcontent.trans ?_)
    simp
  have hsame : blank ++ '\n' :: body' = rest' := by
    refine rest_eq_of_inner hbefore hbefore' (List.append_cancel_left (hcontent'.symm.trans ?_)).symm
    rw [hfront]
    simp
  rw [← hsame, afterBlankLines?_append hblank] at hrest'
  exact (Option.some.inj hrest').symm

lemma cut_of_inner_eq_none (h : (cut content).inner = none) : cut content = ⟨none, content, 0⟩ := by
  rcases cut_cases content with hcut | ⟨inner, front, body, -, hcut⟩
  · exact hcut
  · rw [hcut] at h
    cases h

end QuizPreflight.Quiz
