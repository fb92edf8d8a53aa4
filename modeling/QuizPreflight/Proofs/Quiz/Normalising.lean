import QuizPreflight.Proofs.Lint.BareMark
import QuizPreflight.Proofs.Quiz.Cut

/-!
# Documents with line endings of two conventions

Normalising a document whose carriage returns all end lines normalises the parts that it is cut
into. Its questions are those of the document itself, with normalised stems, unless a bare mark
stands before a return.
-/
namespace QuizPreflight

/-- The same question with a normalised stem. -/
def Question.normalised (q : Question) : Question := { q with stem := Text.normalised q.stem }

namespace Quiz

open QuizPreflight.Text

/-! ### Front matter -/

section Frontmatter

variable {s p content : List Char}

lemma count_normaliseNewlines (h : ReturnsEndLines s) :
    (normaliseNewlines s).count '\n' = s.count '\n' := by
  induction h with
  | nil => rw [normaliseNewlines_nil]
  | char hc h ih => rw [normaliseNewlines_cons hc, List.count_cons, List.count_cons, ih]
  | ending h ih =>
    rw [normaliseNewlines_ending, List.count_cons_self, ih, List.count_cons_of_ne (by decide),
      List.count_cons_self]

lemma literal_normaliseNewlines (hreturn : '\r' ∉ p) (hnewline : '\n' ∉ p)
    (h : ReturnsEndLines s) :
    literal p (normaliseNewlines s) = (literal p s).map normaliseNewlines := by
  induction p generalizing s with
  | nil => rfl
  | cons c p ih =>
    rw [List.mem_cons, not_or] at hreturn hnewline
    cases h with
    | nil => rfl
    | @char d s hd h =>
      rw [normaliseNewlines_cons hd, literal, literal]
      split
      · exact ih hreturn.2 hnewline.2 h
      · rfl
    | ending h =>
      rw [normaliseNewlines_ending, literal, literal, if_neg (Ne.symm hnewline.1),
        if_neg (Ne.symm hreturn.1)]
      rfl

lemma afterBlankLines?_normaliseNewlines (h : ReturnsEndLines s) :
    afterBlankLines? (normaliseNewlines s) = (afterBlankLines? s).map normaliseNewlines := by
  induction h with
  | nil => rfl
  | @char c s hc h ih =>
    rw [normaliseNewlines_cons hc, afterBlankLines?, afterBlankLines?, ih]
    split
    · cases afterBlankLines? s with
      | some after => rfl
      | none =>
        rw [Option.map_none]
        dsimp only
        split <;> rfl
    · rfl
  | @ending s h ih =>
    rw [normaliseNewlines_ending, afterBlankLines?, afterBlankLines?, afterBlankLines?, ih,
      if_pos isBlank_newline, if_pos isBlank_return]
    cases afterBlankLines? s <;> rfl

lemma dashes_plain : '\r' ∉ dashes ∧ '\n' ∉ dashes := by decide

lemma closing?_normaliseNewlines {c : Char} (hc : c ≠ '\r') (h : ReturnsEndLines s) :
    closing? (normaliseNewlines (c :: s)) = (closing? (c :: s)).map normaliseNewlines := by
  have hdashes := literal_normaliseNewlines dashes_plain.1 dashes_plain.2 h
  rw [normaliseNewlines_cons hc, closing?, closing?, literal, literal]
  split
  · rw [hdashes]
    cases hrest : literal dashes s with
    | none => rfl
    | some rest =>
      exact afterBlankLines?_normaliseNewlines (h.of_suffix (suffix_of_literal hrest))
  · rfl

/-- The parts of a document, normalised. The return in front of the closing delimiter belongs to
the line ending that is not a part of the inner text. -/
def normalisedParts (parts : List Char × List Char) : List Char × List Char :=
  (normaliseNewlines (dropReturn parts.1), normaliseNewlines parts.2)

lemma normalisedParts_cons {c : Char} (hc : c ≠ '\r') (inner after : List Char) :
    normalisedParts (c :: inner, after) =
      (c :: (normalisedParts (inner, after)).1, (normalisedParts (inner, after)).2) := by
  rw [normalisedParts, dropReturn_cons hc, normaliseNewlines_cons hc]
  rfl

lemma normalisedParts_ending (inner after : List Char) :
    normalisedParts ('\r' :: '\n' :: inner, after) =
      ('\n' :: (normalisedParts (inner, after)).1, (normalisedParts (inner, after)).2) := by
  have hdrop : dropReturn ('\r' :: '\n' :: inner) = '\r' :: '\n' :: dropReturn inner := by
    cases inner with
    | nil => rfl
    | cons d inner =>
      rw [dropReturn, dropReturn, List.getLast?_cons_cons, List.getLast?_cons_cons]
      split <;> rfl
  rw [normalisedParts, hdrop, normaliseNewlines_ending]
  rfl

lemma untilClosing?_normaliseNewlines (h : ReturnsEndLines s) :
    untilClosing? (normaliseNewlines s) = (untilClosing? s).map normalisedParts := by
  induction h with
  | nil => rfl
  | @char c s hc h ih =>
    have hclosing := closing?_normaliseNewlines hc h
    rw [normaliseNewlines_cons hc] at hclosing ⊢
    rw [untilClosing?, untilClosing?, hclosing]
    cases closing? (c :: s) with
    | some after => rfl
    | none =>
      rw [ih]
      cases untilClosing? s with
      | none => rfl
      | some parts => exact congrArg some (normalisedParts_cons hc parts.1 parts.2).symm
  | @ending s h ih =>
    have hclosing := closing?_normaliseNewlines (c := '\n') (by decide) h
    have hreturn : closing? ('\r' :: '\n' :: s) = none := rfl
    rw [normaliseNewlines_cons (by decide)] at hclosing
    rw [normaliseNewlines_ending, untilClosing?, untilClosing?, untilClosing?, hclosing, hreturn]
    cases closing? ('\n' :: s) with
    | some after => rfl
    | none =>
      rw [ih]
      cases untilClosing? s with
      | none => rfl
      | some parts => exact congrArg some (normalisedParts_ending parts.1 parts.2).symm

lemma openThenClose?_normaliseNewlines (h : ReturnsEndLines s) :
    openThenClose? (normaliseNewlines s) = (openThenClose? s).map normalisedParts := by
  induction h with
  | nil => rfl
  | @char c s hc h ih =>
    rw [normaliseNewlines_cons hc, openThenClose?, openThenClose?, ih,
      untilClosing?_normaliseNewlines h]
    split
    · cases openThenClose? s with
      | some found => rfl
      | none =>
        rw [Option.map_none]
        dsimp only
        split <;> rfl
    · rfl
  | @ending s h ih =>
    rw [normaliseNewlines_ending, openThenClose?, openThenClose?, openThenClose?, ih,
      untilClosing?_normaliseNewlines h, if_pos isBlank_newline, if_pos isBlank_return]
    cases openThenClose? s with
    | some found => rfl
    | none => cases untilClosing? s <;> rfl

lemma body_suffix (content : List Char) : (cut content).body <:+ content := by
  rcases cut_cases content with hcut | ⟨inner, front, body, hcontent, hcut⟩
  · rw [hcut]
  · rw [hcut, hcontent]
    exact (List.suffix_cons '\n' body).trans (List.suffix_append front _)

lemma offset_add_count (content : List Char) :
    (cut content).offset + (cut content).body.count '\n' = content.count '\n' := by
  rcases cut_cases content with hcut | ⟨inner, front, body, hcontent, hcut⟩
  · rw [hcut, Nat.zero_add]
  · rw [hcut, hcontent, List.count_append, List.count_cons_self]
    dsimp only
    omega

/-- A document is cut where the normalised one is. -/
theorem cut_normaliseNewlines (h : ReturnsEndLines content) :
    cut (normaliseNewlines content) =
      ⟨(cut content).inner.map fun inner => normaliseNewlines (dropReturn inner),
        normaliseNewlines (cut content).body, (cut content).offset⟩ := by
  have hfound : (literal dashes (normaliseNewlines content)).bind openThenClose? =
      ((literal dashes content).bind openThenClose?).map normalisedParts := by
    rw [literal_normaliseNewlines dashes_plain.1 dashes_plain.2 h]
    cases hrest : literal dashes content with
    | none => rfl
    | some rest =>
      exact openThenClose?_normaliseNewlines (h.of_suffix (suffix_of_literal hrest))
  have hparts : (cut (normaliseNewlines content)).inner =
        (cut content).inner.map (fun inner => normaliseNewlines (dropReturn inner)) ∧
      (cut (normaliseNewlines content)).body = normaliseNewlines (cut content).body := by
    rw [cut, cut, hfound]
    cases (literal dashes content).bind openThenClose? with
    | none => exact ⟨rfl, rfl⟩
    | some parts => exact ⟨rfl, rfl⟩
  -- the lines above the body are as many, since there are as many on the whole
  have hoffset := offset_add_count (normaliseNewlines content)
  rw [hparts.2, count_normaliseNewlines h,
    count_normaliseNewlines (h.of_suffix (body_suffix content)), ← offset_add_count content,
    Nat.add_right_cancel_iff] at hoffset
  rw [← hparts.1, ← hparts.2, ← hoffset]

end Frontmatter

/-! ### Lines -/

section Lines

variable {line heading heading' : List Char}

lemma step_dropReturn (p : Place) (line : List Char) : p.step (dropReturn line) = p.step line := by
  rcases dropReturn_cases line with hline | hline
  · rw [← hline]
  · rw [hline, step_append_return, dropReturn_append]

lemma assignRoles_map_dropReturn (p : Place) (lines : List (List Char)) :
    assignRoles p (lines.map dropReturn) =
      (assignRoles p lines).map fun x => (x.1, dropReturn x.2) := by
  induction lines generalizing p with
  | nil => rfl
  | cons line lines ih =>
    rw [List.map_cons, assignRoles, assignRoles, List.map_cons, step_dropReturn, ih]

lemma sectionPrefix_of_allBlank (h : allBlank line = true) : sectionPrefix line = none := by
  cases line with
  | nil => rfl
  | cons c line =>
    have hc : isBlank c = true := List.all_eq_true.mp h c List.mem_cons_self
    have hletter : sameLetter 's' c = false := by
      have hne : ∀ d : Char, isBlank d = false → (c == d) = false := by
        rintro d hd
        rw [beq_eq_false_iff_ne]
        rintro rfl
        rw [hc] at hd
        cases hd
      rw [sameLetter, toLower_of_isBlank hc, hne 's' (by decide), hne '\u017f' (by decide)]
      rfl
    simp [sectionPrefix, word, hletter]

/-- Headings of blanks alone are read alike. -/
lemma readHeading_of_sameHeading (p : Progress) (n : Nat) (h : SameHeading heading heading') :
    p.readHeading n heading' = p.readHeading n heading := by
  rcases h with rfl | ⟨hblank, hblank'⟩
  · rfl
  · have hname : ∀ {s : List Char}, allBlank s = true →
        startsWith sectionPrefix s = false ∧ strip (skip sectionPrefix s) = [] := by
      intro s hs
      rw [startsWith, skip, sectionPrefix_of_allBlank hs]
      exact ⟨rfl, by rw [Option.getD_none, strip, dropBlanks_of_allBlank hs]; rfl⟩
    unfold Progress.readHeading
    rw [(hname hblank).1, (hname hblank).2, (hname hblank').1, (hname hblank').2]

/-- A return at the end of a line is of no account, unless there is a bare mark before it. -/
theorem readActive_append_return (p : Progress) (default : Float) (n : Nat)
    (h : isBareMark line = false) :
    p.readActive default n (line ++ ['\r']) = p.readActive default n line := by
  have hheading := heading?_append_return h
  have hblank := allBlank_of_trails (trails_append line)
  have hdraft : ∀ d : Draft, d.readLine (line ++ ['\r']) = d.readLine line := by
    intro d
    rw [Draft.readLine, Draft.readLine, readChoice?_append_return h, splitArrow_append_return,
      (trails_append line).strip]
  unfold Progress.readActive
  rw [questionHeader?_append_return h, hblank]
  simp only [hdraft]
  generalize heading? line = a, heading? (line ++ ['\r']) = b at hheading
  cases hheading with
  | none => rfl
  | some hsame => exact readHeading_of_sameHeading p n hsame

end Lines

/-! ### Questions -/

/-- No return stands in a draft but at the ends of its lines. -/
structure Draft.IsTidy (d : Draft) : Prop where
  header : '\r' ∉ d.header
  body : ∀ line ∈ d.body, '\r' ∉ dropReturn line

/-- The same draft with lines that have no returns. -/
def Draft.unreturned (d : Draft) : Draft := { d with body := d.body.map dropReturn }

/-- Two readings of which the second has come across no returns. -/
structure Progress.Unreturned (p p' : Progress) : Prop where
  title : p'.title = p.title
  titleSeen : p'.titleSeen = p.titleSeen
  type : p'.type = p.type
  sectionTitle : p'.sectionTitle = p.sectionTitle
  questions : p'.questions = p.questions.map Question.normalised
  sections : p'.sections = p.sections
  pending : p'.pending = p.pending.map Draft.unreturned
  tidy : ∀ d ∈ p.pending, d.IsTidy

section Drafts

variable {d : Draft} {line header : List Char}

lemma Draft.IsTidy.finish (h : d.IsTidy) : d.unreturned.finish = d.finish.normalised := by
  have hlines : ∀ line ∈ d.header :: d.body, '\r' ∉ dropReturn line := by
    refine List.forall_mem_cons.mpr ⟨?_, h.body⟩
    rw [dropReturn_of_notMem h.header]
    exact h.header
  have hstem : d.unreturned.stem = normaliseNewlines d.stem := by
    rw [Draft.stem, Draft.stem, ← strip_joinLines_dropReturn hlines, List.map_cons,
      dropReturn_of_notMem h.header]
    rfl
  rw [Draft.finish, hstem, Draft.finish, Question.normalised, Text.normalised,
    String.toList_ofList]
  rfl

lemma strip_subset (s : List Char) : strip s ⊆ s := fun _ hc =>
  (dropBlanks_suffix s).subset ((List.rdropWhile_prefix isBlank (dropBlanks s)).subset hc)

lemma splitArrow_subset {a : Arrow} {before : List Char} (h : splitArrow line = some (before, a)) :
    before ⊆ line := by
  obtain ⟨⟨front, rest⟩, hsplit, hrest⟩ := Option.bind_eq_some_iff.mp h
  obtain ⟨answer, -, heq⟩ := Option.bind_eq_some_iff.mp hrest
  cases heq
  rw [append_of_splitAtMatch hsplit]
  exact List.subset_append_left before rest

lemma questionHeader?_subset (h : questionHeader? line = some header) : header ⊆ line := by
  unfold questionHeader? at h
  split at h
  · next c rest =>
    split at h
    · cases h
      exact List.Subset.trans (strip_subset rest) (List.subset_append_right ['#', '#', c] rest)
    · cases h
  · cases h

/-- The text of a header is made of its letters. -/
lemma text_readHeader_subset (header : List Char) : (readHeader header).text ⊆ header := by
  rw [readHeader_eq]
  refine List.Subset.trans (strip_subset _) (List.Subset.trans ?_ (untagged_subset header))
  unfold splitAnswer
  split
  · next before a h => exact splitArrow_subset h
  · exact List.Subset.refl _

/-- A line without a return is read alike. -/
lemma Draft.IsTidy.readLine (h : d.IsTidy) (hline : '\r' ∉ line) :
    d.unreturned.readLine line = (d.readLine line).unreturned ∧ (d.readLine line).IsTidy := by
  have hkept : ∀ {s : List Char}, s ⊆ line → d.body.map dropReturn ++ [strip s] =
      (d.body ++ [strip s]).map dropReturn ∧ ∀ l ∈ d.body ++ [strip s], '\r' ∉ dropReturn l := by
    intro s hs
    have hnone : '\r' ∉ strip s := fun hmem => hline (hs (strip_subset s hmem))
    rw [List.map_append, List.map_singleton, dropReturn_of_notMem hnone]
    refine ⟨rfl, List.forall_mem_append.mpr ⟨h.body, List.forall_mem_singleton.mpr ?_⟩⟩
    rwa [dropReturn_of_notMem hnone]
  unfold Draft.readLine
  split
  · exact ⟨rfl, h.header, h.body⟩
  · split
    · next before a hsplit =>
      have hbefore := hkept (splitArrow_subset hsplit)
      dsimp only
      split
      · exact ⟨rfl, h.header, h.body⟩
      · refine ⟨?_, h.header, hbefore.2⟩
        rw [Draft.unreturned, Draft.unreturned, ← hbefore.1]
    · have hwhole := hkept (List.Subset.refl line)
      refine ⟨?_, h.header, hwhole.2⟩
      rw [Draft.unreturned, Draft.unreturned, ← hwhole.1]

end Drafts

namespace Progress.Unreturned

variable {p p' : Progress} {line : List Char}

lemma start (title : String) : (Progress.start title).Unreturned (Progress.start title) where
  title := rfl
  titleSeen := rfl
  type := rfl
  sectionTitle := rfl
  questions := rfl
  sections := rfl
  pending := rfl
  tidy := fun d hd => by cases hd

lemma closed (h : p.Unreturned p') : p'.closed = p.closed.map Question.normalised := by
  unfold Progress.closed
  rw [h.pending, h.questions]
  cases hd : p.pending with
  | none => rfl
  | some d =>
    rw [Option.map_some, List.map_append, List.map_singleton]
    dsimp only
    rw [(h.tidy d hd).finish]

lemma close (h : p.Unreturned p') : p.close.Unreturned p'.close :=
  ⟨h.title, h.titleSeen, h.type, h.sectionTitle, h.closed, h.sections, rfl,
    fun d hd => by cases hd⟩

/-- What changes the pending question alone. -/
lemma mapPending (h : p.Unreturned p') {f f' : Draft → Draft}
    (hf : ∀ d, d.IsTidy → f' d.unreturned = (f d).unreturned ∧ (f d).IsTidy) :
    ({ p with pending := p.pending.map f } : Progress).Unreturned
      { p' with pending := p'.pending.map f' } := by
  refine ⟨h.title, h.titleSeen, h.type, h.sectionTitle, h.questions, h.sections, ?_, ?_⟩
  · dsimp only
    rw [h.pending]
    cases hd : p.pending with
    | none => rfl
    | some d => exact congrArg some (hf d (h.tidy d hd)).1
  · rintro d hd
    obtain ⟨d', hd', rfl⟩ := Option.map_eq_some_iff.mp hd
    exact (hf d' (h.tidy d' hd')).2

lemma addBody (h : p.Unreturned p') (hline : '\r' ∉ dropReturn line) :
    (p.addBody line).Unreturned (p'.addBody (dropReturn line)) := by
  refine h.mapPending fun d hd => ⟨?_, hd.header, List.forall_mem_append.mpr ⟨hd.body, ?_⟩⟩
  · rw [Draft.unreturned, Draft.unreturned, List.map_append, List.map_singleton]
  · exact List.forall_mem_singleton.mpr hline

lemma readHeading (h : p.Unreturned p') (n : Nat) (heading : List Char) :
    (p.readHeading n heading).Unreturned (p'.readHeading n heading) := by
  have hclose := h.close
  unfold Progress.readHeading
  dsimp only
  rw [hclose.titleSeen, hclose.title, hclose.sections]
  split
  · exact ⟨rfl, rfl, hclose.type, hclose.sectionTitle, hclose.questions, rfl, hclose.pending,
      hclose.tidy⟩
  · exact ⟨rfl, rfl, rfl, rfl, hclose.questions, rfl, hclose.pending, hclose.tidy⟩

lemma readQuestion (h : p.Unreturned p') (default : Float) (n : Nat) {header : List Char}
    (hheader : '\r' ∉ header) :
    (p.readQuestion default n header).Unreturned (p'.readQuestion default n header) := by
  have hclose := h.close
  have hcount : p'.close.questions.length = p.close.questions.length := by
    rw [hclose.questions, List.length_map]
  refine ⟨hclose.title, hclose.titleSeen, hclose.type, hclose.sectionTitle, hclose.questions,
    hclose.sections, ?_, ?_⟩
  · unfold Progress.readQuestion
    dsimp only
    rw [hcount, hclose.type, hclose.sectionTitle]
    rfl
  · rintro d hd
    cases hd
    exact ⟨fun hmem => hheader (text_readHeader_subset header hmem), List.forall_mem_nil _⟩

lemma readActive (h : p.Unreturned p') (default : Float) (n : Nat) (hline : '\r' ∉ line) :
    (p.readActive default n line).Unreturned (p'.readActive default n line) := by
  unfold Progress.readActive
  cases heading? line with
  | some heading => exact h.readHeading n heading
  | none =>
    cases hheader : questionHeader? line with
    | some header =>
      exact h.readQuestion default n fun hmem => hline (questionHeader?_subset hheader hmem)
    | none =>
      dsimp only
      split
      · exact h
      · exact h.mapPending fun d hd => hd.readLine hline

/-- Reading goes on alike whether or not the next line ends in a return. -/
lemma read (h : p.Unreturned p') (default : Float) (n : Nat) (role : Role)
    (hline : '\r' ∉ dropReturn line)
    (hbare : line = dropReturn line ++ ['\r'] → isBareMark (dropReturn line) = false) :
    (p.read default n (role, line)).Unreturned (p'.read default n (role, dropReturn line)) := by
  cases role with
  | hidden => exact h
  | verbatim => exact h.addBody hline
  | active =>
    have hactive : p.readActive default n line = p.readActive default n (dropReturn line) := by
      rcases dropReturn_cases line with hsame | hreturn
      · rw [← hsame]
      · rw [hreturn, readActive_append_return p default n (hbare hreturn), dropReturn_append]
    have hread := h.readActive default n hline
    rw [← hactive] at hread
    exact hread

theorem readAll (h : p.Unreturned p') (default : Float) (n : Nat)
    {lines : List (Role × List Char)} (hlines : ∀ x ∈ lines, '\r' ∉ dropReturn x.2 ∧
      (x.2 = dropReturn x.2 ++ ['\r'] → isBareMark (dropReturn x.2) = false)) :
    (Progress.readAll default n p lines).Unreturned
      (Progress.readAll default n p' (lines.map fun x => (x.1, dropReturn x.2))) := by
  induction lines generalizing n p p' with
  | nil => exact h
  | cons x lines ih =>
    obtain ⟨hx, hlines⟩ := List.forall_mem_cons.mp hlines
    exact ih (h.read default n x.1 hx.1 hx.2) (n + 1) hlines

end Progress.Unreturned

/-- No bare mark stands before a carriage return. -/
def NoBareMarks (body : List Char) : Prop :=
  ∀ line ∈ splitLines body, line.getLast? = some '\r' → isBareMark (dropReturn line) = false

instance (body : List Char) : Decidable (NoBareMarks body) :=
  inferInstanceAs (Decidable (∀ line ∈ splitLines body, _))

lemma snd_mem_of_assignRoles {place : Place} {lines : List (List Char)} {x : Role × List Char}
    (hx : x ∈ assignRoles place lines) : x.2 ∈ lines := by
  induction lines generalizing place with
  | nil => cases hx
  | cons line lines ih =>
    rcases List.mem_cons.mp hx with rfl | hx
    · exact List.mem_cons_self
    · exact List.mem_cons_of_mem line (ih hx)

/-- The questions of a normalised body are those of the body itself with normalised stems. -/
theorem readBody_normaliseNewlines {body : List Char} (h : ReturnsEndLines body)
    (hbare : NoBareMarks body) (metadata : Metadata) (default : Float) (first : Nat) :
    (readBody metadata default first (normaliseNewlines body)).questions =
      (readBody metadata default first body).questions.map Question.normalised := by
  obtain ⟨hsplit, htidy⟩ := splitLines_normaliseNewlines h
  unfold readBody
  dsimp only
  rw [hsplit, assignRoles_map_dropReturn]
  refine ((Progress.Unreturned.start (titleOf metadata)).readAll default first ?_).closed
  intro x hx
  have hline := snd_mem_of_assignRoles hx
  refine ⟨htidy x.2 hline, fun hreturn => hbare x.2 hline ?_⟩
  rw [hreturn, List.getLast?_concat]

end Quiz

end QuizPreflight
