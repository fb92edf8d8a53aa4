import QuizPreflight.Proofs.Text.Trimming

/-!
# Line endings of two conventions

A text may end some lines in a newline and others in a carriage return with a newline. Normalising
it takes the return off the lines that have one, and commutes with cutting and trimming.
-/
namespace QuizPreflight.Text

variable {s t : List Char} {c : Char}

/-- Every carriage return stands before a newline. -/
inductive ReturnsEndLines : List Char → Prop
  | nil : ReturnsEndLines []
  | char {c : Char} {s : List Char} (hc : c ≠ '\r') (h : ReturnsEndLines s) :
      ReturnsEndLines (c :: s)
  | ending {s : List Char} (h : ReturnsEndLines s) : ReturnsEndLines ('\r' :: '\n' :: s)

/-- A line without the carriage return at its end. -/
def dropReturn (line : List Char) : List Char :=
  if line.getLast? = some '\r' then line.dropLast else line

/-- A text with a newline at the end of each line, whatever stood there. -/
def normalised (s : String) : String := String.ofList (normaliseNewlines s.toList)

@[simp] lemma toList_normalised (s : String) :
    (normalised s).toList = normaliseNewlines s.toList := String.toList_ofList

/-! ### Characters -/

@[simp] lemma normaliseNewlines_nil : normaliseNewlines [] = [] := by rw [normaliseNewlines]

lemma normaliseNewlines_cons (hc : c ≠ '\r') (s : List Char) :
    normaliseNewlines (c :: s) = c :: normaliseNewlines s := by
  rw [normaliseNewlines, if_neg hc]
  rintro rest rfl
  exact absurd rfl hc

@[simp] lemma normaliseNewlines_ending (s : List Char) :
    normaliseNewlines ('\r' :: '\n' :: s) = '\n' :: normaliseNewlines s := by
  rw [normaliseNewlines]

lemma normaliseNewlines_of_notMem (h : '\r' ∉ s) : normaliseNewlines s = s := by
  induction s with
  | nil => exact normaliseNewlines_nil
  | cons c s ih =>
    rw [List.mem_cons, not_or] at h
    rw [normaliseNewlines_cons (Ne.symm h.1), ih h.2]

lemma normalised_of_notMem {s : String} (h : '\r' ∉ s.toList) : normalised s = s := by
  rw [normalised, normaliseNewlines_of_notMem h, String.ofList_toList]

lemma ReturnsEndLines.of_suffix (h : ReturnsEndLines s) (ht : t <:+ s) : ReturnsEndLines t := by
  induction h with
  | nil =>
    rw [List.suffix_nil.mp ht]
    exact .nil
  | char hc h ih =>
    rcases List.suffix_cons_iff.mp ht with rfl | ht
    · exact .char hc h
    · exact ih ht
  | ending h ih =>
    rcases List.suffix_cons_iff.mp ht with rfl | ht
    · exact .ending h
    · rcases List.suffix_cons_iff.mp ht with rfl | ht
      · exact .char (by decide) h
      · exact ih ht

/-! ### Lines -/

@[simp] lemma dropReturn_nil : dropReturn [] = [] := rfl

@[simp] lemma dropReturn_append (line : List Char) : dropReturn (line ++ ['\r']) = line := by
  rw [dropReturn, List.getLast?_concat, if_pos rfl, List.dropLast_concat]

lemma dropReturn_of_notMem (h : '\r' ∉ s) : dropReturn s = s :=
  if_neg fun hlast => h (List.mem_of_getLast? hlast)

lemma dropReturn_cons (hc : c ≠ '\r') (s : List Char) : dropReturn (c :: s) = c :: dropReturn s := by
  cases s with
  | nil => exact dropReturn_of_notMem (by simpa using Ne.symm hc)
  | cons d s =>
    rw [dropReturn, dropReturn, List.getLast?_cons_cons, List.dropLast_cons_cons]
    split <;> rfl

lemma dropReturn_cases (line : List Char) :
    line = dropReturn line ∨ line = dropReturn line ++ ['\r'] := by
  rw [dropReturn]
  split
  · next h => exact .inr (List.dropLast_append_getLast? '\r' h).symm
  · exact .inl rfl

/-- Normalising a text takes the return off its lines. -/
theorem splitLines_normaliseNewlines (h : ReturnsEndLines s) :
    splitLines (normaliseNewlines s) = (splitLines s).map dropReturn ∧
      ∀ line ∈ splitLines s, '\r' ∉ dropReturn line := by
  unfold splitLines
  induction h with
  | nil => simp [splitOn]
  | @char c s hc h ih =>
    obtain ⟨hlines, hnone⟩ := ih
    rw [normaliseNewlines_cons hc]
    by_cases hline : c = '\n'
    · rw [splitOn, if_pos hline, splitOn, if_pos hline, List.map_cons, hlines]
      exact ⟨rfl, List.forall_mem_cons.mpr ⟨by simp, hnone⟩⟩
    · obtain ⟨line, lines, hs⟩ := exists_splitOn_eq_cons '\n' s
      rw [hs] at hlines hnone
      obtain ⟨hline', hlines'⟩ := List.forall_mem_cons.mp hnone
      rw [splitOn_cons_of_ne hline hlines, splitOn_cons_of_ne hline hs, List.map_cons,
        dropReturn_cons hc]
      refine ⟨rfl, List.forall_mem_cons.mpr ⟨?_, hlines'⟩⟩
      rw [dropReturn_cons hc, List.mem_cons, not_or]
      exact ⟨Ne.symm hc, hline'⟩
  | @ending s h ih =>
    obtain ⟨hlines, hnone⟩ := ih
    have hsplit : splitOn '\n' ('\r' :: '\n' :: s) = ['\r'] :: splitOn '\n' s :=
      splitOn_cons_of_ne (by decide) (by rw [splitOn, if_pos rfl])
    rw [normaliseNewlines_ending, splitOn, if_pos rfl, hlines, hsplit, List.map_cons]
    exact ⟨rfl, List.forall_mem_cons.mpr ⟨by simp [dropReturn], hnone⟩⟩

/-! ### Trimming -/

lemma isBlank_return : isBlank '\r' = true := by decide

lemma isBlank_newline : isBlank '\n' = true := by decide

/-- A character that starts no line ending of two. -/
lemma normaliseNewlines_cons_of_not_ending (h : ∀ rest, c = '\r' → s ≠ '\n' :: rest) :
    normaliseNewlines (c :: s) = (if c = '\r' then '\n' else c) :: normaliseNewlines s := by
  rw [normaliseNewlines]
  exact fun rest hc hs => h rest hc hs

lemma isBlank_normalised (c : Char) : isBlank (if c = '\r' then '\n' else c) = isBlank c := by
  split
  · next hc => rw [hc, isBlank_return, isBlank_newline]
  · rfl

lemma dropBlanks_cons_of_blank (h : isBlank c = true) (s : List Char) :
    dropBlanks (c :: s) = dropBlanks s := List.dropWhile_cons_of_pos h

lemma dropBlanks_normaliseNewlines (s : List Char) :
    dropBlanks (normaliseNewlines s) = normaliseNewlines (dropBlanks s) := by
  fun_induction normaliseNewlines s with
  | case1 => simp [dropBlanks]
  | case2 rest ih =>
    rw [dropBlanks_cons_of_blank isBlank_newline, dropBlanks_cons_of_blank isBlank_return,
      dropBlanks_cons_of_blank isBlank_newline, ih]
  | case3 c rest hrest ih =>
    by_cases hc : isBlank c = true
    · rw [dropBlanks_cons_of_blank ((isBlank_normalised c).trans hc), dropBlanks_cons_of_blank hc, ih]
    · have hhere : dropBlanks (c :: rest) = c :: rest := List.dropWhile_cons_of_neg hc
      rw [hhere, normaliseNewlines_cons_of_not_ending fun r hr hs => hrest r hr hs]
      exact List.dropWhile_cons_of_neg (by rwa [isBlank_normalised])

lemma allBlank_normaliseNewlines (s : List Char) : allBlank (normaliseNewlines s) = allBlank s := by
  unfold allBlank
  fun_induction normaliseNewlines s with
  | case1 => rfl
  | case2 rest ih => simp [isBlank_newline, isBlank_return, ih]
  | case3 c rest hrest ih => simp [isBlank_normalised, ih]

/-- A text is normalised piece by piece, unless it is cut within a line ending. -/
lemma normaliseNewlines_append (h : s.getLast? = some '\r' → t.head? ≠ some '\n') :
    normaliseNewlines (s ++ t) = normaliseNewlines s ++ normaliseNewlines t := by
  fun_induction normaliseNewlines s with
  | case1 => simp
  | case2 rest ih =>
    have hrest : rest.getLast? = some '\r' → t.head? ≠ some '\n' := by
      intro hlast
      refine h ?_
      cases rest with
      | nil => simp at hlast
      | cons d rest => rwa [List.getLast?_cons_cons, List.getLast?_cons_cons]
    rw [List.cons_append, List.cons_append, normaliseNewlines_ending, ih hrest, List.cons_append]
  | case3 c rest hrest ih =>
    have hhere : ∀ more, c = '\r' → rest ++ t ≠ '\n' :: more := by
      intro more hc hmore
      cases rest with
      | nil => exact h (by rw [hc]; rfl) (by rw [← List.nil_append t, hmore]; rfl)
      | cons d rest => exact hrest rest hc (by rw [(List.cons.inj hmore).1])
    have hbelow : rest.getLast? = some '\r' → t.head? ≠ some '\n' := by
      intro hlast
      cases rest with
      | nil => simp at hlast
      | cons d rest => exact h (by rwa [List.getLast?_cons_cons])
    rw [List.cons_append, normaliseNewlines_cons_of_not_ending hhere, ih hbelow, List.cons_append]

lemma dropBlanksEnd_append (ht : allBlank t = true) : dropBlanksEnd (s ++ t) = dropBlanksEnd s := by
  induction t using List.reverseRecOn with
  | nil => rw [List.append_nil]
  | append_singleton t c ih =>
    rw [allBlank, List.all_append, Bool.and_eq_true, List.all_cons, List.all_nil,
      Bool.and_true] at ht
    have hlast : dropBlanksEnd (s ++ t ++ [c]) = dropBlanksEnd (s ++ t) :=
      List.rdropWhile_concat_pos isBlank (s ++ t) c ht.2
    rw [← List.append_assoc, hlast, ih ht.1]

/-- Blanks at the end of a text are trimmed off. -/
lemma strip_append_of_allBlank (ht : allBlank t = true) : strip (s ++ t) = strip s := by
  have hdrop : dropBlanks (s ++ t) = if (dropBlanks s).isEmpty then dropBlanks t
      else dropBlanks s ++ t := List.dropWhile_append
  rw [strip, strip, hdrop]
  split
  · next hempty => rw [dropBlanks_of_allBlank ht, List.isEmpty_iff.mp hempty]
  · exact dropBlanksEnd_append ht

/-- What trimming takes off the end of a text. -/
lemma exists_dropBlanksEnd (s : List Char) : EndsPlain (dropBlanksEnd s) ∧
    ∃ blank, allBlank blank = true ∧ s = dropBlanksEnd s ++ blank := by
  constructor
  · exact dropBlanksEnd_eq_self_iff.mp (List.rdropWhile_idempotent isBlank s)
  · induction s using List.reverseRecOn with
    | nil => exact ⟨[], rfl, rfl⟩
    | append_singleton s c ih =>
      obtain ⟨blank, hblank, hs⟩ := ih
      by_cases hc : isBlank c = true
      · have hlast : dropBlanksEnd (s ++ [c]) = dropBlanksEnd s :=
          List.rdropWhile_concat_pos isBlank s c hc
        refine ⟨blank ++ [c], ?_, ?_⟩
        · rw [allBlank, List.all_append, ← allBlank, hblank, List.all_cons, hc]
          rfl
        · rw [hlast, ← List.append_assoc, ← hs]
      · have hlast : dropBlanksEnd (s ++ [c]) = s ++ [c] :=
          List.rdropWhile_concat_neg isBlank s c hc
        exact ⟨[], rfl, by rw [hlast, List.append_nil]⟩

lemma endsPlain_normaliseNewlines (h : EndsPlain s) : EndsPlain (normaliseNewlines s) := by
  cases s using List.reverseRecOn with
  | nil => simpa using h
  | append_singleton s c =>
    have hc : isBlank c = false := h c List.getLast?_concat
    have hreturn : c ≠ '\r' := by
      rintro rfl
      cases hc
    rw [normaliseNewlines_append fun _ hnewline => ?_, normaliseNewlines_cons hreturn,
      normaliseNewlines_nil]
    · refine EndsPlain.append ?_ (List.cons_ne_nil c []) _
      simpa [EndsPlain] using hc
    · obtain rfl : c = '\n' := Option.some.inj hnewline
      cases hc

/-- A text may be trimmed before it is normalised. -/
theorem strip_normaliseNewlines (s : List Char) :
    strip (normaliseNewlines s) = normaliseNewlines (strip s) := by
  obtain ⟨hend, blank, hblank, hs⟩ := exists_dropBlanksEnd (dropBlanks s)
  have hlast : (dropBlanksEnd (dropBlanks s)).getLast? = some '\r' → blank.head? ≠ some '\n' :=
    fun h => absurd (hend '\r' h) (by decide)
  rw [strip, strip, dropBlanks_normaliseNewlines, hs, normaliseNewlines_append hlast,
    dropBlanksEnd_append ((allBlank_normaliseNewlines blank).trans hblank),
    dropBlanksEnd_eq_self_iff.mpr (endsPlain_normaliseNewlines hend), ← hs]

lemma normaliseNewlines_line {line : List Char} (h : '\r' ∉ dropReturn line) (s : List Char) :
    normaliseNewlines (line ++ '\n' :: s) = dropReturn line ++ '\n' :: normaliseNewlines s := by
  have hlast : (dropReturn line).getLast? ≠ some '\r' := fun hlast => h (List.mem_of_getLast? hlast)
  have hnormal := normaliseNewlines_of_notMem h
  rcases dropReturn_cases line with hline | hline
  · rw [← hline] at hlast hnormal ⊢
    rw [normaliseNewlines_append fun hreturn => absurd hreturn hlast,
      normaliseNewlines_cons (by decide), hnormal]
  · have happend : line ++ '\n' :: s = dropReturn line ++ '\r' :: '\n' :: s := by
      rw [List.append_cons (dropReturn line), ← hline]
    rw [happend, normaliseNewlines_append fun hreturn => absurd hreturn hlast,
      normaliseNewlines_ending, hnormal]

lemma normaliseNewlines_joinLines {lines : List (List Char)}
    (h : ∀ line ∈ lines, '\r' ∉ dropReturn line) :
    ∃ blank, allBlank blank = true ∧
      normaliseNewlines (joinLines lines) = joinLines (lines.map dropReturn) ++ blank := by
  induction lines with
  | nil => exact ⟨[], rfl, by simp [joinLines, joinWith]⟩
  | cons line lines ih =>
    obtain ⟨hline, hlines⟩ := List.forall_mem_cons.mp h
    cases lines with
    | nil =>
      have hlast : (dropReturn line).getLast? ≠ some '\r' :=
        fun hlast => hline (List.mem_of_getLast? hlast)
      have hnormal := normaliseNewlines_of_notMem hline
      rcases dropReturn_cases line with hsame | hreturn
      · refine ⟨[], rfl, ?_⟩
        rw [List.append_nil]
        exact (congrArg normaliseNewlines hsame).trans hnormal
      · refine ⟨['\n'], by decide, ?_⟩
        refine (congrArg normaliseNewlines hreturn).trans ?_
        rw [normaliseNewlines_append fun h => absurd h hlast, hnormal]
        rfl
    | cons next lines =>
      obtain ⟨blank, hblank, hnormal⟩ := ih hlines
      refine ⟨blank, hblank, ?_⟩
      rw [joinLines_cons_cons, normaliseNewlines_line hline, hnormal, List.map_cons, List.map_cons,
        List.map_cons, joinLines_cons_cons, List.append_assoc, List.cons_append]

/-- Lines without their returns are joined and trimmed to what normalising makes of the text that
the lines with them are joined and trimmed to. -/
theorem strip_joinLines_dropReturn {lines : List (List Char)}
    (h : ∀ line ∈ lines, '\r' ∉ dropReturn line) :
    strip (joinLines (lines.map dropReturn)) = normaliseNewlines (strip (joinLines lines)) := by
  obtain ⟨blank, hblank, hnormal⟩ := normaliseNewlines_joinLines h
  rw [← strip_normaliseNewlines, hnormal, strip_append_of_allBlank hblank]

end QuizPreflight.Text
