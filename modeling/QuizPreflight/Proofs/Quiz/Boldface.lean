import QuizPreflight.Lint.Marker
import QuizPreflight.Proofs.Quiz.Marking

/-!
# Choices in bold type

The text of a choice is made correct by a recommended marker or by bold type. Bold type is looked
for after wide gaps have been closed, which neither makes nor hides an asterisk, so that it is seen
in the text as it was written too.
-/
namespace QuizPreflight.Quiz

open QuizPreflight.Text

/-- A marker in brackets, in any case, or a check mark stands in a text. -/
def Recommended (s : List Char) : Prop :=
  (∃ found : List Char, found.map Char.toLower ∈ ["x".toList, "correct".toList] ∧
    '[' :: found ++ [']'] <:+: s) ∨ '✓' ∈ s ∨ '✔' ∈ s

variable {s rest inner : List Char}

lemma Recommended.of_infix (h : Recommended rest) (hrest : rest <:+: s) : Recommended s := by
  rcases h with ⟨found, hfound, hinfix⟩ | h | h
  · exact .inl ⟨found, hfound, hinfix.trans hrest⟩
  · exact .inr (.inl (hrest.subset h))
  · exact .inr (.inr (hrest.subset h))

lemma Recommended.of_suffix (h : Recommended rest) (hrest : rest <:+ s) : Recommended s :=
  h.of_infix hrest.isInfix

/-! ### Recommended markers -/

section Markers

/-- A letter that only its capital shares a case pair with. -/
def standsAlone (letter : Char) : Bool := letter != 'i' && letter != 's' && letter != 'k'

lemma toLower_of_sameLetter {letter c : Char} (h : sameLetter letter c = true)
    (hletter : standsAlone letter = true) : c.toLower = letter := by
  simp only [standsAlone, Bool.and_eq_true, bne_iff_ne, ne_eq] at hletter
  simpa [sameLetter, hletter] using h

lemma exists_of_word {w : List Char} (hw : w.all standsAlone = true) (h : word w s = some rest) :
    ∃ found, s = found ++ rest ∧ found.map Char.toLower = w := by
  induction w generalizing s with
  | nil => exact ⟨[], Option.some.inj h, rfl⟩
  | cons letter w ih =>
    rw [List.all_cons, Bool.and_eq_true] at hw
    cases s with
    | nil => cases h
    | cons c s =>
      rw [word] at h
      split at h
      · next hc =>
        obtain ⟨found, rfl, hfound⟩ := ih hw.2 h
        exact ⟨c :: found, rfl, by rw [List.map_cons, hfound, toLower_of_sameLetter hc hw.1]⟩
      · cases h

lemma exists_of_bracketed (h : bracketed s = some rest) :
    ∃ found : List Char, found.map Char.toLower ∈ ["x".toList, "correct".toList] ∧
      s = '[' :: found ++ ']' :: rest := by
  obtain ⟨after, hopen, h⟩ := Option.bind_eq_some_iff.mp h
  obtain ⟨behind, hword, hclose⟩ := Option.bind_eq_some_iff.mp h
  obtain ⟨found, rfl, hfound⟩ : ∃ found, after = found ++ behind ∧
      found.map Char.toLower ∈ ["x".toList, "correct".toList] := by
    rcases Option.or_eq_some_iff.mp hword with hword | ⟨-, hword⟩
    · obtain ⟨found, rfl, hfound⟩ := exists_of_word rfl hword
      exact ⟨found, rfl, by simp [hfound]⟩
    · obtain ⟨found, rfl, hfound⟩ := exists_of_word rfl hword
      exact ⟨found, rfl, by simp [hfound]⟩
  exact ⟨found, hfound, by rw [eq_append_of_literal hopen, eq_append_of_literal hclose]; rfl⟩

lemma recommended_of_bracketed (h : bracketed s = some rest) : Recommended s := by
  obtain ⟨found, hfound, rfl⟩ := exists_of_bracketed h
  exact .inl ⟨found, hfound, [], rest, by simp⟩

lemma recommended_of_bracketMarker (h : occurs bracketMarker s = true) : Recommended s := by
  obtain ⟨start, hstart, h⟩ := occurs_iff_suffix.mp h
  rw [bracketMarker_eq, Option.isSome_map] at h
  obtain ⟨rest, hrest⟩ := Option.isSome_iff_exists.mp h
  exact (recommended_of_bracketed hrest).of_suffix ((dropBlanks_suffix start).trans hstart)

lemma recommended_of_checkMarker (h : occurs checkMarker s = true) : Recommended s := by
  obtain ⟨c, hc, hmark⟩ := occurs_checkMarker_iff.mp h
  simp only [isCheckMark, Bool.or_eq_true, beq_iff_eq] at hmark
  rcases hmark with rfl | rfl
  · exact .inr (.inl hc)
  · exact .inr (.inr hc)

end Markers

/-! ### Closed gaps -/

/-- The text with every wide gap closed to one space. -/
def narrowed (s : List Char) : List Char := replaceAll wideGap [' '] s

/-- A piece that is read from a text with closed gaps is read from the text itself. -/
def Survives (m : Matcher) : Prop := ∀ s, m (narrowed s) = (m s).map narrowed

section Gaps

variable {c d : Char} {p : Char → Bool} {m k : Matcher}

/-- Closing gaps starts with the first character, or with a gap that is closed. -/
lemma narrowed_cons (c : Char) (s : List Char) :
    narrowed (c :: s) = c :: narrowed s ∨
      isGap c = true ∧ narrowed (c :: s) = ' ' :: narrowed (s.dropWhile isGap) := by
  cases hgap : wideGap (c :: s) with
  | none => exact .inl (replaceAll_cons_of_none hgap [' '])
  | some rest =>
    have hlength := length_of_wideGap _ rest hgap
    have hc : isGap c = true := by
      by_contra hnot
      simp [wideGap, one, hnot] at hgap
    have hrest : s.dropWhile isGap = rest := by
      cases s with
      | nil => simp [wideGap, one, many, hc] at hgap
      | cons d s =>
        cases hd : isGap d <;> simp [wideGap, one, many, hc, hd] at hgap
        simpa [hd] using hgap
    refine .inr ⟨hc, ?_⟩
    rw [narrowed, replaceAll, hgap, hrest]
    rw [List.length_cons] at hlength
    exact if_pos (by omega)

lemma dropWhile_dropWhile_of_imp {q : Char → Bool} (h : ∀ c, q c = true → p c = true)
    (s : List Char) : (s.dropWhile q).dropWhile p = s.dropWhile p := by
  induction s with
  | nil => rfl
  | cons c s ih =>
    cases hq : q c with
    | true => rw [List.dropWhile_cons_of_pos hq, ih, List.dropWhile_cons_of_pos (h c hq)]
    | false => rw [List.dropWhile_cons_of_neg (Bool.eq_false_iff.mp hq)]

/-- A class with all gaps in it passes over as much of a text whether or not they are closed. -/
lemma dropWhile_narrowed (hp : ∀ c, isGap c = true → p c = true) (s : List Char) :
    (narrowed s).dropWhile p = narrowed (s.dropWhile p) := by
  induction hn : s.length using Nat.strong_induction_on generalizing s with
  | _ n ih =>
    subst hn
    cases s with
    | nil => simp [narrowed, replaceAll]
    | cons c s =>
      rcases narrowed_cons c s with hcons | ⟨hc, hcons⟩
      · cases hpc : p c with
        | true =>
          rw [hcons, List.dropWhile_cons_of_pos hpc, List.dropWhile_cons_of_pos hpc]
          exact ih s.length (Nat.lt_succ_self _) s rfl
        | false =>
          have hnot := Bool.eq_false_iff.mp hpc
          rw [List.dropWhile_cons_of_neg hnot, hcons, List.dropWhile_cons_of_neg hnot]
      · have hlength : (s.dropWhile isGap).length < (c :: s).length :=
          Nat.lt_succ_of_le (List.dropWhile_suffix isGap).length_le
        rw [hcons, List.dropWhile_cons_of_pos (hp ' ' rfl), List.dropWhile_cons_of_pos (hp c hc),
          ih _ hlength _ rfl, dropWhile_dropWhile_of_imp hp]

lemma survives_many (hp : ∀ c, isGap c = true → p c = true) : Survives (many p) := by
  intro s
  cases s with
  | nil => simp [narrowed, replaceAll, many]
  | cons c s =>
    have hdrop := dropWhile_narrowed hp (c :: s)
    rcases narrowed_cons c s with hcons | ⟨hc, hcons⟩
    · rw [hcons] at hdrop ⊢
      cases hpc : p c with
      | true =>
        rw [List.dropWhile_cons_of_pos hpc, List.dropWhile_cons_of_pos hpc] at hdrop
        simp [many, hpc, hdrop]
      | false => simp [many, hpc]
    · rw [hcons] at hdrop ⊢
      rw [List.dropWhile_cons_of_pos (hp ' ' rfl), List.dropWhile_cons_of_pos (hp c hc)] at hdrop
      simp [many, hp ' ' rfl, hp c hc, hdrop]

lemma survives_literal (hd : isGap d = false) : Survives (literal [d]) := by
  intro s
  cases s with
  | nil => simp [narrowed, replaceAll, literal]
  | cons c s =>
    rcases narrowed_cons c s with hcons | ⟨hc, hcons⟩
    · rw [hcons]
      by_cases hdc : d = c <;> simp [literal, hdc]
    · have hdc : d ≠ c := fun heq => by simp [heq, hc] at hd
      have hspace : d ≠ ' ' := fun heq => by simp [heq, isGap] at hd
      rw [hcons]
      simp [literal, hdc, hspace]

protected lemma Survives.bind (hm : Survives m) (hk : Survives k) :
    Survives fun s => (m s).bind k := by
  intro s
  dsimp only
  rw [hm s]
  cases m s with
  | none => rfl
  | some rest => exact hk rest

end Gaps

/-! ### Bold type -/

section Bold

lemma literal_cons (d : Char) (p s : List Char) :
    literal (d :: p) s = (literal [d] s).bind (literal p) := by
  cases s with
  | nil => rfl
  | cons c s =>
    rw [literal, literal]
    split <;> rfl

lemma many_append {w : List Char} {p : Char → Bool} {d : Char} (hw : ∀ c ∈ w, p c = true)
    (hne : w ≠ []) (hd : p d = false) (t : List Char) : many p (w ++ d :: t) = some (d :: t) := by
  obtain ⟨c, w, rfl⟩ := List.exists_cons_of_ne_nil hne
  obtain ⟨hc, hw⟩ := List.forall_mem_cons.mp hw
  rw [List.cons_append, many, if_pos hc, List.dropWhile_append_of_pos hw,
    List.dropWhile_cons_of_neg (Bool.eq_false_iff.mp hd)]

lemma survives_boldSpan : Survives Lint.boldSpan := by
  have hstar : Survives (literal ['*']) := survives_literal rfl
  have hstars : Survives (literal ['*', '*']) := by
    intro s
    rw [literal_cons '*' ['*'] s, literal_cons '*' ['*'] (narrowed s)]
    exact hstar.bind hstar s
  have hmany : Survives (many (· != '*')) := survives_many fun c hc => by
    simp only [isGap, Bool.or_eq_true, beq_iff_eq] at hc
    rcases hc with rfl | rfl <;> rfl
  exact hstars.bind (hmany.bind hstars)

lemma boldSpan_of_bold? (h : bold? s = some inner) (t : List Char) :
    Lint.boldSpan (s ++ t) = some t := by
  obtain ⟨after, hopen, h⟩ := Option.bind_eq_some_iff.mp h
  have hinside : ∀ c ∈ after.takeWhile (· != '*'), (c != '*') = true :=
    fun c hc => List.mem_takeWhile_imp (p := (· != '*')) hc
  dsimp only at h
  split at h
  · cases h
  · next hne =>
    split at h
    · next hclose =>
      have hafter : after ++ t = after.takeWhile (· != '*') ++ '*' :: '*' :: t := by
        conv_lhs => rw [← List.takeWhile_append_dropWhile (p := (· != '*')) (l := after), hclose]
        simp
      have hmany : many (· != '*') (after ++ t) = some ('*' :: '*' :: t) := by
        rw [hafter, many_append hinside (by simpa using hne) rfl]
      rw [eq_append_of_literal hopen, List.append_assoc, Lint.boldSpan, literal_append]
      simp only [Option.bind_eq_bind, Option.bind_some, hmany]
      exact literal_append ['*', '*'] t
    · cases h

lemma startsPlain_narrowed (hs : StartsPlain s) : StartsPlain (narrowed s) := by
  cases s with
  | nil => simp [narrowed, replaceAll, StartsPlain]
  | cons c s =>
    have hc : isBlank c = false := hs c rfl
    rcases narrowed_cons c s with hcons | ⟨hgap, -⟩
    · rw [hcons]
      exact startsPlain_cons hc
    · simp only [isGap, Bool.or_eq_true, beq_iff_eq] at hgap
      rcases hgap with rfl | rfl <;> cases hc

/-- What is bold once markers are dropped and gaps closed was so from the start. -/
lemma boldSpan_of_stripMarkers (hs : StartsPlain s) (h : (stripMarkers s).2 = true) :
    Recommended s ∨ (Lint.boldSpan s).isSome = true := by
  by_cases hmarker : Recommended s
  · exact .inl hmarker
  · have hbracket := Bool.eq_false_iff.mpr (mt recommended_of_bracketMarker hmarker)
    have hcheck := Bool.eq_false_iff.mpr (mt recommended_of_checkMarker hmarker)
    have hdrop : dropMarkers s = (strip (narrowed s), false) := by
      rw [dropMarkers_eq, replaceAll_of_not_occurs hbracket, replaceAll_of_not_occurs hcheck,
        hbracket, hcheck, Bool.false_or, narrowed]
    rw [stripMarkers_eq, hdrop] at h
    dsimp only at h
    split at h
    · next inner hbold =>
      have hstart := dropBlanks_eq_self_iff.mpr (startsPlain_narrowed hs)
      obtain ⟨t, ht⟩ : strip (narrowed s) <+: narrowed s := by
        rw [strip, hstart]
        exact List.rdropWhile_prefix isBlank (narrowed s)
      have hspan := boldSpan_of_bold? hbold t
      rw [ht, survives_boldSpan s] at hspan
      obtain ⟨rest, hrest, -⟩ := Option.map_eq_some_iff.mp hspan
      exact .inr (Option.isSome_of_eq_some hrest)
    · cases h

end Bold

end QuizPreflight.Quiz
