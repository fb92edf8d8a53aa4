import QuizPreflight.Proofs.Decimal.Numeral

/-!
# Whole numbers

A whole number may be written with a sign, with digits of any script, with single underscores
between digits and with blanks around it. Every whole number is read as itself if it has not too
many digits, and nothing else is read as a number.
-/
namespace QuizPreflight.Decimal

open QuizPreflight.Text

variable {s ds written back : List Char} {c d : Char} {n : Int}

/-- Digits as they may be written, with single underscores between some of them. -/
inductive WritesDigits : List Char → List Char → Prop
  | last {d : Char} (hd : isDigit d = true) : WritesDigits [d] [d]
  | next {d : Char} {ds written : List Char} (hd : isDigit d = true)
      (h : WritesDigits ds written) : WritesDigits (d :: ds) (d :: written)
  | apart {d : Char} {ds written : List Char} (hd : isDigit d = true)
      (h : WritesDigits ds written) : WritesDigits (d :: ds) (d :: '_' :: written)

/-- The number that is written with some digits. -/
inductive WritesWhole (s ds : List Char) : Int → Prop
  | positive {front mark written back : List Char} (hs : s = front ++ (mark ++ written) ++ back)
      (hfront : ∀ c ∈ front, isNumberBlank c = true) (hback : ∀ c ∈ back, isNumberBlank c = true)
      (hmark : mark = [] ∨ mark = ['+']) (h : WritesDigits ds written) :
      WritesWhole s ds (numberOf ds)
  | negative {front written back : List Char} (hs : s = front ++ ('-' :: written) ++ back)
      (hfront : ∀ c ∈ front, isNumberBlank c = true) (hback : ∀ c ∈ back, isNumberBlank c = true)
      (h : WritesDigits ds written) :
      WritesWhole s ds (-numberOf ds)

/-! ### Digits of other scripts -/

/-- A character as it is read: a digit in ASCII. -/
def plain (c : Char) : Char := (asciiDigit? c).getD c

lemma plainDigits_eq (s : List Char) : plainDigits s = s.map plain := rfl

lemma plain_of_not_isDigit (h : isDigit c = false) : plain c = c := by
  have hnone : digitValue? c = none := by
    rwa [isDigit, Option.isSome_eq_false_iff, Option.isNone_iff_eq_none] at h
  rw [plain, asciiDigit?, hnone]
  rfl

lemma isDigit_plain (c : Char) : (plain c).isDigit = isDigit c := by
  cases h : isDigit c with
  | true => exact (plain_of_isDigit h).1
  | false =>
    rw [plain_of_not_isDigit h]
    by_contra hdigit
    rw [Bool.not_eq_false] at hdigit
    exact Bool.false_ne_true (h.symm.trans (isDigit_of_ascii hdigit))

lemma isNumberBlank_of_isDigit (h : isDigit c = true) : isNumberBlank c = false := by
  rw [isNumberBlank, isBlank_of_isDigit h, Bool.false_and]

lemma isNumberBlank_plain (c : Char) : isNumberBlank (plain c) = isNumberBlank c := by
  cases h : isDigit c with
  | true =>
    have hplain : isDigit (plain c) = true :=
      isDigit_of_ascii ((isDigit_plain c).trans h)
    rw [isNumberBlank_of_isDigit h, isNumberBlank_of_isDigit hplain]
  | false => rw [plain_of_not_isDigit h]

/-- Only a character itself is read as one that is no digit. -/
lemma plain_eq_iff (hd : isDigit d = false) : plain c = d ↔ c = d := by
  constructor
  · intro heq
    cases hc : isDigit c with
    | true =>
      have hplain : isDigit d = true := heq ▸ isDigit_of_ascii ((isDigit_plain c).trans hc)
      exact absurd (hd.symm.trans hplain) Bool.false_ne_true
    | false => rw [← heq, plain_of_not_isDigit hc]
  · rintro rfl
    exact plain_of_not_isDigit hd

lemma stripNumber_plainDigits (s : List Char) :
    stripNumber (plainDigits s) = plainDigits (stripNumber s) := by
  have hblank : isNumberBlank ∘ plain = isNumberBlank := funext isNumberBlank_plain
  rw [stripNumber, stripNumber, plainDigits_eq, plainDigits_eq, List.dropWhile_map, hblank,
    ← List.map_reverse, List.dropWhile_map, hblank, List.map_reverse]

lemma sign_cons (hminus : c ≠ '-') (hplus : c ≠ '+') (s : List Char) :
    sign (c :: s) = (false, c :: s) := by
  unfold sign
  split
  · next heq => exact absurd (List.cons.inj heq).1 hminus
  · next heq => exact absurd (List.cons.inj heq).1 hplus
  · rfl

lemma sign_plainDigits (s : List Char) :
    sign (plainDigits s) = ((sign s).1, plainDigits (sign s).2) := by
  cases s with
  | nil => rfl
  | cons c s =>
    have hcons : plainDigits (c :: s) = plain c :: plainDigits s := rfl
    have hminus : plain c = '-' ↔ c = '-' := plain_eq_iff (by decide)
    have hplus : plain c = '+' ↔ c = '+' := plain_eq_iff (by decide)
    by_cases hc : c = '-'
    · subst hc
      rw [hcons, hminus.mpr rfl]
      rfl
    · by_cases hc' : c = '+'
      · subst hc'
        rw [hcons, hplus.mpr rfl]
        rfl
      · rw [sign_cons hc hc', hcons, sign_cons (mt hminus.mp hc) (mt hplus.mp hc')]

/-! ### Underscores -/

lemma WritesDigits.ne_nil (h : WritesDigits ds written) : ds ≠ [] ∧ written ≠ [] := by
  cases h <;> exact ⟨List.cons_ne_nil _ _, List.cons_ne_nil _ _⟩

lemma WritesDigits.head (h : WritesDigits ds written) :
    ∃ d more, written = d :: more ∧ isDigit d = true := by
  cases h with
  | last hd | next hd _ | apart hd _ => exact ⟨_, _, rfl, hd⟩

lemma WritesDigits.isDigit_of_mem (h : WritesDigits ds written) : ∀ d ∈ ds, isDigit d = true := by
  induction h with
  | last hd => exact List.forall_mem_singleton.mpr hd
  | next hd _ ih | apart hd _ ih => exact List.forall_mem_cons.mpr ⟨hd, ih⟩

lemma WritesDigits.getLast? (h : WritesDigits ds written) :
    ∃ d, written.getLast? = some d ∧ isDigit d = true := by
  induction h with
  | last hd => exact ⟨_, rfl, hd⟩
  | next hd h ih | apart hd h ih =>
    obtain ⟨d, hlast, hdigit⟩ := ih
    exact ⟨d, by simp [List.getLast?_cons, hlast], hdigit⟩

/-- What stands before an underscore does not matter where there is none. -/
lemma dropUnderscores?_cons (hc : c ≠ '_') (afterDigit : Bool) (s : List Char) :
    dropUnderscores? afterDigit (c :: s) = (dropUnderscores? c.isDigit s).map (c :: ·) := by
  rw [dropUnderscores?]
  rintro rfl
  exact hc rfl

lemma plain_ne_underscore (h : isDigit d = true) : plain d ≠ '_' := by
  rw [ne_eq, plain_eq_iff (by decide)]
  rintro rfl
  exact absurd h (by decide)

theorem dropUnderscores?_plainDigits (h : WritesDigits ds written) (afterDigit : Bool) :
    dropUnderscores? afterDigit (plainDigits written) = some (plainDigits ds) := by
  induction h generalizing afterDigit with
  | @last d hd =>
    have hcons : plainDigits [d] = [plain d] := rfl
    rw [hcons, dropUnderscores?_cons (plain_ne_underscore hd)]
    rfl
  | @next d ds written hd h ih =>
    have hcons (s : List Char) : plainDigits (d :: s) = plain d :: plainDigits s := rfl
    rw [hcons, hcons, dropUnderscores?_cons (plain_ne_underscore hd), ih]
    rfl
  | @apart d ds written hd h ih =>
    have hcons (s : List Char) : plainDigits (d :: s) = plain d :: plainDigits s := rfl
    have hunderscore : plainDigits ('_' :: written) = '_' :: plainDigits written := rfl
    obtain ⟨d', more, rfl, hd'⟩ := h.head
    have hnext : (plainDigits (d' :: more)).head?.any Char.isDigit = true :=
      (isDigit_plain d').trans hd'
    rw [hcons, hcons, dropUnderscores?_cons (plain_ne_underscore hd), isDigit_plain, hd,
      hunderscore, dropUnderscores?, hnext, Bool.true_and, if_pos rfl, ih]
    rfl

lemma ne_nil_of_dropUnderscores? {afterDigit : Bool} {rest : List Char} (hc : c ≠ '_')
    (h : dropUnderscores? afterDigit (c :: s) = some rest) : rest ≠ [] := by
  rw [dropUnderscores?_cons hc, Option.map_eq_some_iff] at h
  obtain ⟨-, -, rfl⟩ := h
  exact List.cons_ne_nil _ _

/-- Digits are left only where underscores stand between digits. -/
theorem exists_writesDigits : ∀ (written : List Char) {found : List Char},
    dropUnderscores? false (plainDigits written) = some found → found ≠ [] →
    (∀ d ∈ found, d.isDigit = true) → ∃ ds, WritesDigits ds written ∧ plainDigits ds = found
  | [], _, h, hne, _ => absurd (Option.some.inj h).symm hne
  | c :: written, found, h, _, hdigits => by
    have hcons (c : Char) (s : List Char) : plainDigits (c :: s) = plain c :: plainDigits s := rfl
    have hc : plain c ≠ '_' := by
      intro heq
      rw [hcons, heq] at h
      cases h
    rw [hcons, dropUnderscores?_cons hc, Option.map_eq_some_iff] at h
    obtain ⟨rest, hrest, rfl⟩ := h
    obtain ⟨hdigit, hdigits⟩ := List.forall_mem_cons.mp hdigits
    rw [hdigit] at hrest
    have hd : isDigit c = true := (isDigit_plain c).symm.trans hdigit
    -- after a digit there is the end, an underscore before more digits, or a digit
    cases written with
    | nil => exact ⟨[c], .last hd, by rw [hcons, ← Option.some.inj hrest]; rfl⟩
    | cons e more =>
      by_cases he : e = '_'
      · subst he
        have hunderscore : plainDigits ('_' :: more) = '_' :: plainDigits more := rfl
        rw [hunderscore, dropUnderscores?, Bool.true_and, Option.ite_none_right_eq_some] at hrest
        obtain ⟨hnext, hrest⟩ := hrest
        have hne : rest ≠ [] := by
          cases more with
          | nil => cases hnext
          | cons x more =>
            have hx : isDigit x = true := (isDigit_plain x).symm.trans hnext
            exact ne_nil_of_dropUnderscores? (plain_ne_underscore hx) hrest
        obtain ⟨ds, hds, rfl⟩ := exists_writesDigits more hrest hne hdigits
        exact ⟨c :: ds, .apart hd hds, rfl⟩
      · have hplain : plain e ≠ '_' := mt (plain_eq_iff (by decide)).mp he
        have hsame : dropUnderscores? false (plainDigits (e :: more)) = some rest := by
          rw [hcons, dropUnderscores?_cons hplain] at hrest ⊢
          exact hrest
        have hne : rest ≠ [] := ne_nil_of_dropUnderscores? hplain hsame
        obtain ⟨ds, hds, rfl⟩ := exists_writesDigits (e :: more) hsame hne hdigits
        exact ⟨c :: ds, .next hd hds, rfl⟩
termination_by written => written.length

/-! ### Numbers with their surroundings -/

lemma exists_stripNumber (s : List Char) : ∃ front back, s = front ++ stripNumber s ++ back ∧
    (∀ c ∈ front, isNumberBlank c = true) ∧ ∀ c ∈ back, isNumberBlank c = true := by
  refine ⟨s.takeWhile isNumberBlank,
    (((s.dropWhile isNumberBlank).reverse.takeWhile isNumberBlank)).reverse, ?_, ?_, ?_⟩
  · rw [stripNumber, List.append_assoc, ← List.reverse_append, List.takeWhile_append_dropWhile,
      List.reverse_reverse, List.takeWhile_append_dropWhile]
  · exact fun c hc => List.mem_takeWhile_imp hc
  · exact fun c hc => List.mem_takeWhile_imp (List.mem_reverse.mp hc)

lemma dropWhile_blanks {front core : List Char} (hfront : ∀ c ∈ front, isNumberBlank c = true)
    (hcore : ∃ c ∈ core.head?, isNumberBlank c = false) :
    (front ++ core).dropWhile isNumberBlank = core := by
  obtain ⟨c, hc, hblank⟩ := hcore
  obtain ⟨more, rfl⟩ := List.head?_eq_some_iff.mp hc
  rw [List.dropWhile_append_of_pos hfront, List.dropWhile_cons_of_neg (by simp [hblank])]

/-- Blanks around a text without blanks at its ends are taken off. -/
lemma stripNumber_append {front core back : List Char}
    (hfront : ∀ c ∈ front, isNumberBlank c = true) (hback : ∀ c ∈ back, isNumberBlank c = true)
    (hhead : ∃ c ∈ core.head?, isNumberBlank c = false)
    (hlast : ∃ c ∈ core.getLast?, isNumberBlank c = false) :
    stripNumber (front ++ core ++ back) = core := by
  have hboth : ∃ c ∈ (core ++ back).head?, isNumberBlank c = false := by
    obtain ⟨c, hc, hblank⟩ := hhead
    exact ⟨c, by rw [List.head?_append, Option.mem_def.mp hc]; rfl, hblank⟩
  have hreverse : ∃ c ∈ core.reverse.head?, isNumberBlank c = false := by
    rwa [List.head?_reverse]
  rw [stripNumber, List.append_assoc, dropWhile_blanks hfront hboth, List.reverse_append,
    dropWhile_blanks (fun c hc => hback c (List.mem_reverse.mp hc)) hreverse, List.reverse_reverse]

lemma stripNumber_of_writesDigits {front mark written back : List Char}
    (hfront : ∀ c ∈ front, isNumberBlank c = true) (hback : ∀ c ∈ back, isNumberBlank c = true)
    (hmark : ∀ c ∈ mark, isNumberBlank c = false) (h : WritesDigits ds written) :
    stripNumber (front ++ (mark ++ written) ++ back) = mark ++ written := by
  obtain ⟨d, more, hwritten, hd⟩ := h.head
  obtain ⟨d', hlast, hd'⟩ := h.getLast?
  refine stripNumber_append hfront hback ?_ ⟨d', ?_, isNumberBlank_of_isDigit hd'⟩
  · cases mark with
    | nil => exact ⟨d, by rw [hwritten]; rfl, isNumberBlank_of_isDigit hd⟩
    | cons c mark => exact ⟨c, rfl, hmark c List.mem_cons_self⟩
  · rw [List.getLast?_append, hlast]
    rfl

/-- What is read is decided by the digits that are left. -/
lemma readInt_eq {negative : Bool} {body found : List Char}
    (hsign : sign (stripNumber s) = (negative, body))
    (hfound : dropUnderscores? false (plainDigits body) = some found) (hne : found ≠ [])
    (hdigits : ∀ d ∈ found, d.isDigit = true) :
    readInt s = if maxDigits < found.length then .error (.tooLong found.length)
      else .ok (if negative then -(digitsValue found : Int) else digitsValue found) := by
  have hall : (found.isEmpty || !found.all Char.isDigit) = false := by
    rw [List.isEmpty_eq_false_iff.mpr hne, List.all_eq_true.mpr hdigits]
    rfl
  unfold readInt
  rw [stripNumber_plainDigits, sign_plainDigits, hsign]
  simp only [hfound, hall, Bool.false_eq_true, if_false]

lemma readInt_of_writesDigits {negative : Bool} {body : List Char}
    (hsign : sign (stripNumber s) = (negative, body)) (h : WritesDigits ds body) :
    readInt s = if maxDigits < ds.length then .error (.tooLong ds.length)
      else .ok (if negative then -(numberOf ds : Int) else numberOf ds) := by
  have hlength : (plainDigits ds).length = ds.length := List.length_map _
  rw [readInt_eq hsign (dropUnderscores?_plainDigits h false)
    (List.map_eq_nil_iff.not.mpr h.ne_nil.1) (isDigit_of_mem_plainDigits h.isDigit_of_mem), hlength,
    digitsValue_plainDigits h.isDigit_of_mem]

/-- A whole number is read as itself unless it has too many digits. -/
theorem readInt_of_writesWhole (h : WritesWhole s ds n) :
    readInt s = if maxDigits < ds.length then .error (.tooLong ds.length) else .ok n := by
  cases h with
  | @positive front mark written back hs hfront hback hmark hdigits =>
    have hplain : ∀ c ∈ mark, isNumberBlank c = false := by
      rcases hmark with rfl | rfl <;> simp
      decide
    have hsign : sign (stripNumber s) = (false, written) := by
      rw [hs, stripNumber_of_writesDigits hfront hback hplain hdigits]
      rcases hmark with rfl | rfl
      · obtain ⟨d, more, rfl, hd⟩ := hdigits.head
        refine sign_cons ?_ ?_ more
        all_goals
          rintro rfl
          exact absurd hd (by decide)
      · rfl
    rw [readInt_of_writesDigits hsign hdigits]
    rfl
  | @negative front written back hs hfront hback hdigits =>
    have hplain : ∀ c ∈ ['-'], isNumberBlank c = false := List.forall_mem_singleton.mpr (by decide)
    have hsign : sign (stripNumber s) = (true, written) := by
      rw [hs, ← List.singleton_append, stripNumber_of_writesDigits hfront hback hplain hdigits]
      rfl
    rw [readInt_of_writesDigits hsign hdigits]
    rfl

/-- Only whole numbers are read as numbers. -/
theorem exists_writesWhole (h : readInt s ≠ .error .malformed) : ∃ ds n, WritesWhole s ds n := by
  obtain ⟨front, back, hs, hfront, hback⟩ := exists_stripNumber s
  have hread : ∃ ds, WritesDigits ds (sign (stripNumber s)).2 := by
    unfold readInt at h
    rw [stripNumber_plainDigits, sign_plainDigits] at h
    cases hfound : dropUnderscores? false (plainDigits (sign (stripNumber s)).2) with
    | none => simp [hfound] at h
    | some found =>
      by_cases hmalformed : (found.isEmpty || !found.all Char.isDigit) = true
      · simp only [hfound, hmalformed, if_true] at h
        exact absurd rfl h
      · rw [Bool.not_eq_true, Bool.or_eq_false_iff, Bool.not_eq_false'] at hmalformed
        obtain ⟨hne, hdigits⟩ := hmalformed
        obtain ⟨ds, hds, -⟩ := exists_writesDigits _ hfound (List.isEmpty_eq_false_iff.mp hne)
          (List.all_eq_true.mp hdigits)
        exact ⟨ds, hds⟩
  obtain ⟨ds, hds⟩ := hread
  generalize stripNumber s = core at hs hds
  unfold sign at hds
  split at hds
  · exact ⟨ds, _, .negative hs hfront hback hds⟩
  · exact ⟨ds, _, .positive hs hfront hback (.inr rfl) hds⟩
  · exact ⟨ds, _, .positive hs hfront hback (.inl rfl) hds⟩

theorem readInt_eq_ok_iff :
    readInt s = .ok n ↔ ∃ ds, WritesWhole s ds n ∧ ds.length ≤ maxDigits := by
  constructor
  · intro h
    obtain ⟨ds, m, hwrites⟩ : ∃ ds m, WritesWhole s ds m := exists_writesWhole (by simp [h])
    have hread := readInt_of_writesWhole hwrites
    rw [h] at hread
    split at hread
    · cases hread
    · next hlength =>
      obtain rfl := Except.ok.inj hread
      exact ⟨ds, hwrites, Nat.le_of_not_lt hlength⟩
  · rintro ⟨ds, hwrites, hlength⟩
    rw [readInt_of_writesWhole hwrites, if_neg (Nat.not_lt.mpr hlength)]

end QuizPreflight.Decimal
