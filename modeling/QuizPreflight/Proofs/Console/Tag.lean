import Mathlib.Data.List.Basic
import Mathlib.Data.List.TakeWhile
import QuizPreflight.Console.Tag
import QuizPreflight.Proofs.Result
import QuizPreflight.Proofs.Text.Character
import QuizPreflight.Proofs.Text.Trimming

/-!
# Texts that can be shown

A tagged text can be shown unless a tag in force closes what is not open. A tag does not reach
over an opening bracket, so that texts side by side have the tags of both if the second opens
before it closes. Escaping a text leaves no tag in force, whatever stands around it.
-/
namespace QuizPreflight.Console

open QuizPreflight.Text

/-- What may stand between the brackets of a tag. -/
def IsTagBody : List Char → Prop
  | [] => False
  | c :: s => isTagStart c = true ∧ ∀ d ∈ s, d ≠ '[' ∧ d ≠ ']'

/-- A tag stands somewhere in a text, in force or not. -/
def HasTag (s : List Char) : Prop :=
  ∃ before body after, IsTagBody body ∧ s = before ++ '[' :: (body ++ ']' :: after)

/-- An opening bracket stands in front of every closing one. -/
def OpensFirst (s : List Char) : Prop := ∀ front rest, s = front ++ ']' :: rest → '[' ∈ front

/-- The text that a place of a tag was found in. -/
def TagPlace.text (p : TagPlace) : List Char :=
  p.before ++ (List.replicate p.slashes '\\' ++ '[' :: (p.body ++ ']' :: p.after))

section Tags

variable {s t u body rest : List Char} {p : TagPlace} {k : Nat}

lemma IsTagBody.bracket_notMem (h : IsTagBody body) : '[' ∉ body := by
  cases body with
  | nil => exact List.not_mem_nil
  | cons c body =>
    obtain ⟨hstart, hinside⟩ := h
    rintro (_ | ⟨_, hmem⟩)
    · exact absurd hstart (by decide)
    · exact (hinside _ hmem).1 rfl

lemma tagAt?_eq_some_iff :
    tagAt? s = some (body, rest) ↔ IsTagBody body ∧ s = '[' :: (body ++ ']' :: rest) := by
  constructor
  · intro h
    unfold tagAt? at h
    split at h
    · next c s =>
      dsimp only at h
      split at h
      · next rest' hstart hdrop =>
        cases h
        refine ⟨⟨hstart, fun d hd => ?_⟩, ?_⟩
        · simpa using List.mem_takeWhile_imp hd
        · rw [List.cons_append, ← hdrop, List.takeWhile_append_dropWhile]
      · cases h
    · cases h
  · rintro ⟨hbody, rfl⟩
    cases body with
    | nil => exact hbody.elim
    | cons c body =>
      obtain ⟨hstart, hinside⟩ := hbody
      have hall : ∀ d ∈ body, (d != '[' && d != ']') = true := by simpa using hinside
      simp only [tagAt?, List.cons_append]
      rw [List.dropWhile_append_of_pos hall, List.takeWhile_append_of_pos hall]
      simp [hstart]

lemma opensFirst_of_notMem (h : ']' ∉ s) : OpensFirst s := by
  rintro front rest rfl
  simp at h

lemma opensFirst_slashes (k : Nat) (s : List Char) :
    OpensFirst (List.replicate k '\\' ++ '[' :: s) := by
  induction k with
  | zero =>
    intro front rest h
    cases front with
    | nil => simp at h
    | cons c front =>
      obtain ⟨rfl, -⟩ := List.cons.inj h
      exact List.mem_cons_self
  | succ k ih =>
    intro front rest h
    cases front with
    | nil => simp [List.replicate_succ] at h
    | cons c front =>
      rw [List.replicate_succ, List.cons_append, List.cons_append, List.cons.injEq] at h
      exact List.mem_cons_of_mem c (ih front rest h.2)

/-- A tag that begins in a text and ends in what follows would reach over an opening bracket. -/
lemma hasTag_of_append {before after : List Char} (ht : OpensFirst t) (hbody : IsTagBody body)
    (h : s ++ t = before ++ '[' :: (body ++ ']' :: after)) (hlt : before.length < s.length) :
    HasTag s := by
  rcases List.append_eq_append_iff.mp h with ⟨more, rfl, -⟩ | ⟨more, rfl, hmore⟩
  · rw [List.length_append] at hlt
    omega
  · cases more with
    | nil => simp at hlt
    | cons c more =>
      obtain ⟨rfl, hrest⟩ := List.cons.inj hmore
      rcases List.append_eq_append_iff.mp hrest with ⟨gap, rfl, hgap⟩ | ⟨gap, rfl, hgap⟩
      · cases gap with
        | nil => exact absurd (ht [] after (by simpa using hgap.symm)) List.not_mem_nil
        | cons d gap =>
          obtain ⟨rfl, -⟩ := List.cons.inj hgap
          exact ⟨before, body, gap, hbody, rfl⟩
      · exact absurd (List.mem_append_right more (ht gap after hgap)) hbody.bracket_notMem

lemma takeWhile_isSlash (s : List Char) :
    s.takeWhile isSlash = List.replicate (s.takeWhile isSlash).length '\\' :=
  List.eq_replicate_iff.mpr ⟨rfl, fun c hc => by simpa [isSlash] using List.mem_takeWhile_imp hc⟩

lemma dropWhile_isSlash (k : Nat) (s : List Char) :
    (List.replicate k '\\' ++ '[' :: s).dropWhile isSlash = '[' :: s := by
  rw [List.dropWhile_append_of_pos (by simp [isSlash])]
  rfl

lemma takeWhile_isSlash_replicate (k : Nat) (s : List Char) :
    (List.replicate k '\\' ++ '[' :: s).takeWhile isSlash = List.replicate k '\\' := by
  rw [List.takeWhile_append_of_pos (by simp [isSlash])]
  simp [isSlash]

lemma firstTag?_of_tagAt? (h : tagAt? (s.dropWhile isSlash) = some (body, rest)) :
    firstTag? s = some ⟨[], (s.takeWhile isSlash).length, body, rest⟩ := by
  cases s with
  | nil => cases h
  | cons c s =>
    unfold firstTag?
    rw [h]

lemma firstTag?_cons {c : Char} (h : tagAt? ((c :: s).dropWhile isSlash) = none) :
    firstTag? (c :: s) = (firstTag? s).map fun p => { p with before := c :: p.before } := by
  rw [firstTag?, h]

lemma not_hasTag_of_firstTag? (h : firstTag? s = none) : ¬HasTag s := by
  rintro ⟨before, body, after, hbody, rfl⟩
  induction before with
  | nil =>
    rw [firstTag?_of_tagAt? (tagAt?_eq_some_iff.mpr ⟨hbody, rfl⟩)] at h
    cases h
  | cons c before ih =>
    cases htag : tagAt? ((c :: (before ++ '[' :: (body ++ ']' :: after))).dropWhile isSlash) with
    | none =>
      rw [List.cons_append, firstTag?_cons htag, Option.map_eq_none_iff] at h
      exact ih h
    | some found =>
      rw [List.cons_append, firstTag?_of_tagAt? htag] at h
      cases h

/-- The first tag stands behind text without one, and no backslash in front of it is missed. -/
theorem text_of_firstTag? (h : firstTag? s = some p) :
    s = p.text ∧ IsTagBody p.body ∧ ¬HasTag p.before ∧ p.before.getLast? ≠ some '\\' := by
  induction s generalizing p with
  | nil => cases h
  | cons c s ih =>
    cases htag : tagAt? ((c :: s).dropWhile isSlash) with
    | some found =>
      rw [firstTag?_of_tagAt? htag] at h
      cases h
      obtain ⟨hbody, hdrop⟩ := tagAt?_eq_some_iff.mp htag
      refine ⟨?_, hbody, by simp [HasTag], by simp⟩
      rw [TagPlace.text, ← hdrop, List.nil_append, ← takeWhile_isSlash,
        List.takeWhile_append_dropWhile]
    | none =>
      rw [firstTag?_cons htag] at h
      obtain ⟨q, hq, rfl⟩ := Option.map_eq_some_iff.mp h
      obtain ⟨rfl, hbody, hnone, hlast⟩ := ih hq
      refine ⟨rfl, hbody, ?_, ?_⟩
      · rintro ⟨before, body, after, htagged, hbefore⟩
        cases before with
        | nil =>
          obtain ⟨rfl, hafter⟩ := List.cons.inj hbefore
          rw [TagPlace.text, hafter, List.append_assoc, List.cons_append] at htag
          have hfound : tagAt? ('[' :: (body ++ ']' :: (after ++ (List.replicate q.slashes '\\' ++
              '[' :: (q.body ++ ']' :: q.after))))) = none := htag
          rw [tagAt?_eq_some_iff.mpr ⟨htagged, rfl⟩] at hfound
          cases hfound
        | cons d before => exact hnone ⟨before, body, after, htagged, (List.cons.inj hbefore).2⟩
      · intro hslash
        cases hbefore : q.before with
        | nil =>
          obtain rfl : c = '\\' := by simpa [hbefore] using hslash
          have hdrop := dropWhile_isSlash (q.slashes + 1) (q.body ++ ']' :: q.after)
          rw [TagPlace.text, hbefore, List.nil_append] at htag
          rw [List.replicate_succ, List.cons_append] at hdrop
          rw [hdrop, tagAt?_eq_some_iff.mpr ⟨hbody, rfl⟩] at htag
          cases htag
        | cons d before => exact hlast (by simpa [hbefore] using hslash)

/-- A tag is the first one if none stands in front of it. -/
theorem firstTag?_of_text (hbody : IsTagBody body) (hnone : ¬HasTag s)
    (hlast : s.getLast? ≠ some '\\') (k : Nat) (rest : List Char) :
    firstTag? (TagPlace.text ⟨s, k, body, rest⟩) = some ⟨s, k, body, rest⟩ := by
  unfold TagPlace.text
  dsimp only
  induction s with
  | nil =>
    have htag : tagAt? ((List.replicate k '\\' ++ '[' :: (body ++ ']' :: rest)).dropWhile isSlash) =
        some (body, rest) := by
      rw [dropWhile_isSlash]
      exact tagAt?_eq_some_iff.mpr ⟨hbody, rfl⟩
    rw [List.nil_append, firstTag?_of_tagAt? htag, takeWhile_isSlash_replicate,
      List.length_replicate]
  | cons c s ih =>
    have hrest : ¬HasTag s := by
      rintro ⟨before, body, after, htagged, rfl⟩
      exact hnone ⟨c :: before, body, after, htagged, rfl⟩
    have hend : s.getLast? ≠ some '\\' := by
      intro hslash
      exact hlast (by simp [List.getLast?_cons, hslash])
    have htag : tagAt? ((c :: (s ++ (List.replicate k '\\' ++
        '[' :: (body ++ ']' :: rest)))).dropWhile isSlash) = none := by
      by_contra hfound
      obtain ⟨⟨body', rest'⟩, hfound⟩ := Option.ne_none_iff_exists'.mp hfound
      obtain ⟨hbody', hdrop⟩ := tagAt?_eq_some_iff.mp hfound
      have hsplit := List.takeWhile_append_dropWhile (p := isSlash)
        (l := c :: s ++ (List.replicate k '\\' ++ '[' :: (body ++ ']' :: rest)))
      rw [List.cons_append, hdrop, ← List.cons_append] at hsplit
      -- the other tag begins in front of this one, or nothing but backslashes does
      refine hnone (hasTag_of_append (opensFirst_slashes k _) hbody' hsplit.symm ?_)
      by_contra hlong
      have hslashes := List.prefix_of_prefix_length_le (List.prefix_append (c :: s) _)
        (hsplit ▸ List.prefix_append _ _) (Nat.le_of_not_lt hlong)
      have hmem := hslashes.subset (List.getLast_mem (List.cons_ne_nil c s))
      rw [List.getLast?_eq_some_getLast (List.cons_ne_nil c s)] at hlast
      exact hlast (congrArg some (by simpa [isSlash] using List.mem_takeWhile_imp hmem))
    rw [List.cons_append, firstTag?_cons htag, ih hrest hend]
    rfl

end Tags

/-! ### Texts that can be shown -/

/-- A text can be shown where some tags are open: each of its tags in force that closes one finds
it open. An odd number of backslashes takes a tag out of force. -/
inductive Shows : List String → List Char → Prop
  | plain {opened : List String} {s : List Char} (h : firstTag? s = none) : Shows opened s
  | literal {opened : List String} {s : List Char} {p : TagPlace} (h : firstTag? s = some p)
      (hodd : p.slashes % 2 = 1) (hrest : Shows opened p.after) : Shows opened s
  | tag {opened opened' : List String} {s : List Char} {p : TagPlace} (h : firstTag? s = some p)
      (heven : p.slashes % 2 ≠ 1) (hopened : applyTag opened p.body 0 = .ok opened')
      (hrest : Shows opened' p.after) : Shows opened s

section Showing

variable {opened opened' : List String} {s t u body rest : List Char} {p : TagPlace} {k : Nat}

lemma length_after_lt (h : firstTag? s = some p) : p.after.length < s.length := by
  obtain ⟨rfl, -⟩ := text_of_firstTag? h
  simp only [TagPlace.text, List.length_append, List.length_cons]
  omega

lemma applyTag_eq_ok_iff (position : Nat) :
    applyTag opened body position = .ok opened' ↔ applyTag opened body 0 = .ok opened' := by
  unfold applyTag
  split
  · split
    · split <;> simp
    · dsimp only
      split <;> simp
  · simp

/-- A tag is read and then what follows it. -/
lemma shows_iff_of_firstTag? (h : firstTag? s = some p) :
    Shows opened s ↔ (p.slashes % 2 = 1 ∧ Shows opened p.after) ∨
      (p.slashes % 2 ≠ 1 ∧ ∃ opened', applyTag opened p.body 0 = .ok opened' ∧
        Shows opened' p.after) := by
  constructor
  · intro hs
    cases hs with
    | plain hnone => rw [hnone] at h; cases h
    | literal hp hodd hrest =>
      obtain rfl := Option.some.inj (hp.symm.trans h)
      exact .inl ⟨hodd, hrest⟩
    | tag hp heven hopened hrest =>
      obtain rfl := Option.some.inj (hp.symm.trans h)
      exact .inr ⟨heven, _, hopened, hrest⟩
  · rintro (⟨hodd, hrest⟩ | ⟨heven, opened', hopened, hrest⟩)
    · exact .literal h hodd hrest
    · exact .tag h heven hopened hrest

/-- The text from a position on is shown exactly if it can be. -/
theorem shownFrom_ok_iff {fuel : Nat} (hfuel : s.length ≤ fuel) (position : Nat) :
    (∃ out, shownFrom fuel position opened s = .ok out) ↔ Shows opened s := by
  induction fuel generalizing s position opened with
  | zero =>
    obtain rfl := List.length_eq_zero_iff.mp (Nat.le_zero.mp hfuel)
    exact iff_of_true ⟨_, rfl⟩ (.plain rfl)
  | succ fuel ih =>
    cases h : firstTag? s with
    | none =>
      rw [shownFrom, h]
      exact iff_of_true ⟨_, rfl⟩ (.plain h)
    | some p =>
      have hlt := length_after_lt h
      have hafter : p.after.length ≤ fuel := by omega
      rw [shows_iff_of_firstTag? h, shownFrom, h]
      dsimp only
      split
      · next hodd =>
        rw [or_iff_left fun h => h.1 hodd, and_iff_right hodd]
        simp only [bind_eq_ok_iff]
        constructor
        · rintro ⟨-, found, hfound, -⟩
          exact (ih hafter _).mp ⟨found, hfound⟩
        · intro hrest
          obtain ⟨found, hfound⟩ := (ih hafter _).mpr hrest
          exact ⟨_, found, hfound, rfl⟩
      · next heven =>
        rw [or_iff_right fun h => heven h.1, and_iff_right heven]
        simp only [bind_eq_ok_iff, applyTag_eq_ok_iff]
        constructor
        · rintro ⟨-, opened', hopened, found, hfound, -⟩
          exact ⟨opened', hopened, (ih hafter _).mp ⟨found, hfound⟩⟩
        · rintro ⟨opened', hopened, hrest⟩
          obtain ⟨found, hfound⟩ := (ih hafter _).mpr hrest
          exact ⟨_, opened', hopened, found, hfound, rfl⟩

/-- A tag without one in front of it is read first. -/
lemma shows_text (hbody : IsTagBody body) (hnone : ¬HasTag u) (hlast : u.getLast? ≠ some '\\')
    (k : Nat) (rest : List Char) :
    Shows opened (TagPlace.text ⟨u, k, body, rest⟩) ↔ (k % 2 = 1 ∧ Shows opened rest) ∨
      (k % 2 ≠ 1 ∧ ∃ opened', applyTag opened body 0 = .ok opened' ∧ Shows opened' rest) :=
  shows_iff_of_firstTag? (firstTag?_of_text hbody hnone hlast k rest)

lemma firstTag?_of_not_hasTag (h : ¬HasTag s) : firstTag? s = none := by
  cases htag : firstTag? s with
  | none => rfl
  | some p =>
    obtain ⟨rfl, hbody, -⟩ := text_of_firstTag? htag
    exact absurd ⟨_, p.body, p.after, hbody, (List.append_assoc _ _ _).symm⟩ h

lemma shows_of_not_hasTag (h : ¬HasTag s) : Shows opened s := .plain (firstTag?_of_not_hasTag h)

lemma HasTag.append (h : HasTag s) (t u : List Char) : HasTag (t ++ (s ++ u)) := by
  obtain ⟨before, body, after, hbody, rfl⟩ := h
  exact ⟨t ++ before, body, after ++ u, hbody, by simp⟩

lemma not_hasTag_of_notMem (h : '[' ∉ s) : ¬HasTag s := by
  rintro ⟨before, body, after, -, rfl⟩
  simp at h

/-- No tag begins in text without an opening bracket. -/
lemma hasTag_append_left (h : '[' ∉ t) : HasTag (t ++ s) ↔ HasTag s := by
  refine ⟨?_, fun hs => by simpa using hs.append t []⟩
  rintro ⟨before, body, after, hbody, heq⟩
  rcases List.append_eq_append_iff.mp heq with ⟨more, rfl, rfl⟩ | ⟨more, rfl, hmore⟩
  · exact ⟨more, body, after, hbody, rfl⟩
  · cases more with
    | nil => exact ⟨[], body, after, hbody, hmore.symm⟩
    | cons c more =>
      obtain ⟨rfl, -⟩ := List.cons.inj hmore
      simp at h

/-- No tag ends in text without a closing bracket. -/
lemma hasTag_append_right (hopen : '[' ∉ t) (hclose : ']' ∉ t) : HasTag (s ++ t) ↔ HasTag s := by
  refine ⟨?_, fun hs => by simpa using hs.append [] t⟩
  rintro ⟨before, body, after, hbody, heq⟩
  refine hasTag_of_append (opensFirst_of_notMem hclose) hbody heq ?_
  by_contra hlong
  rcases List.append_eq_append_iff.mp heq with ⟨more, -, rfl⟩ | ⟨more, rfl, hmore⟩
  · simp at hopen
  · cases more with
    | nil =>
      obtain rfl : '[' :: (body ++ ']' :: after) = t := hmore
      simp at hopen
    | cons c more => simp at hlong

/-- Text without brackets or backslashes in front makes no difference. -/
lemma shows_append_left (hopen : '[' ∉ t) (hslash : '\\' ∉ t) :
    Shows opened (t ++ s) ↔ Shows opened s := by
  cases h : firstTag? s with
  | none =>
    have hnone := not_hasTag_of_firstTag? h
    exact iff_of_true (shows_of_not_hasTag (mt (hasTag_append_left hopen).mp hnone)) (.plain h)
  | some p =>
    obtain ⟨rfl, hbody, hnone, hlast⟩ := text_of_firstTag? h
    have htext : t ++ p.text = TagPlace.text ⟨t ++ p.before, p.slashes, p.body, p.after⟩ := by
      simp [TagPlace.text]
    have hlast' : (t ++ p.before).getLast? ≠ some '\\' := by
      rw [List.getLast?_append]
      cases hend : p.before.getLast? with
      | none => exact fun hslashes => hslash (List.mem_of_getLast? hslashes)
      | some c => simpa [hend] using hlast
    rw [htext, shows_text hbody (mt (hasTag_append_left hopen).mp hnone) hlast',
      ← shows_iff_of_firstTag? h]

end Showing

/-! ### Text in a style -/

/-- The name of a style, which may stand in a tag as it is. -/
structure IsStyleName (s : List Char) : Prop where
  body : IsTagBody s
  opening : s.head? ≠ some '/'
  plain : ∀ c ∈ s, c ≠ '=' ∧ isBlank c = false

section Styles

variable {opened opened' : List String} {s u body style rest : List Char}

/-- A tag behind text without tags is in force unless that text ends with a backslash. -/
lemma shows_tag (hbody : IsTagBody body) (hnone : ¬HasTag u) (hlast : u.getLast? ≠ some '\\')
    (opened : List String) (rest : List Char) :
    Shows opened (u ++ '[' :: (body ++ ']' :: rest)) ↔
      ∃ opened', applyTag opened body 0 = .ok opened' ∧ Shows opened' rest := by
  simpa [TagPlace.text] using shows_text hbody hnone hlast 0 rest

lemma exists_slashes (u : List Char) :
    ∃ v k, u = v ++ List.replicate k '\\' ∧ v.getLast? ≠ some '\\' := by
  induction u using List.reverseRecOn with
  | nil => exact ⟨[], 0, rfl, by simp⟩
  | append_singleton u c ih =>
    by_cases hc : c = '\\'
    · obtain ⟨v, k, rfl, hlast⟩ := ih
      exact ⟨v, k + 1, by rw [hc, List.replicate_succ', List.append_assoc], hlast⟩
    · exact ⟨u ++ [c], 0, by simp, by simpa using hc⟩

/-- A tag behind text without tags, in force or not. -/
lemma shows_tag_either (hbody : IsTagBody body) (hnone : ¬HasTag u)
    (hopened : applyTag opened body 0 = .ok opened') (hrest : Shows opened rest)
    (hrest' : Shows opened' rest) : Shows opened (u ++ '[' :: (body ++ ']' :: rest)) := by
  obtain ⟨v, k, rfl, hlast⟩ := exists_slashes u
  have hv : ¬HasTag v := fun hv => hnone (by simpa using hv.append [] (List.replicate k '\\'))
  rw [List.append_assoc]
  refine (shows_text hbody hv hlast k rest).mpr ?_
  by_cases hodd : k % 2 = 1
  · exact .inl ⟨hodd, hrest⟩
  · exact .inr ⟨hodd, opened', hopened, hrest'⟩

lemma plain_of_isLower {c : Char} (h : c.isLower = true) : isTagStart c = true ∧
    (c ≠ '[' ∧ c ≠ ']') ∧ c ≠ '/' ∧ c ≠ '=' ∧ isBlank c = false := by
  have hascii : c.toNat < 128 :=
    toNat_lt_of_isAsciiLetter ((Bool.or_eq_true_iff).mpr (.inr h))
  revert h
  exact forall_ascii (P := fun c => c.isLower = true → isTagStart c = true ∧
    (c ≠ '[' ∧ c ≠ ']') ∧ c ≠ '/' ∧ c ≠ '=' ∧ isBlank c = false) (by decide) hascii

namespace IsStyleName

lemma of_lower (hne : s ≠ []) (h : s.all Char.isLower = true) : IsStyleName s := by
  have hplain (c : Char) (hc : c ∈ s) := plain_of_isLower (List.all_eq_true.mp h c hc)
  obtain ⟨c, s, rfl⟩ := List.exists_cons_of_ne_nil hne
  obtain ⟨hfirst, hrest⟩ := List.forall_mem_cons.mp hplain
  exact ⟨⟨hfirst.1, fun d hd => (hrest d hd).2.1⟩, fun hslash => hfirst.2.2.1 (Option.some.inj hslash),
    fun d hd => (hplain d hd).2.2.2⟩

lemma slash (h : IsStyleName style) : IsTagBody ('/' :: style) := by
  refine ⟨by decide, ?_⟩
  cases style with
  | nil => exact h.body.elim
  | cons c style =>
    refine List.forall_mem_cons.mpr ⟨?_, h.body.2⟩
    constructor <;> rintro rfl <;> exact absurd h.body.1 (by decide)

lemma takeWhile_eq (h : IsStyleName style) : style.takeWhile (· != '=') = style :=
  List.takeWhile_eq_self_iff.mpr fun c hc => bne_iff_ne.mpr (h.plain c hc).1

lemma applyTag_open (h : IsStyleName style) :
    applyTag opened style 0 = .ok (normalName style :: opened) := by
  unfold applyTag
  rw [h.takeWhile_eq]
  split
  · exact absurd rfl h.opening
  · rfl

lemma strip_eq (h : IsStyleName style) : strip style = style :=
  strip_eq_self_iff.mpr ⟨fun c hc => (h.plain c (List.mem_of_mem_head? hc)).2,
    fun c hc => (h.plain c (List.mem_of_getLast? hc)).2⟩

lemma applyTag_close (h : IsStyleName style) :
    applyTag (normalName style :: opened) ('/' :: style) 0 = .ok opened := by
  have hnotblank : allBlank style = false := by
    cases style with
    | nil => exact h.body.elim
    | cons c style => simp [allBlank, (h.plain c List.mem_cons_self).2]
  unfold applyTag
  rw [List.takeWhile_cons_of_pos (p := (· != '=')) (by decide), h.takeWhile_eq]
  simp [hnotblank, h.strip_eq]

end IsStyleName

end Styles

/-! ### Escaped texts -/

section Escaping

variable {opened : List String} {s t u : List Char}

/-- Every tag of an escaped text is out of force; what counts is the text behind the last one. -/
lemma shows_escapeTags {fuel : Nat} (hfuel : s.length ≤ fuel)
    (ht : ∀ u, ¬HasTag u → u <:+ escapeTags fuel s → Shows opened (u ++ t)) :
    Shows opened (escapeTags fuel s ++ t) := by
  induction fuel generalizing s with
  | zero =>
    obtain rfl := List.length_eq_zero_iff.mp (Nat.le_zero.mp hfuel)
    exact ht [] (by simp [HasTag]) (List.suffix_refl [])
  | succ fuel ih =>
    cases h : firstTag? s with
    | none =>
      have hsame : escapeTags (fuel + 1) s = s := by rw [escapeTags, h]
      rw [hsame] at ht ⊢
      exact ht s (not_hasTag_of_firstTag? h) (List.suffix_refl s)
    | some p =>
      have hlt := length_after_lt h
      obtain ⟨-, hbody, hnone, hlast⟩ := text_of_firstTag? h
      have htext (t : List Char) : escapeTags (fuel + 1) s ++ t =
          TagPlace.text ⟨p.before, 2 * p.slashes + 1, p.body, escapeTags fuel p.after ++ t⟩ := by
        simp [escapeTags, h, TagPlace.text]
      have hsuffix : escapeTags fuel p.after <:+ escapeTags (fuel + 1) s := by
        rw [← List.append_nil (escapeTags (fuel + 1) s), htext, List.append_nil]
        exact ⟨p.before ++ (List.replicate (2 * p.slashes + 1) '\\' ++ '[' :: (p.body ++ [']'])),
          by simp [TagPlace.text]⟩
      rw [htext, shows_text hbody hnone hlast]
      exact .inl ⟨by omega, ih (by omega) fun u hu hbehind => ht u hu (hbehind.trans hsuffix)⟩

/-- Escaping puts backslashes in front of tags, and perhaps one at the end. -/
lemma toList_escape (text : String) :
    (escape text).toList = escapeTags text.toList.length text.toList ∨
      (escape text).toList = escapeTags text.toList.length text.toList ++ ['\\'] := by
  unfold escape
  dsimp only
  rw [String.toList_ofList]
  split
  · exact .inl rfl
  · exact .inr rfl
  · exact .inl rfl

/-- An escaped text can be shown in front of whatever can be shown behind the text that is left
behind its last tag. -/
theorem shows_escape (text : String)
    (ht : ∀ u, ¬HasTag u → u <:+ (escape text).toList → Shows opened (u ++ t)) :
    Shows opened ((escape text).toList ++ t) := by
  obtain hescape | hescape := toList_escape text
  · rw [hescape] at ht ⊢
    exact shows_escapeTags (Nat.le_refl _) ht
  · rw [hescape] at ht ⊢
    rw [List.append_assoc]
    refine shows_escapeTags (Nat.le_refl _) fun u hu hbehind => ?_
    have hnone : ¬HasTag (u ++ ['\\']) := mt (hasTag_append_right (by decide) (by decide)).mp hu
    rw [← List.append_assoc]
    exact ht _ hnone (List.suffix_append_self_iff.mpr hbehind)

end Escaping

end QuizPreflight.Console
