import QuizPreflight.Package.Check
import QuizPreflight.Proofs.Text.Lines
import QuizPreflight.Proofs.Text.Percent

/-!
# Spellings of references

A relative path can be written as a reference in many ways: with further slashes and single dots,
with any of its characters percent-encoded, with a query or a fragment behind it. Each of them
resolves to the path itself, joined to the base that it is seen from.
-/
namespace QuizPreflight

open Text

variable {names : List String} {pieces : List (List Char)}

namespace Path

/-- A component of a path that is kept when the path is read. -/
structure IsName (n : String) : Prop where
  ne_empty : n ≠ ""
  ne_dot : n ≠ "."
  slash_notMem : '/' ∉ n.toList

/-- The components of a path, and among them single dots and empty ones, where slashes stand in
front, at the end or side by side. -/
inductive Padded : List String → List (List Char) → Prop
  | nil : Padded [] []
  | name {n : String} {names : List String} {pieces : List (List Char)}
      (rest : Padded names pieces) : Padded (n :: names) (n.toList :: pieces)
  | empty {names : List String} {pieces : List (List Char)} (rest : Padded names pieces) :
      Padded names ([] :: pieces)
  | dot {names : List String} {pieces : List (List Char)} (rest : Padded names pieces) :
      Padded names (['.'] :: pieces)

/-- A relative path as a text. -/
def relative (names : List String) : String :=
  String.ofList (joinWith ['/'] (names.map String.toList))

lemma padded_self (names : List String) : Padded names (names.map String.toList) := by
  induction names with
  | nil => exact .nil
  | cons n names ih => exact .name ih

lemma Padded.slash_notMem (h : Padded names pieces) (hnames : ∀ n ∈ names, IsName n) :
    ∀ piece ∈ pieces, '/' ∉ piece := by
  induction h with
  | nil => simp
  | name _ ih =>
    obtain ⟨hn, hnames⟩ := List.forall_mem_cons.mp hnames
    exact List.forall_mem_cons.mpr ⟨hn.slash_notMem, ih hnames⟩
  | empty _ ih => exact List.forall_mem_cons.mpr ⟨List.not_mem_nil, ih hnames⟩
  | dot _ ih => exact List.forall_mem_cons.mpr ⟨by decide, ih hnames⟩

lemma Padded.ne_nil (h : Padded names pieces) (hnames : names ≠ []) : pieces ≠ [] := by
  cases h with
  | nil => exact absurd rfl hnames
  | name _ => exact List.cons_ne_nil _ _
  | empty _ => exact List.cons_ne_nil _ _
  | dot _ => exact List.cons_ne_nil _ _

/-- Reading drops what was put in. -/
lemma Padded.filter_eq (h : Padded names pieces) (hnames : ∀ n ∈ names, IsName n) :
    (pieces.filter fun n => !n.isEmpty && n != ['.']).map String.ofList = names := by
  induction h with
  | nil => rfl
  | @name n names pieces _ ih =>
    obtain ⟨hn, hnames⟩ := List.forall_mem_cons.mp hnames
    have hempty : n.toList ≠ [] := fun h => hn.ne_empty (String.toList_injective h)
    have hdot : n.toList ≠ ['.'] := fun h => hn.ne_dot (String.toList_injective h)
    have hkept : (!n.toList.isEmpty && n.toList != ['.']) = true := by simp [hempty, hdot]
    simp only [List.filter_cons, hkept, if_true, List.map_cons, ih hnames, String.ofList_toList]
  | empty _ ih =>
    rw [List.filter_cons_of_neg (by decide)]
    exact ih hnames
  | dot _ ih =>
    rw [List.filter_cons_of_neg (by decide)]
    exact ih hnames

theorem namesOf_joinWith (h : Padded names pieces) (hne : names ≠ [])
    (hnames : ∀ n ∈ names, IsName n) : namesOf (joinWith ['/'] pieces) = names := by
  rw [namesOf, splitOn_joinWith (h.ne_nil hne) (h.slash_notMem hnames), h.filter_eq hnames]

/-- Slashes in front make no name. -/
lemma namesOf_dropWhile (s : List Char) : namesOf (s.dropWhile (· == '/')) = namesOf s := by
  induction s with
  | nil => rfl
  | cons c s ih =>
    by_cases hc : c = '/'
    · subst hc
      rw [List.dropWhile_cons_of_pos (by decide), ih, namesOf, namesOf, splitOn, if_pos rfl,
        List.filter_cons_of_neg (by decide)]
    · rw [List.dropWhile_cons_of_neg (by simpa using hc)]

/-- A relative path is read as its names, without a slash in front. -/
theorem ofString_relative (hne : names ≠ []) (hnames : ∀ n ∈ names, IsName n) :
    ofString (relative names) = ⟨0, names⟩ := by
  obtain ⟨n, rest, rfl⟩ := List.exists_cons_of_ne_nil hne
  have hn := hnames n List.mem_cons_self
  obtain ⟨c, s, hs⟩ := List.exists_cons_of_ne_nil fun h => hn.ne_empty (String.toList_injective h)
  have hc : c ≠ '/' := by
    rintro rfl
    exact hn.slash_notMem (hs ▸ List.mem_cons_self)
  have hfront : ∃ t, joinWith ['/'] ((n :: rest).map String.toList) = c :: t := by
    cases rest with
    | nil => exact ⟨s, hs⟩
    | cons m rest =>
      rw [List.map_cons, List.map_cons, joinWith_cons_cons, hs]
      exact ⟨_, rfl⟩
  obtain ⟨t, ht⟩ := hfront
  have hslashes : slashesOf (c :: t) = 0 := by
    rw [slashesOf, List.takeWhile_cons_of_neg (by simpa using hc)]
    rfl
  rw [ofString, relative, String.toList_ofList, namesOf_joinWith (padded_self _) hne hnames, ht,
    hslashes]

end Path

namespace Package

open QuizPreflight.Path

/-- What may follow a path in a reference. -/
inductive Appendix : List Char → Prop
  | nothing : Appendix []
  | query (text : List Char) : Appendix ('?' :: text)
  | fragment (text : List Char) : Appendix ('#' :: text)

/-- A reference is one way to write the path of some names. -/
inductive Spells (names : List String) : String → Prop
  | mk {pieces : List (List Char)} {code appendix : List Char} (padded : Padded names pieces)
      (encoded : Encodes (joinWith ['/'] pieces) code) (appended : Appendix appendix) :
      Spells names (String.ofList (code ++ appendix))

variable {href : String} {code appendix : List Char}

/-- A text is cut at the first of a character. -/
lemma upTo_append_of_notMem {c : Char} {s : List Char} (h : c ∉ s) (t : List Char) :
    upTo c (s ++ t) = s ++ upTo c t := by
  refine List.takeWhile_append_of_pos fun d hd => bne_iff_ne.mpr ?_
  rintro rfl
  exact h hd

/-- What follows a path is cut off, whichever of the two characters it begins with. -/
lemma upTo_appendix (hquery : '?' ∉ code) (hfragment : '#' ∉ code) (h : Appendix appendix) :
    upTo '?' (upTo '#' (code ++ appendix)) = code := by
  rw [upTo_append_of_notMem hfragment, upTo_append_of_notMem hquery]
  cases h with
  | nothing => exact List.append_nil code
  | query text => exact List.append_nil code
  | fragment text => exact List.append_nil code

theorem referenceNames_of_spells (hne : names ≠ []) (hnames : ∀ n ∈ names, IsName n)
    (h : Spells names href) : referenceNames href = names := by
  obtain ⟨padded, encoded, appended⟩ := h
  have hquery := encoded.notMem (d := '?') (by decide)
  have hfragment := encoded.notMem (d := '#') (by decide)
  rw [referenceNames, String.toList_ofList, upTo_appendix hquery hfragment appended,
    percentDecode_of_encodes encoded, namesOf_dropWhile, namesOf_joinWith padded hne hnames]

/-- However a relative path is written as a reference, it is resolved to that path, joined to the
base. It stays below the base, which no spelling replaces by an absolute path. -/
theorem resolve_spelled (hne : names ≠ []) (hnames : ∀ n ∈ names, IsName n)
    (h : Spells names href) (base : Path) :
    resolve base href = (Path.ofString (relative names)).within base ∧
      (resolve base href).slashes = base.slashes ∧
      (resolve base href).names = base.names ++ names := by
  rw [resolve, referenceNames_of_spells hne hnames h, ofString_relative hne hnames]
  exact ⟨rfl, rfl, rfl⟩

/-- Slashes and a dot are put in, one character of two bytes is encoded beside one that is not,
and a query with a fragment follows. -/
theorem resolve_spelled_mixed :
    Spells ["é", "ü#", ".."] "//é/./%C3%bc%23/..?v#f" ∧
      resolve ⟨1, ["q"]⟩ "//é/./%C3%bc%23/..?v#f" = ⟨1, ["q", "é", "ü#", ".."]⟩ := by
  have hnames : ∀ n ∈ ["é", "ü#", ".."], IsName n := by
    simp only [List.forall_mem_cons]
    exact ⟨⟨by decide, by decide, by decide⟩, ⟨by decide, by decide, by decide⟩,
      ⟨by decide, by decide, by decide⟩, by simp⟩
  have hpadded : Padded ["é", "ü#", ".."]
      [[], [], "é".toList, ['.'], "ü#".toList, "..".toList] :=
    .empty (.empty (.name (.dot (.name (.name .nil)))))
  have htext : joinWith ['/'] [[], [], "é".toList, ['.'], "ü#".toList, "..".toList] =
      ['/', '/', 'é', '/', '.', '/', 'ü', '#', '/', '.', '.'] := by decide
  have htwo : EscapesBytes (Utf8.encodeChar 'ü') ['%', 'C', '3', '%', 'b', 'c'] :=
    .byte ⟨by decide, .inr rfl⟩ ⟨by decide, .inl rfl⟩
      (.byte ⟨by decide, .inl rfl⟩ ⟨by decide, .inl rfl⟩ .nil)
  have hsign : EscapesBytes (Utf8.encodeChar '#') ['%', '2', '3'] :=
    .byte ⟨by decide, .inl rfl⟩ ⟨by decide, .inl rfl⟩ .nil
  have hplain : ∀ {c : Char} {s t : List Char}, reserved.contains c = false → Encodes s t →
      Encodes (c :: s) (c :: t) := fun h => .plain (by simpa using h)
  have hend : Encodes ['/', '.', '.'] ['/', '.', '.'] :=
    hplain rfl <| hplain rfl <| hplain rfl .nil
  have hcoded : Encodes ['ü', '#', '/', '.', '.'] "%C3%bc%23/..".toList :=
    .escaped htwo (.escaped hsign hend)
  have hencoded : Encodes ['/', '/', 'é', '/', '.', '/', 'ü', '#', '/', '.', '.']
      ('/' :: '/' :: 'é' :: '/' :: '.' :: '/' :: "%C3%bc%23/..".toList) :=
    hplain rfl <| hplain rfl <| hplain rfl <| hplain rfl <| hplain rfl <| hplain rfl hcoded
  have hspelled : Spells ["é", "ü#", ".."] "//é/./%C3%bc%23/..?v#f" := by
    rw [← htext] at hencoded
    exact .mk hpadded hencoded (.query ['v', '#', 'f'])
  obtain ⟨-, hslashes, hjoined⟩ := resolve_spelled (by simp) hnames hspelled ⟨1, ["q"]⟩
  exact ⟨hspelled, congrArg₂ Path.mk hslashes hjoined⟩

end Package

end QuizPreflight
