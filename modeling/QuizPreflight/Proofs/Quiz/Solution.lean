import QuizPreflight.Proofs.Quiz.Cut
import QuizPreflight.Proofs.Quiz.Outline
import QuizPreflight.Proofs.Text.Character

/-!
# Solution blocks

A solution block is left out as a whole, whatever stands in it: the lines behind it are read as
they are behind as many empty lines. It ends with the first line up to which no more divs are opened
than closed.
-/
namespace QuizPreflight.Quiz

open QuizPreflight.Text

/-- Divs opened less divs closed on some lines. -/
def openDivs : List (List Char) → Int
  | [] => 0
  | line :: lines => divBalance line + openDivs lines

/-- The lines of a solution block, from the one that opens it to the first one up to which no more
divs are opened than closed. -/
structure IsSolution (block : List (List Char)) : Prop where
  opens : ∃ line ∈ block.head?, opensSolution line = true
  isOpen : ∀ n < block.length, 0 < n → 0 < openDivs (block.take n)
  closes : openDivs block ≤ 0

/-- Empty lines in the place of others. -/
def blanked (block : List (List Char)) : List (List Char) := block.map fun _ => []

variable {p p' : Place} {line : List Char} {lines above block below : List (List Char)}

/-! ### Blank lines -/

lemma opensSolution_of_allBlank (h : allBlank line = true) : opensSolution line = false := by
  refine occurs_eq_false_iff.mpr fun rest hrest => ?_
  have hword : word "<div".toList rest = none := by
    cases rest with
    | nil => rfl
    | cons c rest =>
      have hblank : isBlank c = true := List.all_eq_true.mp h c (hrest.subset List.mem_cons_self)
      have hc : '<' ≠ c := by
        rintro rfl
        exact absurd hblank (by decide)
      have hletter : sameLetter '<' c = false := by
        simp [sameLetter, toLower_of_isBlank hblank, hc.symm]
      exact if_neg (Bool.eq_false_iff.mp hletter)
  have htag : solutionTag rest = false := by rw [solutionTag, hword]
  rw [htag, if_neg Bool.false_ne_true]

lemma isFence_of_allBlank (h : allBlank line = true) : isFence line = false := by
  rw [isFence, dropBlanks_of_allBlank h]
  rfl

lemma isHeadingLine_of_allBlank (h : allBlank line = true) :
    heading? line = none ∧ questionHeader? line = none := by
  cases line with
  | nil => exact ⟨rfl, rfl⟩
  | cons c line =>
    have hc : c ≠ '#' := by
      rintro rfl
      exact absurd (List.all_eq_true.mp h '#' List.mem_cons_self) (by decide)
    exact ⟨heading?_cons hc, questionHeader?_cons hc⟩

/-- Blank lines outside of blocks are active. -/
lemma assignRoles_of_allBlank (hp : p.IsOutside) (h : ∀ line ∈ lines, allBlank line = true) :
    assignRoles p lines = lines.map (fun line => (.active, line)) ∧ p.after lines = p := by
  refine assignRoles_of_forall_step fun line hline => ?_
  have hblank := h line hline
  exact Place.step_of_active hp (opensSolution_of_allBlank hblank) (isFence_of_allBlank hblank)

/-- Nothing is read from blank lines. -/
lemma readAll_of_allBlank (default : Float) (n : Nat) (progress : Progress) (hp : p.IsOutside)
    (h : ∀ line ∈ lines, allBlank line = true) :
    Progress.readAll default n progress (assignRoles p lines) = progress := by
  rw [(assignRoles_of_allBlank hp h).1]
  refine Progress.readAll_of_forall_read (fun n line hline => ?_) n
  obtain ⟨line, hmem, rfl⟩ := List.mem_map.mp hline
  obtain ⟨hheading, hheader⟩ := isHeadingLine_of_allBlank (h line hmem)
  rw [Progress.read, Progress.readActive, hheading, hheader]
  exact if_pos (h line hmem)

/-! ### Hidden lines -/

lemma step_of_depth_pos (h : 0 < p.depth) (line : List Char) :
    p.step line = (.hidden, { p with depth := p.depth + divBalance line }) := if_pos h

/-- As long as divs are open, lines are hidden. -/
lemma assignRoles_of_open
    (h : ∀ n < lines.length, 0 < p.depth + openDivs (lines.take n)) :
    assignRoles p lines = lines.map (fun line => (.hidden, line)) ∧
      p.after lines = { p with depth := p.depth + openDivs lines } := by
  induction lines generalizing p with
  | nil => exact ⟨rfl, by rw [openDivs, Int.add_zero]; rfl⟩
  | cons line lines ih =>
    have hdepth : 0 < p.depth := by
      simpa [openDivs] using h 0 (Nat.succ_pos lines.length)
    have hbelow : ∀ n < lines.length,
        0 < p.depth + divBalance line + openDivs (lines.take n) := by
      intro n hn
      have hopen := h (n + 1) (Nat.succ_lt_succ hn)
      rwa [List.take_succ_cons, openDivs, ← Int.add_assoc] at hopen
    obtain ⟨hroles, hafter⟩ := ih (p := { p with depth := p.depth + divBalance line }) hbelow
    rw [assignRoles, Place.after, List.foldl_cons, step_of_depth_pos hdepth, List.map_cons, hroles,
      openDivs, ← Int.add_assoc]
    exact ⟨rfl, hafter⟩

/-- A solution block is hidden and leads out of itself. -/
lemma assignRoles_of_isSolution (hp : p.IsOutside) (h : IsSolution block) :
    assignRoles p block = block.map (fun line => (.hidden, line)) ∧ (p.after block).IsOutside := by
  obtain ⟨hinside, hdepth⟩ := hp
  obtain ⟨first, hfirst, hopens⟩ := h.opens
  obtain ⟨rest, rfl⟩ := List.head?_eq_some_iff.mp hfirst
  have hstep : p.step first = (.hidden, { p with depth := divBalance first }) := by
    rw [Place.step, if_neg (Int.not_lt.mpr hdepth), hinside, hopens]
    rfl
  have hopen : ∀ n < rest.length, 0 < divBalance first + openDivs (rest.take n) :=
    fun n hn => h.isOpen (n + 1) (Nat.succ_lt_succ hn) (Nat.succ_pos n)
  obtain ⟨hroles, hafter⟩ := assignRoles_of_open (p := { p with depth := divBalance first }) hopen
  rw [assignRoles, Place.after, List.foldl_cons, hstep, List.map_cons, hroles]
  refine ⟨rfl, ?_⟩
  rw [Place.after] at hafter
  rw [hafter]
  exact ⟨hinside, h.closes⟩

lemma readAll_hidden (default : Float) (n : Nat) (progress : Progress) (lines : List (List Char)) :
    Progress.readAll default n progress (lines.map fun line => (.hidden, line)) = progress := by
  refine Progress.readAll_of_forall_read (fun n line hline => ?_) n
  obtain ⟨line, -, rfl⟩ := List.mem_map.mp hline
  rfl

/-! ### Behind a block -/

/-- Places with the same open blocks. How far divs are closed too often makes no difference. -/
def Place.Alike (p p' : Place) : Prop :=
  p.inFence = p'.inFence ∧ (p.depth = p'.depth ∨ p.depth ≤ 0 ∧ p'.depth ≤ 0)

lemma Place.IsOutside.alike (h : p.IsOutside) (h' : p'.IsOutside) : p.Alike p' :=
  ⟨h.1.trans h'.1.symm, .inr ⟨h.2, h'.2⟩⟩

lemma Place.Alike.step (h : p.Alike p') (line : List Char) :
    (p.step line).1 = (p'.step line).1 ∧ (p.step line).2.Alike (p'.step line).2 := by
  obtain ⟨inFence, depth⟩ := p
  obtain ⟨inFence', depth'⟩ := p'
  obtain ⟨rfl, hdepth⟩ := h
  dsimp only at hdepth
  have hpos : 0 < depth ↔ 0 < depth' := by omega
  unfold Place.step
  dsimp only
  by_cases hopen : 0 < depth
  · obtain rfl : depth = depth' := by omega
    exact ⟨rfl, rfl, .inl rfl⟩
  · rw [if_neg hopen, if_neg (mt hpos.mpr hopen)]
    split
    · exact ⟨rfl, rfl, .inl rfl⟩
    · split
      · exact ⟨rfl, rfl, hdepth⟩
      · split <;> exact ⟨rfl, rfl, hdepth⟩

lemma assignRoles_of_alike (h : p.Alike p') (lines : List (List Char)) :
    assignRoles p lines = assignRoles p' lines := by
  induction lines generalizing p p' with
  | nil => rfl
  | cons line lines ih =>
    obtain ⟨hrole, hplace⟩ := h.step line
    rw [assignRoles, assignRoles, hrole, ih hplace]

/-- Lines are read behind a solution block as behind blank lines. -/
theorem readAll_blanked (default : Float) (n : Nat) (progress : Progress)
    (habove : (p.after above).IsOutside) (hblock : IsSolution block) :
    Progress.readAll default n progress (assignRoles p (above ++ block ++ below)) =
      Progress.readAll default n progress (assignRoles p (above ++ blanked block ++ below)) := by
  have hblank : ∀ line ∈ blanked block, allBlank line = true := by
    intro line hline
    obtain ⟨other, -, rfl⟩ := List.mem_map.mp hline
    rfl
  obtain ⟨hroles, hafter⟩ := assignRoles_of_isSolution habove hblock
  have hlength : (assignRoles (p.after above) block).length =
      (assignRoles (p.after above) (blanked block)).length := by
    rw [assignRoles_length, assignRoles_length, blanked, List.length_map]
  have hbelow : assignRoles ((p.after above).after block) below =
      assignRoles ((p.after above).after (blanked block)) below := by
    rw [(assignRoles_of_allBlank habove hblank).2]
    exact assignRoles_of_alike (hafter.alike habove) below
  rw [List.append_assoc, List.append_assoc, assignRoles_append, assignRoles_append,
    assignRoles_append p, assignRoles_append, Progress.readAll_append, Progress.readAll_append,
    Progress.readAll_append default n progress, Progress.readAll_append,
    readAll_of_allBlank _ _ _ habove hblank, hlength, hbelow, hroles, readAll_hidden]

/-! ### Whole documents -/

section Documents

variable {loader : Yaml.Loader} {content content' : String} {metadata : Metadata} {default : Float}
  {front body blank : List Char}

/-- Blank lines in front of a body move it down. -/
lemma readBody_append (first : Nat) (hblank : allBlank blank = true) (body : List Char) :
    readBody metadata default first (blank ++ '\n' :: body) =
      readBody metadata default (first + (blank.count '\n' + 1)) body := by
  have hlines : ∀ line ∈ splitLines blank, allBlank line = true := fun line hline =>
    List.all_eq_true.mpr fun c hc =>
      List.all_eq_true.mp hblank c (mem_of_mem_piece hline hc).1
  have hafter := (assignRoles_of_allBlank Place.isOutside_start hlines).2
  have hlength : (splitLines blank).length = blank.count '\n' + 1 := length_splitOn '\n' blank
  unfold readBody
  dsimp only
  rw [splitLines, splitOn_append_cons, assignRoles_append, Progress.readAll_append,
    ← splitLines, ← splitLines, readAll_of_allBlank _ _ _ Place.isOutside_start hlines, hafter,
    assignRoles_length, hlength]

lemma parse_congr (hinner : (cut content'.toList).inner = (cut content.toList).inner)
    (hbody : ∀ metadata default,
      readBody metadata default ((cut content'.toList).offset + 1) (cut content'.toList).body =
        readBody metadata default ((cut content.toList).offset + 1) (cut content.toList).body) :
    parse loader content' = parse loader content := by
  unfold parse
  simp only [hinner, hbody]

/-- A solution block leaves no trace: with empty lines in its place, a document below the same
front matter gives the same quiz, or fails in the same way. -/
theorem parse_blanked (hcontent : content.toList = front ++ body)
    (hbody : (cut content.toList).body = body)
    (hlines : splitLines body = above ++ block ++ below)
    (hcontent' : content'.toList = front ++ joinLines (above ++ blanked block ++ below))
    (hinner : (cut content'.toList).inner = (cut content.toList).inner)
    (habove : (Place.start.after above).IsOutside) (hblock : IsSolution block) :
    parse loader content' = parse loader content := by
  generalize hbody' : joinLines (above ++ blanked block ++ below) = body' at hcontent'
  have hlines' : splitLines body' = above ++ blanked block ++ below := by
    have hne : above ++ blanked block ++ below ≠ [] := by
      obtain ⟨first, hfirst, -⟩ := hblock.opens
      obtain ⟨rest, rfl⟩ := List.head?_eq_some_iff.mp hfirst
      simp [blanked]
    rw [← hbody']
    refine splitLines_joinLines hne fun line hline hnewline => ?_
    have hmem : line ∈ above ++ block ++ below ∨ line = [] := by
      simp only [blanked, List.mem_append, List.mem_map] at hline ⊢
      tauto
    rcases hmem with hmem | rfl
    · rw [← hlines] at hmem
      exact newline_notMem_of_mem_splitLines hmem hnewline
    · cases hnewline
  have hread : ∀ metadata default first,
      readBody metadata default first body' = readBody metadata default first body := by
    intro metadata default first
    unfold readBody
    dsimp only
    rw [hlines, hlines', readAll_blanked default first _ habove hblock]
  refine parse_congr hinner fun metadata default => ?_
  rw [hbody]
  cases hfound : (cut content.toList).inner with
  | none =>
    have hcut := cut_of_inner_eq_none hfound
    have hcut' := cut_of_inner_eq_none (hinner.trans hfound)
    have hfront : front = [] := by
      rw [hcut] at hbody
      exact List.append_left_eq_self.mp (hcontent.symm.trans hbody)
    rw [hcut, hcut', hcontent', hfront]
    exact hread metadata default 1
  | some inner =>
    rw [hcontent] at hbody hfound hinner ⊢
    rw [hcontent'] at hinner ⊢
    have hfound' := hinner.trans hfound
    have hoffset := offset_of_append hfound hbody
    have hrest := body_of_inner hfound hbody hfound'
    cases hafter : afterBlankLines? body' with
    | none =>
      rw [hafter, Option.getD_none] at hrest
      rw [hrest, offset_of_append hfound' hrest, hoffset, hread]
    | some rest =>
      -- empty lines at the start of the body are taken for blank lines of the front matter
      obtain ⟨blank, hblank, rfl⟩ := exists_of_afterBlankLines? hafter
      rw [hafter, Option.getD_some] at hrest
      have hmoved : front ++ (blank ++ '\n' :: rest) = front ++ blank ++ ['\n'] ++ rest := by simp
      have hoffset' : (cut (front ++ (blank ++ '\n' :: rest))).offset =
          front.count '\n' + (blank.count '\n' + 1) := by
        rw [hmoved] at hfound' hrest ⊢
        rw [offset_of_append hfound' hrest, List.count_append, List.count_append,
          List.count_singleton_self, Nat.add_assoc]
      rw [hrest, hoffset', hoffset, ← hread, readBody_append _ hblank, Nat.add_right_comm]

/-- A solution block with a heading, an open code block and too many closing tags in it. -/
def untidyBlock : List (List Char) :=
  ["<div class='solution'>".toList, "# No <div>".toList, "```".toList, "</div></div></div>".toList]

def untidyBody : String :=
  "## 1. Q\n<div class='solution'>\n# No <div>\n```\n</div></div></div>\n- A"

/-- The choice below the block belongs to the question above it. -/
theorem parse_untidy :
    parse Yaml.safeLoader ("---\n\n---\n" ++ "## 1. Q\n\n\n\n\n- A") =
      parse Yaml.safeLoader ("---\n\n---\n" ++ untidyBody) := by
  have hlines : splitLines untidyBody.toList =
      ["## 1. Q".toList] ++ untidyBlock ++ ["- A".toList] := by decide
  have hblanked : ("---\n\n---\n" ++ "## 1. Q\n\n\n\n\n- A").toList = "---\n\n---\n".toList ++
      joinLines (["## 1. Q".toList] ++ blanked untidyBlock ++ ["- A".toList]) :=
    String.toList_append.trans (congrArg _ (by decide))
  have habove : (Place.start.after ["## 1. Q".toList]).IsOutside := ⟨by decide, by decide⟩
  have hblock : IsSolution untidyBlock := ⟨⟨_, rfl, by decide⟩, by decide, by decide⟩
  have hcut : cut ("---\n\n---\n".toList ++ untidyBody.toList) =
      ⟨some [], untidyBody.toList, 3⟩ := by decide
  have hcut' : cut ("---\n\n---\n".toList ++ "## 1. Q\n\n\n\n\n- A".toList) =
      ⟨some [], "## 1. Q\n\n\n\n\n- A".toList, 3⟩ := by decide
  refine parse_blanked String.toList_append ?_ hlines hblanked ?_ habove hblock
  · rw [String.toList_append, hcut]
  · rw [String.toList_append, String.toList_append, hcut, hcut']

end Documents

end QuizPreflight.Quiz
