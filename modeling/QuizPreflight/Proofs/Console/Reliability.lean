import QuizPreflight.Console.Table
import QuizPreflight.Proofs.Console.Tag

/-!
# Renderers that can be relied on

A text with no brackets and backslashes is no markup, an escaped text stands for itself, and a
style that opens may close again. A renderer that draws everything put together of these can be
relied on; the one without colours can be.
-/
namespace QuizPreflight.Console

/-- A text in which no renderer finds a tag or an escape. -/
def IsPlain (s : String) : Prop := ∀ c ∈ s.toList, c ≠ '[' ∧ c ≠ ']' ∧ c ≠ '\\'

def isPlainChar (c : Char) : Bool := c != '[' && (c != ']' && c != '\\')

lemma isPlain_iff {s : String} : IsPlain s ↔ s.toList.all isPlainChar = true := by
  simp [IsPlain, isPlainChar]

instance (s : String) : Decidable (IsPlain s) := decidable_of_iff _ isPlain_iff.symm

/-- A text without tags: a plain one, or an escaped one between plain ones. -/
inductive IsSegment (escape : String → String) : String → Prop
  | plain {s : String} (h : IsPlain s) : IsSegment escape s
  | escaped {u v : String} (s : String) (hu : IsPlain u) (hv : IsPlain v) :
      IsSegment escape (u ++ escape s ++ v)

/-- Segments with segments in a style between them. No backslash may stand in front of a style. -/
inductive IsMarked (escape : String → String) : String → Prop
  | segment {s : String} (h : IsSegment escape s) : IsMarked escape s
  | styled {u s rest : String} (style : TextStyle) (hu : IsSegment escape u)
      (hend : u.toList.getLast? ≠ some '\\') (hs : IsSegment escape s)
      (hrest : IsMarked escape rest) : IsMarked escape (u ++ styled style s ++ rest)

/-- All texts of a table. -/
def Table.texts (t : Table) : List String :=
  t.title.toList ++ t.columns.map Column.title ++ t.rows.flatten

/-- A block in which every text is marked as it should be. -/
def Block.IsMarked (escape : String → String) : Block → Prop
  | tagged s => Console.IsMarked escape s
  | table t => ∀ s ∈ t.texts, Console.IsMarked escape s

namespace Renderer

/-- A block that is drawn and not refused. -/
def Draws (r : Renderer) (b : Block) : Prop := ∃ text, r.draw b = .ok text

/-- A renderer that refuses no block whose texts are marked as they should be. -/
structure Reliable (r : Renderer) : Prop where
  draws : ∀ b : Block, b.IsMarked r.escape → r.Draws b

/-- Blocks are printed to the end exactly if each of them is drawn. -/
theorem print_refusal_iff {r : Renderer} {bs : List Block} :
    (r.print bs).2 = none ↔ ∀ b ∈ bs, r.Draws b := by
  induction bs with
  | nil => simp [print]
  | cons b bs ih =>
    rw [List.forall_mem_cons, ← ih, print]
    cases h : r.draw b with
    | error message => simp [Draws, h]
    | ok text => simp [Draws, h]

end Renderer

/-! ### Putting texts together -/

section Texts

variable {escape : String → String} {r : Renderer} {s t u rest : String} {style : TextStyle}

lemma isPlain_append : IsPlain (s ++ t) ↔ IsPlain s ∧ IsPlain t := by
  simp only [IsPlain, String.toList_append, List.forall_mem_append]

lemma IsPlain.append (hs : IsPlain s) (ht : IsPlain t) : IsPlain (s ++ t) :=
  isPlain_append.mpr ⟨hs, ht⟩

lemma isPlain_empty : IsPlain "" := by simp [IsPlain]

lemma IsPlain.isMarked (h : IsPlain s) : IsMarked escape s := .segment (.plain h)

lemma Renderer.Reliable.draws_plain (h : r.Reliable) (hs : IsPlain s) : r.Draws (.tagged s) :=
  h.draws (.tagged s) hs.isMarked

lemma isSegment_escape (s : String) : IsSegment escape (escape s) := by
  have hsegment : IsSegment escape ("" ++ escape s ++ "") :=
    .escaped s isPlain_empty isPlain_empty
  simpa using hsegment

/-- A style at the end. -/
lemma IsSegment.styled_end (hu : IsSegment escape u) (hend : u.toList.getLast? ≠ some '\\')
    (hs : IsSegment escape s) : IsMarked escape (u ++ styled style s) := by
  have hmarked : IsMarked escape (u ++ styled style s ++ "") :=
    .styled style hu hend hs isPlain_empty.isMarked
  rwa [String.append_empty] at hmarked

/-- A style in front. -/
lemma IsSegment.styled_start (hs : IsSegment escape s) (hrest : IsMarked escape rest) :
    IsMarked escape (styled style s ++ rest) := by
  have hmarked : IsMarked escape ("" ++ styled style s ++ rest) :=
    .styled style (.plain isPlain_empty) (by simp) hs hrest
  rwa [String.empty_append] at hmarked

lemma IsSegment.isMarked_styled (hs : IsSegment escape s) : IsMarked escape (styled style s) := by
  have hmarked : IsMarked escape (styled style s ++ "") := hs.styled_start isPlain_empty.isMarked
  rwa [String.append_empty] at hmarked

lemma isMarked_table {t : Table} (htitle : ∀ title ∈ t.title, IsMarked escape title)
    (hcolumns : ∀ c ∈ t.columns, IsPlain c.title)
    (hrows : ∀ row ∈ t.rows, ∀ cell ∈ row, IsMarked escape cell) :
    (Block.table t).IsMarked escape := by
  simp only [Block.IsMarked, Table.texts, List.forall_mem_append, List.forall_mem_map]
  refine ⟨⟨fun title h => htitle title (Option.mem_toList.mp h),
    fun c hc => (hcolumns c hc).isMarked⟩, fun cell hcell => ?_⟩
  obtain ⟨row, hrow, hcell⟩ := List.mem_flatten.mp hcell
  exact hrows row hrow cell hcell

end Texts

/-! ### The renderer without colours -/

section Plain

variable {opened : List String} {s : String} {t : Table} {b : Block} {rest : List Char}

lemma TextStyle.isStyleName : ∀ style : TextStyle, IsStyleName style.name.toList
  | red => .of_lower (by decide) rfl
  | yellow => .of_lower (by decide) rfl
  | green => .of_lower (by decide) rfl
  | dim => .of_lower (by decide) rfl

lemma toList_styled (style : TextStyle) (text : String) (rest : List Char) :
    (styled style text).toList ++ rest = '[' :: (style.name.toList ++ ']' ::
      (text.toList ++ '[' :: ('/' :: style.name.toList ++ ']' :: rest))) := by
  have htext : styled style text =
      "[" ++ style.name ++ "]" ++ text ++ "[/" ++ style.name ++ "]" := rfl
  rw [htext]
  simp only [String.toList_append, List.append_assoc]
  rfl

/-- A segment is shown in front of whatever is shown behind its end. -/
lemma IsSegment.shows (h : IsSegment escape s)
    (hrest : ∀ u, ¬HasTag u → u <:+ s.toList → Shows opened (u ++ rest)) :
    Shows opened (s.toList ++ rest) := by
  cases h with
  | plain hs =>
    exact hrest s.toList (not_hasTag_of_notMem fun hmem => (hs '[' hmem).1 rfl)
      (List.suffix_refl _)
  | @escaped u v s hu hv =>
    have hopen : '[' ∉ v.toList := fun hmem => (hv '[' hmem).1 rfl
    have hclose : ']' ∉ v.toList := fun hmem => (hv ']' hmem).2.1 rfl
    have htext : (u ++ escape s ++ v).toList = u.toList ++ ((escape s).toList ++ v.toList) := by
      simp
    rw [htext] at hrest ⊢
    rw [List.append_assoc, shows_append_left (fun hmem => (hu '[' hmem).1 rfl)
      (fun hmem => (hu '\\' hmem).2.2 rfl), List.append_assoc]
    refine shows_escape s fun w hw hbehind => ?_
    rw [← List.append_assoc]
    exact hrest (w ++ v.toList) (mt (hasTag_append_right hopen hclose).mp hw)
      ((List.suffix_append_self_iff.mpr hbehind).trans (List.suffix_append _ _))

/-- Each style that a marked text opens is closed again, or its closing tag is out of force. -/
lemma IsMarked.shows (h : IsMarked escape s) (opened : List String) : Shows opened s.toList := by
  induction h generalizing opened with
  | segment h =>
    rw [← List.append_nil (String.toList _)]
    exact h.shows fun u hu _ => shows_of_not_hasTag (by simpa using hu)
  | @styled u s rest style hu hend hs _ ih =>
    have hname := style.isStyleName
    rw [String.toList_append, String.toList_append, List.append_assoc, toList_styled]
    refine hu.shows fun w hw hbehind => ?_
    have hlast : w.getLast? ≠ some '\\' := by
      obtain ⟨front, hfront⟩ := hbehind
      intro hslash
      rw [← hfront, List.getLast?_append, hslash, Option.some_or] at hend
      exact hend rfl
    refine (shows_tag hname.body hw hlast opened _).mpr ⟨_, hname.applyTag_open, ?_⟩
    exact hs.shows fun v hv _ => shows_tag_either hname.slash hv hname.applyTag_close (ih _) (ih _)

lemma exists_shown (h : IsMarked escape s) : ∃ out, shown s = .ok out :=
  (shownFrom_ok_iff (Nat.le_refl _) 0).mpr (h.shows [])

lemma exists_mapM {α β ε : Type} {f : α → Except ε β} {l : List α}
    (h : ∀ x ∈ l, ∃ y, f x = .ok y) : ∃ ys, l.mapM f = .ok ys := by
  induction l with
  | nil => exact ⟨[], rfl⟩
  | cons x l ih =>
    obtain ⟨⟨y, hy⟩, hl⟩ := List.forall_mem_cons.mp h
    obtain ⟨ys, hys⟩ := ih hl
    exact ⟨y :: ys, by rw [List.mapM_cons, hy, hys]; rfl⟩

lemma exists_draw (h : ∀ s ∈ t.texts, IsMarked escape s) : ∃ lines, t.draw = .ok lines := by
  simp only [Table.texts, List.forall_mem_append, List.forall_mem_map, List.mem_flatten] at h
  obtain ⟨⟨htitle, hcolumns⟩, hcells⟩ := h
  obtain ⟨head, hhead⟩ := exists_mapM fun c hc => exists_shown (hcolumns c hc)
  obtain ⟨rows, hrows⟩ := exists_mapM (f := fun row => row.mapM shown) fun row hrow =>
    exists_mapM fun cell hcell => exists_shown (hcells cell ⟨row, hrow, hcell⟩)
  unfold Table.draw
  rw [hhead, hrows]
  cases htitle' : t.title with
  | none => exact ⟨_, rfl⟩
  | some title =>
    obtain ⟨out, hout⟩ := exists_shown (htitle title (by simp [htitle']))
    dsimp only
    rw [hout]
    exact ⟨_, rfl⟩

/-- A block is drawn if it can be laid out in lines. -/
lemma draws_of_lines (h : ∃ lines, b.lines = .ok lines) : plainRenderer.Draws b := by
  obtain ⟨lines, hlines⟩ := h
  have htext : b.text = .ok (String.ofList (lines.flatMap (· ++ ['\n']))) := by
    rw [Block.text, hlines]
    rfl
  exact ⟨_, congrArg (Except.mapError TagFault.message) htext⟩

/-- The renderer without colours refuses nothing that is marked as it should be. -/
theorem reliable_plainRenderer : plainRenderer.Reliable where
  draws b hb := by
    cases b with
    | tagged s =>
      obtain ⟨out, hout⟩ := exists_shown hb
      exact draws_of_lines ⟨_, by rw [Block.lines, hout]; rfl⟩
    | table t => exact draws_of_lines (exists_draw hb)

/-- A text that cannot be shown is refused. -/
lemma not_draws_tagged (h : ∀ out, shown s ≠ .ok out) : ¬plainRenderer.Draws (.tagged s) := by
  rintro ⟨text, htext⟩
  cases hshown : shown s with
  | ok out => exact h out hshown
  | error f =>
    have hrefused : plainRenderer.draw (.tagged s) = .error f.message := by
      simp [plainRenderer, Block.text, Block.lines, hshown, bind, Except.bind, Except.mapError]
    cases hrefused.symm.trans htext

end Plain

end QuizPreflight.Console
