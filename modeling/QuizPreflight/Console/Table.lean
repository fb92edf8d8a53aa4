import QuizPreflight.Console.Layout
import QuizPreflight.Console.Tag

/-!
# A renderer without colours

A table of tagged texts stands in a frame whose head is drawn with heavy lines. Columns are as wide
as their widest line, and the title stands over the middle of the table. Blocks end with a newline;
one with a tag that closes nothing is refused.
-/
namespace QuizPreflight.Console

open QuizPreflight.Text

/-- One line of a frame: its left end, what fills the cells, what divides them, its right end. -/
structure Rule where
  left : Char
  fill : Char
  divider : Char
  right : Char

def topRule : Rule := ⟨'┏', '━', '┳', '┓'⟩

def headRule : Rule := ⟨'┡', '━', '╇', '┩'⟩

def bottomRule : Rule := ⟨'└', '─', '┴', '┘'⟩

/-- The width of a cell is that of its text with a blank on both sides. -/
def cellPadding : Nat := 2

def Rule.draw (r : Rule) (widths : List Nat) : List Char :=
  r.left :: (joinWith [r.divider] (widths.map fun w => List.replicate (w + cellPadding) r.fill) ++
    [r.right])

/-- A line of a row between bars. -/
def drawLine (bar : Char) (pieces : List (List Char)) : List Char :=
  bar :: (joinWith [bar] (pieces.map fun s => ' ' :: (s ++ [' '])) ++ [bar])

/-- The lines of a row; cells with fewer lines than others are blank below. -/
def drawRow (bar : Char) (alignments : List Alignment) (widths : List Nat)
    (cells : List (List Char)) : List (List Char) :=
  let laid := (widths.zip (alignments.zip cells)).map fun (w, alignment, cell) =>
    (w, layout w alignment .ellipsis cell)
  let height := (laid.map fun (_, lines) => lines.length).foldl max 0
  (List.range height).map fun i =>
    drawLine bar (laid.map fun (w, lines) => lines[i]?.getD (spaces w))

/-- The natural widths of columns over some rows. -/
def columnWidths (columns : Nat) (rows : List (List (List Char))) : List Nat :=
  (List.range columns).map fun i =>
    (rows.map fun row => naturalWidth (row[i]?.getD [])).foldl max 0

def tableWidth (widths : List Nat) : Nat :=
  widths.foldr (fun width rest => width + cellPadding + rest) 0 + widths.length + 1

/-- The lines of a table. -/
def Table.draw (t : Table) : Except TagFault (List (List Char)) := do
  let head ← t.columns.mapM fun c => shown c.title
  let rows ← t.rows.mapM fun row => row.mapM shown
  let widths := columnWidths t.columns.length (head :: rows)
  let alignments := t.columns.map Column.alignment
  let title ← match t.title with
    | none => pure []
    | some title => do pure (layout (tableWidth widths) .centre .fold (← shown title))
  return title ++ [topRule.draw widths] ++ drawRow '┃' alignments widths head ++
    [headRule.draw widths] ++ rows.flatMap (drawRow '│' alignments widths) ++
    [bottomRule.draw widths]

/-- Tagged texts are laid out in lines of this width, which is more than any terminal has. -/
def lineWidth : Nat := 4000

def Block.lines : Block → Except TagFault (List (List Char))
  | tagged s => do return layout lineWidth .natural .fold (← shown s)
  | table t => t.draw

def Block.text (b : Block) : Except TagFault String := do
  return String.ofList ((← b.lines).flatMap (· ++ ['\n']))

def plainRenderer : Renderer := ⟨escape, fun b => b.text.mapError TagFault.message⟩

end QuizPreflight.Console
