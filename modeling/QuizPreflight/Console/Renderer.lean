/-!
# What is drawn on a console

Texts in which tags in brackets set the style, and tables of such texts. A renderer decides how
they are drawn; it may refuse a text whose tags do not fit together. A text from outside is escaped
first, so that nothing in it is taken for a tag.
-/
namespace QuizPreflight.Console

inductive Alignment where
  /-- Nothing is filled up. -/
  | natural
  | left
  | right
  | centre
  deriving DecidableEq, Repr

structure Column where
  title : String
  alignment : Alignment
  deriving DecidableEq, Repr

structure Table where
  title : Option String
  columns : List Column
  /-- The cells of each row, one for each column. -/
  rows : List (List String)
  deriving DecidableEq, Repr

inductive Block where
  | tagged (s : String)
  | table (t : Table)
  deriving DecidableEq, Repr

/-- The styles that reports use. -/
inductive TextStyle where
  | red
  | yellow
  | green
  | dim
  deriving DecidableEq, Repr

def TextStyle.name : TextStyle → String
  | .red => "red"
  | .yellow => "yellow"
  | .green => "green"
  | .dim => "dim"

/-- A text in a style. -/
def styled (style : TextStyle) (text : String) : String := s!"[{style.name}]{text}[/{style.name}]"

structure Renderer where
  /-- A text as it has to be written to be shown as it is. -/
  escape : String → String
  /-- What is printed of a block, or why it is refused. -/
  draw : Block → Except String String

/-- What is printed of some blocks, and the refusal that ended the printing. -/
def Renderer.print (r : Renderer) : List Block → List String × Option String
  | [] => ([], none)
  | b :: bs =>
    match r.draw b with
    | .error message => ([], some message)
    | .ok text =>
      let (texts, refusal) := r.print bs
      (text :: texts, refusal)

/-- How an output writes characters. -/
structure Encoding where
  has : Char → Bool
  /-- What is said of a text with a character that the encoding lacks. -/
  complaint : String → String

def Encoding.takes (e : Encoding) (s : String) : Bool := s.toList.all e.has

end QuizPreflight.Console
