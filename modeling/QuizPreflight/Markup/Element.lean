import QuizPreflight.Text.Character

/-!
# Elements

The tree of a document. The text of an element stands before its first child and the tail of
an element between its end and what follows it. Absent text is empty.
-/
namespace QuizPreflight.Markup

inductive Element where
  | mk (tag : String) (attributes : List (String × String)) (text : String)
      (children : List Element) (tail : String)

namespace Element

def tag : Element → String
  | mk tag _ _ _ _ => tag

def attributes : Element → List (String × String)
  | mk _ attributes _ _ _ => attributes

def text : Element → String
  | mk _ _ text _ _ => text

def children : Element → List Element
  | mk _ _ _ children _ => children

def tail : Element → String
  | mk _ _ _ _ tail => tail

def withTail : Element → String → Element
  | mk tag attributes text children _, tail => mk tag attributes text children tail

/-- The children with a tag. -/
def childrenNamed (e : Element) (tag : String) : List Element :=
  e.children.filter (·.tag == tag)

mutual

/-- An element and all below it, in document order. -/
def subtree : Element → List Element
  | mk tag attributes text children tail =>
    mk tag attributes text children tail :: subtrees children

def subtrees : List Element → List Element
  | [] => []
  | e :: es => subtree e ++ subtrees es

end

/-- The elements with a tag below an element, in document order. -/
def descendantsNamed (e : Element) (tag : String) : List Element :=
  (subtrees e.children).filter (·.tag == tag)

/-- The elements that a path of tags leads to, in document order. -/
def select (e : Element) : List String → List Element
  | [] => [e]
  | tag :: path => (e.childrenNamed tag).flatMap (·.select path)

def first? (e : Element) (path : List String) : Option Element := (e.select path).head?

/-- The value of an attribute without blanks around it; a blank one counts as absent. -/
def attribute? (e : Element) (name : String) : Option String :=
  match e.attributes.lookup name with
  | none => none
  | some value => if (Text.trim value).isEmpty then none else some (Text.trim value)

mutual

/-- All text below an element. -/
def textContent : Element → String
  | mk _ _ text children _ => text ++ textContents children

def textContents : List Element → String
  | [] => ""
  | e :: es => e.textContent ++ e.tail ++ textContents es

end

end Element

end QuizPreflight.Markup
