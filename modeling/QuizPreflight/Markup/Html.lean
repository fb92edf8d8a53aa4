import QuizPreflight.Markup.Element

/-!
# Inner content as text

The content of an element is written back with its child elements as tags, so that embedded
markup and escaped markup come out the same.
-/
namespace QuizPreflight.Markup

def escapeValueChar (c : Char) : List Char :=
  if c = '&' then "&amp;".toList
  else if c = '<' then "&lt;".toList
  else if c = '>' then "&gt;".toList
  else if c = '\n' then "&#10;".toList
  else if c = '\r' then "&#13;".toList
  else if c = '\t' then "&#9;".toList
  else [c]

def escapeQuote (c : Char) : List Char := if c = '"' then "&quot;".toList else [c]

/-- A value in double quotes, or in single ones if it holds double quotes alone. -/
def quoteValue (value : List Char) : List Char :=
  let escaped := value.flatMap escapeValueChar
  if !escaped.contains '"' then '"' :: (escaped ++ ['"'])
  else if !escaped.contains '\'' then '\'' :: (escaped ++ ['\''])
  else '"' :: (escaped.flatMap escapeQuote ++ ['"'])

def writeAttribute (a : String × String) : List Char :=
  ' ' :: (a.1.toList ++ '=' :: quoteValue a.2.toList)

mutual

/-- The inner content of an element, latest character last. -/
def Element.innerChars : Element → List Char
  | .mk _ _ text children _ => text.toList ++ writeAll children

/-- Elements as tags, each with its tail; an element without content closes itself. -/
def writeAll : List Element → List Char
  | [] => []
  | .mk tag attributes text children tail :: es =>
    let opening := '<' :: (tag.toList ++ attributes.flatMap writeAttribute)
    let inner := text.toList ++ writeAll children
    let element :=
      if inner.isEmpty then opening ++ ['/', '>']
      else opening ++ '>' :: inner ++ '<' :: '/' :: tag.toList ++ ['>']
    element ++ tail.toList ++ writeAll es

end

def Element.innerHtml (e : Element) : String := String.ofList e.innerChars

end QuizPreflight.Markup
