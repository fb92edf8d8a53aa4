import QuizPreflight.Markup.Scan

/-!
# Tokens of content

What stands between the tags of a document: characters, references, tags, and markup that
leaves no trace in the tree.
-/
namespace QuizPreflight.Markup

/-- An attribute as it is written. Its name and its value are followed by all the text after
them; the value ends at the next quote of its kind. -/
structure RawAttribute where
  name : List Char
  start : List Char
  quote : Char
  value : List Char

inductive Token where
  | character (c : Char)
  | reference (r : Reference)
  | opening (name : List Char) (attributes : List RawAttribute) (isEmpty : Bool)
  | closing (name : List Char) (start : List Char)
  | sectionOpening
  | instruction (i : Instruction)
  | comment

/-- The text after the quote that closes an attribute value. -/
def scanValueEnd (quote : Char) : List Char → Except Stop (List Char)
  | [] => .error .cut
  | c :: s =>
    if c = quote then .ok s
    else if c = '<' || !isAllowed c then .error (.invalid (c :: s))
    else if c = '&' then
      match scanReference s with
      | .error e => .error e
      | .ok _ => scanValueEnd quote s
    else scanValueEnd quote s

/-- A quote of either kind is expected next. -/
def scanQuote : List Char → Except Stop (Char × List Char)
  | [] => .error .cut
  | c :: s => if c = '"' || c = '\'' then .ok (c, s) else .error (.invalid (c :: s))

def scanAttribute (s : List Char) : Except Stop (RawAttribute × List Char) := do
  let (name, afterName) ← scanQualifiedName s
  let afterSign ← expect '=' (dropSpaces afterName)
  let (quote, value) ← scanQuote (dropSpaces afterSign)
  return (⟨name, s, quote, value⟩, ← scanValueEnd quote value)

theorem length_scanQualifiedName {s name rest : List Char}
    (h : scanQualifiedName s = .ok (name, rest)) : rest.length < s.length := by
  simp only [scanQualifiedName, bind, Except.bind] at h
  split at h
  · simp at h
  · rename_i first hfirst
    obtain ⟨a, s₁⟩ := first
    have h₁ := length_scanName hfirst
    dsimp only at h
    split at h
    · split at h
      · simp at h
      · rename_i second hsecond
        obtain ⟨b, s₂⟩ := second
        have h₂ := length_scanName hsecond
        dsimp only at h
        split at h
        · simp at h
        · simp only [pure, Except.pure, Except.ok.injEq, Prod.mk.injEq] at h
          rw [← h.2]
          simp only [List.length_cons] at h₁
          omega
    · simp only [pure, Except.pure, Except.ok.injEq, Prod.mk.injEq] at h
      rw [← h.2]
      exact h₁

theorem length_scanValueEnd {quote : Char} {s rest : List Char}
    (h : scanValueEnd quote s = .ok rest) : rest.length < s.length := by
  induction s with
  | nil => simp [scanValueEnd] at h
  | cons c s ih =>
    simp only [scanValueEnd] at h
    simp only [List.length_cons]
    split at h
    · simp only [Except.ok.injEq] at h
      subst h
      omega
    · split at h
      · simp at h
      · split at h
        · split at h
          · simp at h
          · have := ih h
            omega
        · have := ih h
          omega

theorem length_scanQuote {s rest : List Char} {quote : Char}
    (h : scanQuote s = .ok (quote, rest)) : rest.length < s.length := by
  cases s with
  | nil => simp [scanQuote] at h
  | cons c s =>
    simp only [scanQuote] at h
    split at h <;> simp_all

theorem length_scanAttribute {s rest : List Char} {a : RawAttribute}
    (h : scanAttribute s = .ok (a, rest)) : rest.length < s.length := by
  simp only [scanAttribute, bind, Except.bind] at h
  split at h
  · simp at h
  · rename_i name hname
    obtain ⟨n, s₁⟩ := name
    have h₁ := length_scanQualifiedName hname
    dsimp only at h
    split at h
    · simp at h
    · rename_i s₂ hsign
      have h₂ := length_expect hsign
      have h₂' := length_dropWhile_le isSpace s₁
      split at h
      · simp at h
      · rename_i quote hquote
        obtain ⟨q, s₃⟩ := quote
        have h₃ := length_scanQuote hquote
        have h₃' := length_dropWhile_le isSpace s₂
        dsimp only at h
        split at h
        · simp at h
        · rename_i s₄ hend
          have h₄ := length_scanValueEnd hend
          simp only [pure, Except.pure, Except.ok.injEq, Prod.mk.injEq] at h
          simp only [dropSpaces] at h₂ h₃
          rw [← h.2]
          omega

/-- The end of a start tag; the flag tells that the element is empty. -/
def scanTagEnd (s : List Char) : Except Stop (Bool × List Char) :=
  match s with
  | '>' :: s => .ok (false, s)
  | '/' :: s => do return (true, ← expect '>' s)
  | [] => .error .cut
  | s => .error (.invalid s)

/-- The attributes and the end of a start tag; white space stands before each attribute. -/
def scanAttributes (s : List Char) :
    Except Stop (List RawAttribute × Bool × List Char) :=
  let rest := dropSpaces s
  if s.head?.any isSpace && rest.head?.any isNameStart then
    match h : scanAttribute rest with
    | .error e => .error e
    | .ok (a, rest') =>
      have : rest'.length < s.length := by
        have h₁ := length_scanAttribute h
        have h₂ := length_dropWhile_le isSpace s
        simp only [rest, dropSpaces] at h₁
        omega
      (scanAttributes rest').map fun (as, r) => (a :: as, r)
  else (scanTagEnd rest).map fun r => ([], r)
termination_by s.length

def scanOpening (s : List Char) : Except Stop (Token × List Char) := do
  let (name, s) ← scanQualifiedName s
  let (attributes, isEmpty, s) ← scanAttributes s
  return (.opening name attributes isEmpty, s)

/-- An end tag after its opening. Its name may hold any number of colons. -/
def scanClosing (s : List Char) : Except Stop (Token × List Char) := do
  expectName s
  let inName (c : Char) : Bool := isNameChar c || c == ':'
  return (.closing (s.takeWhile inName) s, ← expect '>' (dropSpaces (s.dropWhile inName)))

def sectionKeyword : List Char := ['C', 'D', 'A', 'T', 'A', '[']

/-- Markup after its angle bracket. -/
def scanMarkup : List Char → Except Stop (Token × List Char)
  | [] => .error .cut
  | '!' :: '-' :: s => do
    let s ← expect '-' s
    return (.comment, ← scanComment s)
  | '!' :: '[' :: s => do return (.sectionOpening, ← scanKeyword sectionKeyword s)
  | '!' :: [] => .error .cut
  | '!' :: s => .error (.invalid s)
  | '?' :: s => do
    let (i, s) ← scanInstruction s
    return (.instruction i, s)
  | '/' :: s => scanClosing s
  | s => scanOpening s

/-- The next token of content; every line ending is one newline. -/
def scanContent : List Char → Except Stop (Token × List Char)
  | [] => .error .cut
  | '<' :: s => scanMarkup s
  | '&' :: s => do
    let (r, s) ← scanReference s
    return (.reference r, s)
  | ']' :: ']' :: '>' :: s => .error (.invalid ('>' :: s))
  | '\r' :: '\n' :: s => .ok (.character '\n', s)
  | c :: s =>
    if !isAllowed c then .error (.invalid (c :: s))
    else .ok (.character (if c = '\r' then '\n' else c), s)

end QuizPreflight.Markup
