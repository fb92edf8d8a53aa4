import QuizPreflight.Markup.Token
import QuizPreflight.Markup.Namespace

/-!
# Attributes of a tag

References in a value are replaced and its white space is normalised. What the document type
declares about an attribute decides how, and adds the values that a tag leaves out.
-/
namespace QuizPreflight.Markup

structure DeclaredAttribute where
  element : List Char
  name : List Char
  value : Option (List Char)
  isTokenised : Bool

/-- What a document declares before its first element. -/
structure Declarations where
  isStandalone : Bool
  /-- Some declarations may stand outside the document. -/
  hasExternal : Bool
  /-- Declarations are no longer taken in after a reference that was not followed. -/
  isAbandoned : Bool
  attributes : List DeclaredAttribute

def Declarations.none : Declarations := ⟨false, false, false, []⟩

/-- An entity that is not declared is an error only where nothing else could declare it. -/
def Declarations.decidesEntities (d : Declarations) : Bool := !d.hasExternal || d.isStandalone

def Declarations.attributesOf (d : Declarations) (element : List Char) :
    List DeclaredAttribute :=
  d.attributes.filter (·.element == element)

/-- The first declaration of an attribute decides its type. -/
def Declarations.isTokenised (d : Declarations) (element name : List Char) : Bool :=
  ((d.attributesOf element).find? (·.name == name)).any (·.isTokenised)

def predefinedEntities : List (List Char × Char) :=
  [("lt".toList, '<'), ("gt".toList, '>'), ("amp".toList, '&'), ("quot".toList, '"'),
   ("apos".toList, '\'')]

theorem length_scanReference {s rest : List Char} {r : Reference}
    (h : scanReference s = .ok (r, rest)) : rest.length < s.length := by
  have number {p : Char → Bool} {base : Nat} {s : List Char}
      (h : scanNumber p base s = .ok (r, rest)) : rest.length < s.length := by
    cases s with
    | nil => simp [scanNumber] at h
    | cons c s =>
      simp only [scanNumber] at h
      split at h
      · simp only [bind, Except.bind] at h
        split at h
        · simp at h
        · rename_i r' hr
          have h₁ := length_expect hr
          have h₂ := length_dropWhile_le p (c :: s)
          simp only [pure, Except.pure, Except.ok.injEq, Prod.mk.injEq] at h
          rw [← h.2]
          omega
      · simp at h
  unfold scanReference at h
  split at h
  · have := number h
    simp only [List.length_cons]
    omega
  · have := number h
    simp only [List.length_cons]
    omega
  · simp only [bind, Except.bind] at h
    split at h
    · simp at h
    · rename_i p hp
      obtain ⟨n, s₁⟩ := p
      have h₁ := length_scanName hp
      dsimp only at h
      split at h
      · simp at h
      · rename_i s₂ hs
        have h₂ := length_expect hs
        simp only [pure, Except.pure, Except.ok.injEq, Prod.mk.injEq] at h
        rw [← h.2]
        omega

/-- How a value is read, and where a reference to an undefined entity is reported. -/
structure ValueContext where
  quote : Char
  isTokenised : Bool
  decidesEntities : Bool
  start : List Char

/-- A tokenised value keeps one space between words and none before the first. -/
def ValueContext.space (ctx : ValueContext) (done : List Char) : List Char :=
  if ctx.isTokenised && (done.isEmpty || done.head? == some ' ') then done else ' ' :: done

def ValueContext.finish (ctx : ValueContext) (done : List Char) : List Char :=
  (if ctx.isTokenised && done.head? == some ' ' then done.tail else done).reverse

/-- The value that has been read so far, latest character first, and goes on up to its quote. -/
def ValueContext.read (ctx : ValueContext) (done s : List Char) : Except Fault (List Char) :=
  match s with
  | [] => .ok (ctx.finish done)
  | '\r' :: '\n' :: s => ctx.read (ctx.space done) s
  | c :: s =>
    if c = ctx.quote then .ok (ctx.finish done)
    else if c = '<' then .error (.at .invalidToken (c :: s))
    else if c = '&' then
      match h : scanReference s with
      | .error (.invalid rest) =>
        .error (.at .invalidToken (if rest.head? == some ctx.quote then c :: s else rest))
      | .error .cut => .error (.at .invalidToken (c :: s))
      | .ok (.character none, _) => .error (.at .invalidCharacterNumber (c :: s))
      | .ok (.character (some d), rest) =>
        have := length_scanReference h
        ctx.read (if d = ' ' then ctx.space done else d :: done) rest
      | .ok (.entity name, rest) =>
        have := length_scanReference h
        match predefinedEntities.lookup name with
        | some d => ctx.read (d :: done) rest
        | none =>
          if ctx.decidesEntities then .error (.at .undefinedEntity ctx.start)
          else ctx.read done rest
    else if isSpace c then ctx.read (ctx.space done) s
    else ctx.read (c :: done) s
termination_by s.length

/-- The attributes of a tag as far as they have been read, latest first. -/
structure TagReading where
  scope : Scope
  seen : List (List Char)
  attributes : List (List Char × List Char)

/-- A declared prefix comes into force; any other attribute is kept. -/
def TagReading.add (t : TagReading) (start name value : List Char) : Except Fault TagReading :=
  match declaredPrefix? name with
  | none => .ok ⟨t.scope, name :: t.seen, (name, value) :: t.attributes⟩
  | some pfx =>
    match t.scope.bind pfx value with
    | .error cause => .error (.at cause start)
    | .ok scope => .ok ⟨scope, name :: t.seen, t.attributes⟩

def TagReading.addRaw (d : Declarations) (start element : List Char) (t : TagReading)
    (a : RawAttribute) : Except Fault TagReading :=
  if t.seen.contains a.name then .error (.at .duplicateAttribute a.start)
  else do
    let ctx : ValueContext := ⟨a.quote, d.isTokenised element a.name, d.decidesEntities, start⟩
    t.add start a.name (← ctx.read [] a.value)

def TagReading.addDefault (start : List Char) (t : TagReading) (a : DeclaredAttribute) :
    Except Fault TagReading :=
  match a.value with
  | none => .ok t
  | some value => if t.seen.contains a.name then .ok t else t.add start a.name value

/-- The attributes under their expanded names, which have to differ. -/
def expandAll (scope : Scope) (start : List Char) :
    Attributes → List (List Char × List Char) → Except Fault Attributes
  | done, [] => .ok done
  | done, (name, value) :: rest =>
    match scope.expandAttribute name with
    | .error cause => .error (.at cause start)
    | .ok expanded =>
      if done.any (·.1 == expanded) then .error (.at .duplicateAttribute start)
      else expandAll scope start (done ++ [(expanded, value)]) rest

/-- A start tag with its names resolved. -/
structure Tag where
  scope : Scope
  name : List Char
  attributes : List (String × String)

/-- Resolves the start tag that begins at a place. -/
def readTag (d : Declarations) (scope : Scope) (start name : List Char)
    (raws : List RawAttribute) : Except Fault Tag := do
  let t ← raws.foldlM (TagReading.addRaw d start name) ⟨scope, [], []⟩
  let t ← (d.attributesOf name).foldlM (TagReading.addDefault start) t
  let attributes ← expandAll t.scope start [] t.attributes.reverse
  match t.scope.elementName name with
  | .error cause => .error (.at cause start)
  | .ok part => return ⟨t.scope, part, attributes.stripAll⟩

end QuizPreflight.Markup
