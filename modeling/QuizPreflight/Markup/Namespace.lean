import QuizPreflight.Markup.Fault

/-!
# Namespaces

A prefix stands for a namespace name from the tag that declares it on. In the tree only the
local part of a name remains.
-/
namespace QuizPreflight.Markup

/-- The namespace name of each bound prefix, the innermost first; the empty prefix is for
elements without one, and an empty namespace name takes its binding away. -/
abbrev Scope := List (List Char × List Char)

def xmlPrefix : List Char := "xml".toList

def xmlnsPrefix : List Char := "xmlns".toList

def xmlNamespace : List Char := "http://www.w3.org/XML/1998/namespace".toList

def xmlnsNamespace : List Char := "http://www.w3.org/2000/xmlns/".toList

def Scope.initial : Scope := [(xmlPrefix, xmlNamespace)]

/-- The prefix of a name, if it has one, and its local part. -/
def splitName (name : List Char) : Option (List Char) × List Char :=
  match name.dropWhile (· != ':') with
  | [] => (none, name)
  | _ :: part => (some (name.takeWhile (· != ':')), part)

/-- The prefix that an attribute declares. -/
def declaredPrefix? (name : List Char) : Option (List Char) :=
  if name = xmlnsPrefix then some []
  else match splitName name with
    | (some p, part) => if p = xmlnsPrefix then some part else none
    | (none, _) => none

/-- Binds a prefix, unless the prefix or the namespace name is reserved. -/
def Scope.bind (scope : Scope) (pfx uri : List Char) : Except Cause Scope :=
  if uri.isEmpty && !pfx.isEmpty then .error .undeclaredPrefix
  else if pfx = xmlnsPrefix then .error .reservedXmlns
  else if uri.contains '}' then .error .grammar
  else if pfx = xmlPrefix && uri != xmlNamespace then .error .reservedXml
  else if pfx != xmlPrefix && uri = xmlNamespace then .error .reservedNamespace
  else if uri = xmlnsNamespace then .error .reservedNamespace
  else .ok ((pfx, uri) :: scope)

/-- The namespace of a prefix that has to be bound. -/
def Scope.find (scope : Scope) (pfx : List Char) : Except Cause (List Char) :=
  match scope.lookup pfx with
  | some uri => .ok uri
  | none => .error .unboundPrefix

/-- The name of an attribute: its namespace, if it is in one, and its local part. -/
structure ExpandedName where
  uri : Option (List Char)
  part : List Char
  deriving DecidableEq

def Scope.expandAttribute (scope : Scope) (name : List Char) : Except Cause ExpandedName :=
  match splitName name with
  | (none, part) => .ok ⟨none, part⟩
  | (some pfx, part) => do return ⟨some (← scope.find pfx), part⟩

/-- The local part of an element's name; a prefix has to be bound. -/
def Scope.elementName (scope : Scope) (name : List Char) : Except Cause (List Char) :=
  match splitName name with
  | (none, part) => .ok part
  | (some pfx, part) => do
    let _ ← scope.find pfx
    return part

abbrev Attributes := List (ExpandedName × List Char)

/-- Gives an attribute a value where it stands, or else at the end. -/
def Attributes.put (name : ExpandedName) (value : List Char) : Attributes → Attributes
  | [] => [(name, value)]
  | a :: as => if a.1 = name then (name, value) :: as else a :: Attributes.put name value as

/-- An attribute in a namespace leaves its place and comes back under its local part. -/
def Attributes.strip (as : Attributes) (name : ExpandedName) : Attributes :=
  match as.lookup name with
  | none => as
  | some value => Attributes.put ⟨none, name.part⟩ value (as.filter (·.1 != name))

/-- A value is put under a name that the others have a property in common with. -/
theorem Attributes.forall_put {P : ExpandedName → Prop} {as : Attributes} {n : ExpandedName}
    (h : ∀ a ∈ as, P a.1) (hn : P n) (value : List Char) :
    ∀ a ∈ Attributes.put n value as, P a.1 := by
  induction as with
  | nil => exact List.forall_mem_singleton.mpr hn
  | cons a as ih =>
    obtain ⟨ha, has⟩ := List.forall_mem_cons.mp h
    unfold Attributes.put
    split
    · exact List.forall_mem_cons.mpr ⟨hn, has⟩
    · exact List.forall_mem_cons.mpr ⟨ha, ih has⟩

/-- What comes back under a local part keeps a property that this part has too. -/
theorem Attributes.forall_strip {P : ExpandedName → Prop} {as : Attributes} {n : ExpandedName}
    (h : ∀ a ∈ as, P a.1) (hn : P ⟨none, n.part⟩) : ∀ a ∈ as.strip n, P a.1 := by
  unfold Attributes.strip
  split
  · exact h
  · exact Attributes.forall_put (fun a ha => h a (List.mem_filter.mp ha).1) hn _

/-- The attributes under their local parts alone. -/
def Attributes.stripAll (as : Attributes) : List (String × String) :=
  let qualified := (as.map Prod.fst).filter (·.uri.isSome)
  (qualified.foldl Attributes.strip as).map fun a =>
    (String.ofList a.1.part, String.ofList a.2)

end QuizPreflight.Markup
