import QuizPreflight.Yaml.Node

/-!
# Documents

The value a node stands for. Merge keys bring in the entries of other mappings, a repeated key
keeps its first place and takes its last value, and collections may not be keys. Collections
are filled level by level, so of several faults the one nearest the root is reported.
-/
namespace QuizPreflight.Yaml

open QuizPreflight.Decimal

def Node.tag : Node → Tag
  | .scalar t _ => t
  | .sequence t _ => t
  | .mapping t _ => t
  | .enclosing => .map

/-- The text of a scalar; a mapping stands for that of its first entry for an equals sign. -/
def Node.scalarText? : Node → Option (List Char)
  | .scalar _ text => some text
  | .sequence _ _ => none
  | .mapping _ entries => entryText? entries
  | .enclosing => none
where
  entryText? : List (Node × Node) → Option (List Char)
    | [] => none
    | (k, v) :: es => if k.tag == .value then v.scalarText? else entryText? es

def Tag.isCollection (t : Tag) : Bool := [Tag.seq, .map, .set, .omap, .pairs].contains t

/-- Whether a node stands for a scalar: it is one, or has the tag of one. -/
def Node.isScalar : Node → Bool
  | .scalar _ _ => true
  | .sequence _ _ => false
  | .mapping tag _ => !tag.isCollection
  | .enclosing => false

/-- The number of levels of a node. -/
def Node.depth : Node → Nat
  | .scalar _ _ => 1
  | .enclosing => 1
  | .sequence _ items => depths items + 1
  | .mapping _ entries => entryDepths entries + 1
where
  depths : List Node → Nat
    | [] => 0
    | n :: ns => max n.depth (depths ns)
  entryDepths : List (Node × Node) → Nat
    | [] => 0
    | (k, v) :: es => max (max k.depth v.depth) (entryDepths es)

abbrev Entries := List (Node × Node)

/-- The entries a merge key brings in; the value is a mapping or a sequence of mappings. -/
def mergedFrom (flatten : Entries → Option Entries) (value : Node) : Option Entries :=
  match value with
  | .mapping _ entries => flatten entries
  | .sequence _ items => do
    let parts ← items.mapM fun item =>
      match item with
      | .mapping _ entries => flatten entries
      | .enclosing => some []
      | _ => none
    some parts.reverse.flatten
  | .enclosing => some []
  | .scalar _ _ => none

/-- Entries with merge keys replaced by what they bring in, which stands in front. A lone
equals sign as a key is plain text. -/
def flattenEntries : Nat → Entries → Option Entries
  | 0, entries => some entries
  | fuel + 1, entries => do
    let merged ← (entries.filter (·.1.tag == .merge)).mapM fun e =>
      mergedFrom (flattenEntries fuel) e.2
    let own := (entries.filter (·.1.tag != .merge)).map fun e =>
      match e.1 with
      | .scalar .value text => (Node.scalar .str text, e.2)
      | _ => e
    some (merged.flatten ++ own)

def Node.entries? (n : Node) : Option Entries :=
  match n with
  | .mapping _ entries => flattenEntries n.depth entries
  | _ => none

/-- Two scalars are the same key; whole numbers, fractions and truth values compare as numbers. -/
def sameKey (a b : Value) : Bool :=
  let whole (v : Value) : Option Int :=
    match v with
    | .bool b => some (if b then 1 else 0)
    | .int n => some n
    | .float x =>
      let p := partsOf x
      if x.isNaN || x.isInf then none
      else
        let m : Int := if p.negative then -p.mantissa else p.mantissa
        if 0 ≤ p.exponent then some (m * Nat.pow 2 p.exponent.toNat)
        else if m % Nat.pow 2 (-p.exponent).toNat = 0 then
          some (m / Nat.pow 2 (-p.exponent).toNat)
        else none
    | _ => none
  match whole a, whole b with
  | some m, some n => m == n
  | some _, none => false
  | none, some _ => false
  | none, none =>
    match a, b with
    | .null, .null => true
    | .float x, .float y => x == y
    | .text s, .text t => s == t
    | .bytes s, .bytes t => s == t
    | .date d, .date e => d == e
    | .timestamp s, .timestamp t => s.sameInstant t
    | _, _ => false

def insertEntry (key value : Value) : List (Value × Value) → List (Value × Value)
  | [] => [(key, value)]
  | (k, v) :: rest =>
    if sameKey k key then (k, value) :: rest else (k, v) :: insertEntry key value rest

/-- The value of a node in which no fault lies. -/
def Node.value : Nat → Node → Value
  | 0, _ => .null
  | fuel + 1, n =>
    let valueOf := Node.value fuel
    match n with
    | .enclosing => .enclosing
    | .scalar tag text => (scalarValue tag text).toOption.getD .null
    | .sequence tag items =>
      if tag == .omap || tag == .pairs then
        .list (items.map fun item =>
          match item with
          | .mapping _ [(k, v)] => .list [valueOf k, valueOf v]
          | _ => .null)
      else .list (items.map valueOf)
    | .mapping tag _ =>
      if n.isScalar then (scalarValue tag (n.scalarText?.getD [])).toOption.getD .null
      else
        let entries := (n.entries?.getD []).foldl
          (fun es e => insertEntry (valueOf e.1) (valueOf e.2) es) []
        if tag == .set then .set (entries.map Prod.fst) else .map entries

/-- Reads a scalar at once and puts a collection off to the next level. A mapping under the tag of
a scalar has the text of one, except that a timestamp is not looked for in it. -/
def visit (n : Node) : Except Fault (List Node) :=
  match n with
  | .enclosing => .ok []
  | .scalar tag text => (scalarValue tag text).map fun _ => []
  | .sequence tag _ => if tag.isCollection then .ok [n] else .error .malformed
  | .mapping tag _ =>
    if tag.isCollection then .ok [n]
    else match n.scalarText? with
      | none => .error .malformed
      | some text =>
        if tag == .timestamp then .error .notText else (scalarValue tag text).map fun _ => []

def visitEntries : Entries → Except Fault (List Node)
  | [] => .ok []
  | (key, value) :: rest => do
    let below ← visit key
    if !key.isScalar then throw .malformed
    return below ++ (← visit value) ++ (← visitEntries rest)

def visitPairs : List Node → Except Fault (List Node)
  | [] => .ok []
  | .mapping _ [(key, value)] :: rest => do
    return (← visit key) ++ (← visit value) ++ (← visitPairs rest)
  | _ :: _ => .error .malformed

def visitAll : List Node → Except Fault (List Node)
  | [] => .ok []
  | n :: rest => do return (← visit n) ++ (← visitAll rest)

/-- Fills one collection and returns the collections inside it. -/
def fill (n : Node) : Except Fault (List Node) :=
  match n with
  | .sequence tag items =>
    if tag == .seq then visitAll items
    else if tag == .omap || tag == .pairs then visitPairs items
    else .error .malformed
  | .mapping tag _ =>
    if tag == .map || tag == .set then
      match n.entries? with
      | some entries => visitEntries entries
      | none => .error .malformed
    else .error .malformed
  | _ => .ok []

/-- Fills the collections of one level after the other. -/
def fillLevels : Nat → List Node → Except Fault Unit
  | 0, _ => .ok ()
  | _ + 1, [] => .ok ()
  | fuel + 1, level => do
    let below ← level.mapM fill
    fillLevels fuel below.flatten

/-- The value of a document; an empty one is null. -/
def load (s : List Char) : Except Fault Value := do
  match ← Node.ofText s with
  | none => return .null
  | some n =>
    let top ← visit n
    fillLevels n.depth top
    return n.value n.depth

/-- A loader that makes values of documents. -/
def safeLoader : Loader := fun s => (load s).mapError Fault.reported

end QuizPreflight.Yaml
