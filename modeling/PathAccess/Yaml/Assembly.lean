import PathAccess.Yaml.Content
import PathAccess.Yaml.Merge

/-!
# Values of YAML documents

The value that a document stands for.  A key that is written twice has the last value at the place of the first, a
merged mapping comes before the pairs of the mapping around it, and a collection cannot be a key.  A text without a
document stands for nothing.

The nodes are met level by level: a scalar is read when it is met, and the parts of a collection are met after
everything that was met before the collection (`Assembly.fill`), so of two faults the one nearer to the root counts.
A node is met only once, however many aliases it has.
-/

namespace PathAccess.Yaml

variable {ω : Type}

/-- A document of which some nodes have been met. -/
structure Assembly (ω : Type) where
  nodes : Nodes
  /-- The values of the nodes that have been met, collections without their parts. -/
  met : Array (Option (Value ω))
  /-- The collections whose parts are still to be met, in order. -/
  waiting : List Nat := []

namespace Assembly

/-- The text of a scalar, or of the default that a mapping gives. -/
def scalarText (nodes : Nodes) : Nat → Nat → Except Trouble CodeText
  | 0, _ => .error .bottomless
  | fuel + 1, n =>
    match nodes.body n with
    | .scalar text => .ok text
    | .mapping ps =>
      match ps.find? fun p => nodes.tag p.1 = .default with
      | some p => scalarText nodes fuel p.2
      | none => .error .unreadable
    | .sequence _ => .error .unreadable

/-- What a tag makes of a collection before its parts are known. -/
def outline? : Tag → Option (Value ω)
  | .sequence | .orderedMap | .pairs => some (.list [])
  | .mapping => some (.map [])
  | .set => some (.set [])
  | _ => none

/-- The value of a node that is no collection. -/
def scalarValue (nodes : Nodes) (n : Nat) : Except Trouble (Value ω) :=
  match nodes.tag n with
  | .other | .merge | .default => .error .unreadable
  | tag => do
    let text ← scalarText nodes (nodes.size + 1) n
    match tag, nodes.body n with
    | .timestamp, .mapping _ => throw .momentWithoutText
    | _, _ => scalarContent tag text

/-- Meets a node. -/
def meet (a : Assembly ω) (n : Nat) : Except Trouble (Assembly ω) :=
  match a.met.getD n none with
  | some _ => .ok a
  | none =>
    match outline? (a.nodes.tag n) with
    | some v => .ok { a with met := a.met.setIfInBounds n (some v), waiting := a.waiting ++ [n] }
    | none => do
      let v ← scalarValue a.nodes n
      return { a with met := a.met.setIfInBounds n (some v) }

/-- The value of a node that has been met, without its parts. -/
def outline (a : Assembly ω) (n : Nat) : Value ω := (a.met.getD n none).getD .null

/-- Whether a value can be a key. -/
def isKey : Value ω → Bool
  | .list _ | .map _ | .set _ => false
  | _ => true

/-- Meets a pair of a mapping. -/
def meetPair (a : Assembly ω) (p : Nat × Nat) : Except Trouble (Assembly ω) := do
  let a ← a.meet p.1
  if !isKey (a.outline p.1) then throw .unreadable
  a.meet p.2

/-- Meets a pair that stands by itself in a sequence of pairs. -/
def meetSingle (a : Assembly ω) (n : Nat) : Except Trouble (Assembly ω) :=
  match a.nodes.body n with
  | .mapping [p] => do (← a.meet p.1).meet p.2
  | _ => .error .unreadable

/-- Meets the parts of a collection. -/
def fill (a : Assembly ω) (n : Nat) : Except Trouble (Assembly ω) :=
  match a.nodes.tag n, a.nodes.body n with
  | .sequence, .sequence items => items.foldlM meet a
  | .orderedMap, .sequence items | .pairs, .sequence items => items.foldlM meetSingle a
  | .mapping, .mapping _ | .set, .mapping _ => do
    let nodes ← a.nodes.merge n
    (nodes.pairs n).foldlM meetPair { a with nodes }
  | _, _ => .error .unreadable

/-- Meets all nodes below the ones that wait.  At most `fuel` collections are looked into. -/
def run : Nat → Assembly ω → Except Trouble (Assembly ω)
  | 0, a => .ok a
  | fuel + 1, a =>
    match a.waiting with
    | [] => .ok a
    | n :: waiting => do run fuel (← { a with waiting }.fill n)

/-- What tells keys apart that are equal to no key, not even to themselves: the node, except for the undefined number
that is written as such. -/
def origin (a : Assembly ω) (n : Nat) : Nat :=
  match a.nodes.tag n, a.nodes.body n with
  | .float, .scalar text => if isUndefined text.chars then a.nodes.size else n
  | _, _ => n

variable [Value.Leaf ω]

/-- Writes a pair into pairs with their origins: an equal key keeps its place and gets the new value. -/
def writePair (o : Nat) (k v : Value ω) : List (Nat × Value ω × Value ω) → List (Nat × Value ω × Value ω)
  | [] => [(o, k, v)]
  | (o', k', v') :: ps =>
    if o = o' || Value.same k' k then (o', k', v) :: ps else (o', k', v') :: writePair o k v ps

/-- The value of a node, of which `depth` levels of parts are shown. -/
def value (a : Assembly ω) : Nat → Nat → Value ω
  | 0, n => a.outline n
  | depth + 1, n =>
    let pairs := (a.nodes.pairs n).foldl (fun ps p =>
      writePair (a.origin p.1) (a.value depth p.1) (a.value depth p.2) ps) []
    match a.nodes.tag n, a.nodes.body n with
    | .sequence, .sequence items => .list (items.map (a.value depth))
    | .orderedMap, .sequence items | .pairs, .sequence items =>
      .list (items.flatMap fun i => (a.nodes.pairs i).map fun p => .tuple [a.value depth p.1, a.value depth p.2])
    | .mapping, .mapping _ => .map (pairs.map Prod.snd)
    | .set, .mapping _ => .set (pairs.map fun p => p.2.1)
    | _, _ => a.outline n

end Assembly

variable [Value.Leaf ω]

/-- How many levels of parts the value of a document shows.  An alias of a node around it makes a document endless. -/
def shownDepth : Nat := 4

/-- The value of a document. -/
def Document.value (d : Document) : Except Trouble (Value ω) := do
  let a : Assembly ω := ⟨d.nodes, Array.replicate d.nodes.size none, []⟩
  let a ← (← a.meet d.root).run (d.nodes.size + 1)
  return a.value shownDepth d.root

/-- The value that a text stands for. -/
def load (text : String) : Except Trouble (Value ω) := do
  match ← Document.ofText text with
  | some d => d.value
  | none => return .null

end PathAccess.Yaml
