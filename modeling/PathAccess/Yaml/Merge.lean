import PathAccess.Yaml.Node

/-!
# Merged mappings

A pair whose key is the merge mark puts the pairs of another mapping, or of several, before those of the mapping that
it stands in, and is gone afterwards.  What a merged mapping itself merges is merged first.  Of several mappings the
pairs of the last come first.  The nodes of a document are shared, so a merge changes a mapping wherever it is used.
-/

namespace PathAccess.Yaml

/-- The nodes of a document. -/
abbrev Nodes : Type := Array Node

namespace Nodes

def tag (nodes : Nodes) (n : Nat) : Tag := (nodes.getD n default).tag

def body (nodes : Nodes) (n : Nat) : Body := (nodes.getD n default).body

/-- The pairs of a mapping. -/
def pairs (nodes : Nodes) (n : Nat) : List (Nat × Nat) :=
  match nodes.body n with
  | .mapping ps => ps
  | _ => []

/-- Replaces the pairs of a mapping. -/
def withPairs (nodes : Nodes) (n : Nat) (ps : List (Nat × Nat)) : Nodes :=
  nodes.modify n fun node => { node with body := .mapping ps }

/-- Makes a text of a key that is the mark of a default value. -/
def withTextKey (nodes : Nodes) (key : Nat) : Nodes :=
  nodes.modify key fun node => if node.tag = .default then { node with tag := .text } else node

/-- The number of pairs in all mappings. -/
def pairCount (nodes : Nodes) : Nat := (nodes.toList.map fun node => match node.body with
  | .mapping ps => ps.length
  | _ => 0).foldl (· + ·) 0

/-- Merges what mapping `n` merges, given what it has merged so far. -/
def mergeInto : Nat → Nat → List (Nat × Nat) → Nodes → Except Trouble Nodes
  | 0, _, _, _ => .error .bottomless
  | fuel + 1, n, merged, nodes =>
    let isMerge (p : Nat × Nat) : Bool := nodes.tag p.1 = .merge
    match (nodes.pairs n).find? isMerge with
    | none =>
      let own := nodes.pairs n
      .ok ((own.foldl (fun nodes p => withTextKey nodes p.1) nodes).withPairs n (merged ++ own))
    | some (_, source) =>
      let nodes := nodes.withPairs n ((nodes.pairs n).eraseP isMerge)
      match nodes.body source with
      | .mapping _ => do
        let nodes ← mergeInto fuel source [] nodes
        mergeInto fuel n (merged ++ nodes.pairs source) nodes
      | .sequence items => do
        let (sources, nodes) ← items.foldlM (fun (sources, nodes) item =>
          match nodes.body item with
          | .mapping _ => do
            let nodes ← mergeInto fuel item [] nodes
            return (nodes.pairs item ++ sources, nodes)
          | _ => .error .unreadable) (([] : List (Nat × Nat)), nodes)
        mergeInto fuel n (merged ++ sources) nodes
      | .scalar _ => .error .unreadable

/-- Merges what mapping `n` merges.  Every step does away with a pair. -/
def merge (nodes : Nodes) (n : Nat) : Except Trouble Nodes := mergeInto (nodes.pairCount + 1) n [] nodes

end Nodes

end PathAccess.Yaml
