import PathAccess.Yaml.Tag
import PathAccess.Yaml.Token

/-!
# Nodes of a YAML document

The nodes that the tokens of a text describe.  They are numbered, and a collection holds the numbers of its parts; an
alias is the number of the node that it stands for, so a node may be part of several others or of itself.  A text
holds at most one document.
-/

namespace PathAccess.Yaml

/-- What a node holds. -/
inductive Body where
  | scalar (text : CodeText)
  /-- A sequence, by the numbers of its items. -/
  | sequence (items : List Nat)
  /-- A mapping, by the numbers of its keys and values. -/
  | mapping (pairs : List (Nat × Nat))

structure Node where
  tag : Tag
  body : Body

instance : Inhabited Node := ⟨.null, .scalar default⟩

/-- A document as far as it has been read. -/
structure Draft where
  /-- The start of tags with a handle. -/
  handles : List (String × String)
  /-- The nodes that an alias may name. -/
  anchors : List (String × Nat) := []
  nodes : Array Node := #[]

/-- A document: all of its nodes, and the number of the one that holds the others. -/
structure Document where
  nodes : Array Node
  root : Nat

namespace Node

/-- How deeply nodes may be nested. -/
def maxDepth : Nat := 489

/-- What reading gives: something, the draft afterwards, and the tokens left. -/
abbrev Reading (α : Type) : Type := α × Draft × List Token

/-- Adds a node. -/
def add (node : Node) (d : Draft) : Nat × Draft := (d.nodes.size, { d with nodes := d.nodes.push node })

/-- Adds a node that is not written. -/
def absent (d : Draft) (ts : List Token) : Reading Nat :=
  let (n, d) := add default d
  (n, d, ts)

/-- The reason why the tokens cannot go on like this. -/
def refuse {α : Type} : List Token → Except Trouble α
  | .trouble reason :: _ => .error reason
  | _ => .error .unreadable

/-- Passes tokens on, unless the text stops making sense there. -/
def expect (ts : List Token) : Except Trouble (List Token) :=
  match ts with
  | .trouble reason :: _ => .error reason
  | ts => .ok ts

/-- The anchor and the tag before a node, either of which may come first. -/
def properties : List Token → Except Trouble (Option String × Option (Option String × String) × List Token)
  | .anchor a :: .tag h r :: ts => .ok (some a, some (h, r), ts)
  | .anchor a :: ts => do return (some a, none, ← expect ts)
  | .tag h r :: .anchor a :: ts => .ok (some a, some (h, r), ts)
  | .tag h r :: ts => do return (none, some (h, r), ← expect ts)
  | ts => .ok (none, none, ts)

/-- The full name of a tag. -/
def tagName (d : Draft) : Option String × String → Except Trouble String
  | (none, rest) => .ok rest
  | (some handle, rest) =>
    match d.handles.find? (·.1 = handle) with
    | some e => .ok (e.2 ++ rest)
    | none => .error .unreadable

/-- The tag of a scalar with a written tag, if any. -/
def scalarTag (written : Option String) (text : CodeText) (isPlain : Bool) : Tag :=
  match written with
  | none => if isPlain then Tag.ofText text.chars else .text
  | some "!" => Tag.ofText text.chars
  | some name => Tag.ofName name

/-- The tag of a collection with a written tag, if any. -/
def collectionTag (written : Option String) (plain : Tag) : Tag :=
  match written with
  | none => plain
  | some "!" => plain
  | some name => Tag.ofName name

/-- Adds a node under its anchor, which must be new. -/
def declare (anchor : Option String) (node : Node) (d : Draft) : Except Trouble (Nat × Draft) :=
  let (n, d) := add node d
  match anchor with
  | none => .ok (n, d)
  | some a =>
    if d.anchors.any (·.1 = a) then .error .unreadable else .ok (n, { d with anchors := (a, n) :: d.anchors })

/-- Gives a node that has been added its parts. -/
def complete (n : Nat) (body : Body) (d : Draft) : Draft :=
  { d with nodes := d.nodes.modify n fun node => { node with body } }

/-- Whether nothing is written for a part of a pair in a block. -/
def endsBlockPart : List Token → Bool
  | .key :: _ | .value :: _ | .blockEnd :: _ => true
  | _ => false

/-- Whether nothing is written for a part of a pair between brackets. -/
def endsFlowPart (close : Token) : List Token → Bool
  | .value :: _ | .flowEntry :: _ => true
  | t :: _ => t = close
  | [] => false

/-- A node of which only an anchor or a tag is written. -/
def unwritten (anchor written : Option String) (d : Draft) (ts : List Token) : Except Trouble (Reading Nat) := do
  let ts ← expect ts
  if anchor.isNone && written.isNone then throw .unreadable
  let (n, d) ← declare anchor ⟨scalarTag written default written.isNone, .scalar default⟩ d
  return (n, d, ts)

mutual

/-- Reads a node that may hold others up to `depth` levels below it.  Collections written by indentation are only read
where `block` allows them, and entries without an indentation of their own where `bare` does. -/
def read (block bare : Bool) (depth : Nat) : Nat → Draft → List Token → Except Trouble (Reading Nat)
  | 0, _, ts => refuse ts
  | fuel + 1, d, ts =>
    if depth = 0 then .error .bottomless
    else match ts with
    | .reference a :: ts =>
      match d.anchors.find? (·.1 = a) with
      | some e => .ok (e.2, d, ts)
      | none => .error .unreadable
    | ts => do
      let (anchor, tag, ts) ← properties ts
      let written ← match tag with
        | some t => (tagName d t).map some
        | none => .ok none
      let sequence (parts : Draft → Except Trouble (Reading (List Nat))) : Except Trouble (Reading Nat) := do
        let (n, d) ← declare anchor ⟨collectionTag written .sequence, .sequence []⟩ d
        let (items, d, ts) ← parts d
        return (n, complete n (.sequence items) d, ts)
      let mapping (parts : Draft → Except Trouble (Reading (List (Nat × Nat)))) : Except Trouble (Reading Nat) := do
        let (n, d) ← declare anchor ⟨collectionTag written .mapping, .mapping []⟩ d
        let (pairs, d, ts) ← parts d
        return (n, complete n (.mapping pairs) d, ts)
      match ts with
      | .scalar text isPlain :: ts => do
        let (n, d) ← declare anchor ⟨scalarTag written text isPlain, .scalar text⟩ d
        return (n, d, ts)
      | .flowSequenceStart :: ts => sequence fun d => flowItems true (depth - 1) fuel d ts
      | .flowMappingStart :: ts => mapping fun d => flowPairs true (depth - 1) fuel d ts
      | .blockEntry :: _ =>
        if bare then sequence fun d => blockItems true (depth - 1) fuel d ts else unwritten anchor written d ts
      | .sequenceStart :: ts' =>
        if block then sequence fun d => blockItems false (depth - 1) fuel d ts' else unwritten anchor written d ts
      | .mappingStart :: ts' =>
        if block then mapping fun d => blockPairs (depth - 1) fuel d ts' else unwritten anchor written d ts
      | ts => unwritten anchor written d ts
termination_by structural fuel => fuel

/-- Reads the entries of a sequence written with hyphens, up to its end. -/
def blockItems (bare : Bool) (depth : Nat) : Nat → Draft → List Token → Except Trouble (Reading (List Nat))
  | 0, _, ts => refuse ts
  | fuel + 1, d, ts =>
    match ts with
    | .blockEntry :: ts => do
      let isAbsent := match ts with
        | .blockEntry :: _ | .blockEnd :: _ => true
        | .key :: _ | .value :: _ => bare
        | _ => false
      let (item, d, ts) ← if isAbsent then .ok (absent d ts) else read true false depth fuel d ts
      let (items, d, ts) ← blockItems bare depth fuel d ts
      return (item :: items, d, ts)
    | .blockEnd :: rest => .ok ([], d, if bare then ts else rest)
    | ts => if bare then do return ([], d, ← expect ts) else refuse ts
termination_by structural fuel => fuel

/-- Reads the pairs of a mapping written by indentation, up to its end. -/
def blockPairs (depth : Nat) : Nat → Draft → List Token → Except Trouble (Reading (List (Nat × Nat)))
  | 0, _, ts => refuse ts
  | fuel + 1, d, ts =>
    match ts with
    | .key :: ts => do
      let (key, d, ts) ← if endsBlockPart ts then .ok (absent d ts) else read true true depth fuel d ts
      let (value, d, ts) ← match ts with
        | .value :: ts =>
          if endsBlockPart ts then .ok (absent d ts) else read true true depth fuel d ts
        | ts => .ok (absent d ts)
      let (pairs, d, ts) ← blockPairs depth fuel d ts
      return ((key, value) :: pairs, d, ts)
    | .blockEnd :: ts => .ok ([], d, ts)
    | ts => refuse ts
termination_by structural fuel => fuel

/-- Reads the items of a sequence between brackets, up to its end. -/
def flowItems (first : Bool) (depth : Nat) : Nat → Draft → List Token → Except Trouble (Reading (List Nat))
  | 0, _, ts => refuse ts
  | fuel + 1, d, ts =>
    let item (ts : List Token) : Except Trouble (Reading (List Nat)) :=
      match ts with
      | .flowSequenceEnd :: ts => .ok ([], d, ts)
      | .key :: ts => do
        let (n, d) := add ⟨.mapping, .mapping []⟩ d
        let (key, d, ts) ←
          if endsFlowPart .flowSequenceEnd ts then .ok (absent d ts) else read false false (depth - 1) fuel d ts
        let (value, d, ts) ← match ts with
          | .value :: ts =>
            if endsFlowPart .flowSequenceEnd ts then .ok (absent d ts) else read false false (depth - 1) fuel d ts
          | ts => .ok (absent d ts)
        let (items, d, ts) ← flowItems false depth fuel (complete n (.mapping [(key, value)]) d) ts
        return (n :: items, d, ts)
      | ts => do
        let (n, d, ts) ← read false false depth fuel d ts
        let (items, d, ts) ← flowItems false depth fuel d ts
        return (n :: items, d, ts)
    match ts with
    | .flowSequenceEnd :: ts => .ok ([], d, ts)
    | .flowEntry :: rest => if first then item ts else item rest
    | ts => if first then item ts else refuse ts
termination_by structural fuel => fuel

/-- Reads the pairs of a mapping between braces, up to its end. -/
def flowPairs (first : Bool) (depth : Nat) : Nat → Draft → List Token → Except Trouble (Reading (List (Nat × Nat)))
  | 0, _, ts => refuse ts
  | fuel + 1, d, ts =>
    let item (ts : List Token) : Except Trouble (Reading (List (Nat × Nat))) :=
      match ts with
      | .flowMappingEnd :: ts => .ok ([], d, ts)
      | .key :: ts => do
        let (key, d, ts) ←
          if endsFlowPart .flowMappingEnd ts then .ok (absent d ts) else read false false depth fuel d ts
        let (value, d, ts) ← match ts with
          | .value :: ts =>
            if endsFlowPart .flowMappingEnd ts then .ok (absent d ts) else read false false depth fuel d ts
          | ts => .ok (absent d ts)
        let (pairs, d, ts) ← flowPairs false depth fuel d ts
        return ((key, value) :: pairs, d, ts)
      | ts => do
        let (key, d, ts) ← read false false depth fuel d ts
        let (value, d, ts) := absent d ts
        let (pairs, d, ts) ← flowPairs false depth fuel d ts
        return ((key, value) :: pairs, d, ts)
    match ts with
    | .flowMappingEnd :: ts => .ok ([], d, ts)
    | .flowEntry :: rest => if first then item ts else item rest
    | ts => if first then item ts else refuse ts
termination_by structural fuel => fuel

end

end Node

namespace Document

/-- The handles that every document has. -/
def standardHandles : List (String × String) := [("!", "!"), ("!!", "tag:yaml.org,2002:")]

/-- Reads directives, given the handles and whether a version was stated before. -/
def directives :
    List Token → List (String × String) → Bool → Except Trouble (List (String × String) × List Token)
  | .version major :: ts, handles, versioned =>
    if versioned || major ≠ 1 then .error .unreadable else directives ts handles true
  | .tagHandle handle start :: ts, handles, versioned =>
    if handles.any (·.1 = handle) then .error .unreadable
    else directives ts ((handle, start) :: handles) versioned
  | .otherDirective :: ts, handles, versioned => directives ts handles versioned
  | ts, handles, _ => .ok (handles ++ standardHandles, ts)

/-- The tokens after the marks at the end of a document. -/
def skipEnds : List Token → List Token
  | .documentEnd :: ts => skipEnds ts
  | ts => ts

/-- Refuses anything but marks after the document. -/
def nothingMore (ts : List Token) : Except Trouble Unit :=
  match skipEnds ts with
  | [] => .ok ()
  | ts => do
    let (_, ts) ← directives ts [] false
    Node.refuse ts

/-- The document after its directives. -/
def body (handles : List (String × String)) (isExplicit : Bool) (ts : List Token) :
    Except Trouble (Option Document) := do
  let isEmpty := isExplicit && match ts with
    | [] | .documentStart :: _ | .documentEnd :: _ | .version _ :: _ | .tagHandle .. :: _
    | .otherDirective :: _ => true
    | _ => false
  let (root, d, ts) ← if isEmpty then .ok (Node.absent { handles } ts)
    else Node.read true false Node.maxDepth (4 * ts.length + 8) { handles } ts
  nothingMore ts
  return some ⟨d.nodes, root⟩

/-- The document of a text, if it holds one. -/
def ofTokens (ts : List Token) : Except Trouble (Option Document) :=
  let explicit (ts : List Token) : Except Trouble (Option Document) := do
    let (handles, ts) ← directives ts [] false
    match ts with
    | .documentStart :: ts => body handles true ts
    | ts => Node.refuse ts
  match ts with
  | [] => .ok none
  | .version _ :: _ | .tagHandle .. :: _ | .otherDirective :: _ | .documentStart :: _ => explicit ts
  | ts => body standardHandles false ts

/-- The document of a text, if it holds one. -/
def ofText (text : String) : Except Trouble (Option Document) := ofTokens (tokens text)

end Document

end PathAccess.Yaml
