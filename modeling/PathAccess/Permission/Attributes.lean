import PathAccess.Fault

/-!
# Attribute constraints

Constraints are written as a query, `key=value,value&key=value`, or given as a map from keys to values.  Of a key
that is written twice the last values count, at the place of the first.  No constraint at all is `none`, never an
empty map.

One set of constraints covers another (`Attributes.cover`) if every key that the first constrains is present in the
second, with only values that the first allows.  A request that lists the value `*` for a key passes for that key.
-/

namespace PathAccess.Attributes

/-- The key and the values of one part of a query. -/
def readPiece (piece : String) : Except Fault (String × List String) :=
  match Text.cutFirst '=' piece with
  | some (key, values) =>
    if key.isEmpty then .error (.malformed (.attributeForm piece)) else .ok (key, Text.split ',' values)
  | none => .error (.malformed (.attributeForm piece))

/-- Reads the parts of a query into the constraints read before. -/
def readPieces : List String → Attributes → Except Fault Attributes
  | [], m => .ok m
  | piece :: pieces, m =>
    match readPiece piece with
    | .ok (key, values) => readPieces pieces (m.put key values)
    | .error e => .error e

/-- Reads a query, after one question mark at its start if there is one. -/
def parse (query : String) : Except Fault Attributes :=
  readPieces (Text.split '&' (Text.dropOne '?' query)) ∅

/-- The texts of a list, if it holds nothing else. -/
def texts? : List Item → Option (List String)
  | [] => some []
  | .text s :: items => (texts? items).map (s :: ·)
  | _ => none

/-- The values given for a key. -/
def readValues (key : Item) (value : Item) : Except Fault (List String) :=
  let texts := match value with
    | .text s => some (Text.split ',' s)
    | .list items | .tuple items | .set items => texts? items
    | _ => none
  match texts with
  | some [] => .error (.invalidAttribute (.noValue key))
  | some (v :: vs) => .ok (v :: vs)
  | none => .error (.invalidAttribute (.valueKind key value))

/-- Reads the pairs of a map into the constraints read before. -/
def readPairs : List (Item × Item) → Attributes → Except Fault Attributes
  | [], m => .ok m
  | (key, value) :: ps, m =>
    match readValues key value with
    | .ok values => readPairs ps (m.put key.plain values)
    | .error e => .error e

/-- Constraints without any key are no constraints. -/
def nonEmpty (m : Attributes) : Option Attributes := if m.isEmpty then none else some m

/-- Reads constraints from an argument of any shape: nothing, a query or a map. -/
def ofItem : Item → Except Fault (Option Attributes)
  | .null => .ok none
  | .text query => if (Text.dropAll '?' query).isEmpty then .ok none else (parse query).map some
  | .map ps => (readPairs ps ∅).map nonEmpty
  | _ => .error (.malformed .attributesKind)

/-- Constraints as an argument: nothing, or a map from keys to tuples of values. -/
def toItem : Option Attributes → Item
  | none => .null
  | some m => .map (m.entries.map fun e => (.text e.1, .tuple (e.2.map .text)))

/-- Refuses constraints with a key that has no value. -/
def check (m : Attributes) : Except Fault (Option Attributes) :=
  match m.entries.find? fun e => e.2.isEmpty with
  | some e => .error (.invalidAttribute (.noValue (.text e.1)))
  | none => .ok (nonEmpty m)

/-! ### Coverage -/

/-- The value that passes for a key whatever is allowed. -/
def wildcard : String := "*"

/-- Whether the values requested for a key pass. -/
def valuesPass (allowed requested : List String) : Bool :=
  !requested.isEmpty && (requested.contains wildcard || requested.all allowed.contains)

/-- Whether the constraints cover the requested ones. -/
def cover (own requested : Option Attributes) : Bool :=
  match own, requested with
  | none, _ => true
  | some _, none => false
  | some own, some requested =>
    !requested.isEmpty && own.entries.all fun e =>
      match requested.get? e.1 with
      | some values => valuesPass e.2 values
      | none => false

/-- Whether the values in an argument of any shape pass for a key. -/
def itemPasses (allowed : List String) (requested : Item) : Except Fault Bool :=
  if !requested.isTrue then .ok false
  else match requested, requested.elements? with
    | .bytes _, _ | _, none => .error .wrongType
    | _, some values => .ok (values.any (Value.same (.text wildcard)) ||
        values.all fun v => match v with
          | .text s => allowed.contains s
          | _ => false)

/-- Whether the constraints cover those in a map of any shape. -/
def coverItem (own : Option Attributes) (requested : Item) : Except Fault Bool :=
  match own with
  | none => .ok true
  | some own =>
    if !requested.isTrue then .ok false
    else match requested with
      | .map ps => own.entries.allM fun e =>
        match Value.lookup? e.1 ps with
        | some values => itemPasses e.2 values
        | none => .ok false
      | _ => .error .noSuchOperation

end PathAccess.Attributes
