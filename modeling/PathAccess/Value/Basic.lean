import PathAccess.Decimal.Binary
import PathAccess.Text.CodeText
import PathAccess.Value.Moment

/-!
# Untyped values

The values that reach the library before their shape is known: the contents of a configuration document, and the
arguments of an operation that says itself what it accepts.  Leaves of a type `ω` are the library's own objects.

Two values may stand for the same key of a map although they are written differently: numbers are compared by value,
and a truth value counts as one or zero (`same`).  The items of a list and of a tuple are compared in order, the pairs
of a map in any order.
-/

namespace PathAccess

/-- A value of unknown shape, with objects of type `ω` among its leaves. -/
inductive Value (ω : Type) where
  | null
  | bool (b : Bool)
  | int (n : Int)
  | float (x : Float)
  | text (s : String)
  /-- A text with code points that have no character. -/
  | codes (t : CodeText)
  | bytes (bs : List UInt8)
  /-- A calendar date or a point in time. -/
  | moment (m : Moment)
  | list (items : List (Value ω))
  | tuple (items : List (Value ω))
  | set (items : List (Value ω))
  /-- Pairs of key and value with pairwise different keys. -/
  | map (pairs : List (Value ω × Value ω))
  | object (o : ω)

namespace Value

variable {ω : Type}

instance : Inhabited (Value ω) := ⟨null⟩

/-- The value of a text given by its code points. -/
def ofCodes (t : CodeText) : Value ω := if t.isSpelled then text t.text else codes t

@[simp] theorem ofCodes_ofString (s : String) : (ofCodes (.ofString s) : Value ω) = text s := by
  simp [ofCodes]

/-- A value as a number, truth values included. -/
inductive Numeric where
  | whole (n : Int)
  | fractional (x : Float)

def Numeric.same : Numeric → Numeric → Bool
  | whole m, whole n => m = n
  | fractional x, fractional y => x == y
  | whole m, fractional y => Decimal.wholeNumber? y = some m
  | fractional x, whole n => Decimal.wholeNumber? x = some n

def numeric? : Value ω → Option Numeric
  | bool b => some (.whole (if b then 1 else 0))
  | int n => some (.whole n)
  | float x => some (.fractional x)
  | _ => none

/-- What the objects among the leaves have to offer. -/
class Leaf (ω : Type) where
  /-- Whether two objects are equal. -/
  same : ω → ω → Bool
  /-- Whether an object counts as present when it stands for an optional value. -/
  isTrue : ω → Bool
  /-- The object as a message quotes it. -/
  quoted : ω → String
  /-- The object as plain text. -/
  plain : ω → String

variable [Leaf ω]

mutual

/-- Whether two values are equal. -/
def same : Value ω → Value ω → Bool
  | null, w => match w with
    | null => true
    | _ => false
  | bool b, w => match w.numeric? with
    | some n => Numeric.same (.whole (if b then 1 else 0)) n
    | none => false
  | int m, w => match w.numeric? with
    | some n => Numeric.same (.whole m) n
    | none => false
  | float x, w => match w.numeric? with
    | some n => Numeric.same (.fractional x) n
    | none => false
  | text s, w => match w with
    | text t => s = t
    | _ => false
  | codes s, w => match w with
    | codes t => s = t
    | _ => false
  | bytes s, w => match w with
    | bytes t => s = t
    | _ => false
  | moment m, w => match w with
    | moment n => m.same n
    | _ => false
  | list vs, w => match w with
    | list ws => sameItems vs ws
    | _ => false
  | tuple vs, w => match w with
    | tuple ws => sameItems vs ws
    | _ => false
  | set vs, w => match w with
    | set ws => vs.length = ws.length && includedItems vs ws
    | _ => false
  | map ps, w => match w with
    | map qs => ps.length = qs.length && includedPairs ps qs
    | _ => false
  | object o, w => match w with
    | object p => Leaf.same o p
    | _ => false

/-- Whether two lists hold equal values in the same order. -/
def sameItems : List (Value ω) → List (Value ω) → Bool
  | [], [] => true
  | v :: vs, w :: ws => same v w && sameItems vs ws
  | _, _ => false

/-- Whether every value of the first list is in the second. -/
def includedItems : List (Value ω) → List (Value ω) → Bool
  | [], _ => true
  | v :: vs, ws => ws.any (same v) && includedItems vs ws

/-- Whether every pair of the first list is in the second. -/
def includedPairs : List (Value ω × Value ω) → List (Value ω × Value ω) → Bool
  | [], _ => true
  | p :: ps, qs => includedPair p qs && includedPairs ps qs

/-- Whether a pair is in the list. -/
def includedPair : Value ω × Value ω → List (Value ω × Value ω) → Bool
  | (k, v), qs => qs.any fun q => same k q.1 && same v q.2

end

/-- Whether a value counts as present when it stands for an optional one. -/
def isTrue : Value ω → Bool
  | null => false
  | bool b => b
  | int n => n != 0
  | float x => x != 0.0
  | text s => !s.isEmpty
  | codes t => !t.isEmpty
  | bytes bs => !bs.isEmpty
  | moment _ => true
  | list vs | tuple vs | set vs => !vs.isEmpty
  | map ps => !ps.isEmpty
  | object o => Leaf.isTrue o

/-- Writes a pair into the pairs of a map: an equal key keeps its place and gets the new value. -/
def writePair (k v : Value ω) : List (Value ω × Value ω) → List (Value ω × Value ω)
  | [] => [(k, v)]
  | p :: ps => if same p.1 k then (p.1, v) :: ps else p :: writePair k v ps

/-- The pairs of a map that results from writing them one after the other. -/
def distinctPairs (ps : List (Value ω × Value ω)) : List (Value ω × Value ω) :=
  ps.foldl (fun qs p => writePair p.1 p.2 qs) []

/-- The map that results from writing the pairs one after the other. -/
def ofPairs (ps : List (Value ω × Value ω)) : Value ω := map (distinctPairs ps)

/-- The value at a text key of a map's pairs. -/
def lookup? (key : String) : List (Value ω × Value ω) → Option (Value ω)
  | [] => none
  | (text k, v) :: ps => if k = key then some v else lookup? key ps
  | _ :: ps => lookup? key ps

end Value

end PathAccess
