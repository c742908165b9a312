import PathAccess.Value.Basic
import PathAccess.Decimal.Shortest
import PathAccess.Text.Quoted
import PathAccess.Text.Pieces

/-!
# Values in messages

How a message shows an untyped value: `quoted` writes it so that texts are told from other values, `plain` writes a
text as it is.
-/

namespace PathAccess.Value

variable {ω : Type} [Leaf ω]

/-- Items between brackets, with commas between them. -/
def enclosed (left right : String) (items : List String) : String :=
  left ++ Text.join ", " items ++ right

/-- Items as a tuple; a single one is followed by a comma. -/
def enclosedTuple : List String → String
  | [item] => "(" ++ item ++ ",)"
  | items => enclosed "(" ")" items

mutual

/-- The value as a message quotes it. -/
def quoted : Value ω → String
  | null => "None"
  | bool b => if b then "True" else "False"
  | int n => toString n
  | float x => Decimal.shortestText x
  | text s => Text.quoted s
  | codes t => t.quoted
  | bytes bs => Text.quotedBytes bs
  | moment m => m.quoted
  | list vs => enclosed "[" "]" (quotedItems vs)
  | tuple vs => enclosedTuple (quotedItems vs)
  | set [] => "set()"
  | set (v :: vs) => enclosed "\x7b" "\x7d" (quoted v :: quotedItems vs)
  | map ps => enclosed "\x7b" "\x7d" (quotedPairs ps)
  | object o => Leaf.quoted o

def quotedItems : List (Value ω) → List String
  | [] => []
  | v :: vs => quoted v :: quotedItems vs

def quotedPairs : List (Value ω × Value ω) → List String
  | [] => []
  | p :: ps => quotedPair p :: quotedPairs ps

def quotedPair : Value ω × Value ω → String
  | (k, v) => quoted k ++ ": " ++ quoted v

end

/-- The value as plain text. -/
def plain : Value ω → String
  | text s => s
  | codes t => t.text
  | object o => Leaf.plain o
  | v => quoted v

end PathAccess.Value
