import PathAccess.Decimal.Reading
import PathAccess.Value.Basic
import PathAccess.Yaml.Calendar
import PathAccess.Yaml.Node

/-!
# Contents of scalars

The value that a scalar stands for, given its tag and its text: whole numbers in four bases or in sixtieths, numbers
with a fraction, truth values, base 64, points in time.  A number may have digits of any script and blanks around it.
-/

namespace PathAccess.Yaml

variable {ω : Type}

/-! ### Numbers -/

/-- Whether a character may stand around a number: a blank, but no information separator. -/
def isNumberBlank (c : Char) : Bool :=
  if c.toNat < 128 then c = ' ' || ('\t' ≤ c && c ≤ '\r') else Text.isBlank c

/-- The value of a digit in a base of up to sixteen. -/
def digitIn? (base : Nat) (c : Char) : Option Nat :=
  match (Text.digitValue? c).or (hexValue? c) with
  | some d => if d < base then some d else none
  | none => none

/-- The number that digits write in a base. -/
def digitsIn? (base : Nat) (s : List Char) : Option Nat :=
  if s.isEmpty || (base = 10 && Decimal.maxDigits < s.length) then none
  else s.foldlM (fun n c => (digitIn? base c).map (n * base + ·)) 0

/-- The letter that may mark a base after a zero. -/
def baseMark (base : Nat) : Option Char :=
  if base = 2 then some 'b' else if base = 8 then some 'o' else if base = 16 then some 'x' else none

/-- The number that a text writes in a base, with blanks, a sign and a mark of the base. -/
def numberIn (base : Nat) (s : List Char) : Except Trouble Int :=
  let s := Text.trimBy isNumberBlank s
  let digits := match unsigned s with
    | '0' :: m :: r => if baseMark base = some m.toLower then r else '0' :: m :: r
    | r => r
  match digitsIn? base digits with
  | some n => .ok (if s.head? = some '-' then -n else n)
  | none => .error .invalidNumber

/-- The whole number that a text writes. -/
def wholeContent (text : List Char) : Except Trouble Int := do
  let s := text.filter (· ≠ '_')
  if s.isEmpty then throw .emptyNumber
  let n ← match unsigned s with
    | [] => throw .emptyNumber
    | ['0'] => pure 0
    | '0' :: 'b' :: r => numberIn 2 r
    | '0' :: 'x' :: r => numberIn 16 r
    | '0' :: r => numberIn 8 ('0' :: r)
    | r =>
      if r.contains ':' then do
        let parts ← (r.splitOn ':').mapM (numberIn 10)
        pure (parts.foldl (fun total part => total * 60 + part) 0)
      else numberIn 10 r
  return if s.head? = some '-' then -n else n

/-- The number that a text without underscores writes in decimal, in any mixture of scripts. -/
def decimalContent (s : List Char) : Except Trouble Float :=
  let ascii (c : Char) : Char := match Text.digitValue? c with
    | some d => Nat.digitChar d
    | none => c
  match Decimal.float? ((Text.trimBy isNumberBlank s).map ascii) with
  | some x => .ok x
  | none => .error .invalidNumber

/-- The sum of parts that are sixtieths of each other, the last part first.  A power of sixty that is no finite double
is out of range. -/
def sixtieths : List Float → Nat → Float → Except Trouble Float
  | [], _, total => .ok total
  | part :: parts, power, total =>
    if Nat.pow 2 1024 ≤ power then .error .overflow
    else sixtieths parts (power * 60) (total + part * Decimal.toFloat power 0)

/-- Whether a text writes the undefined number in the way that always means the same one. -/
def isUndefined (text : List Char) : Bool :=
  unsigned ((text.filter (· ≠ '_')).map Char.toLower) = ".nan".toList

/-- The number with a fraction that a text writes. -/
def fractionContent (text : List Char) : Except Trouble Float := do
  let s := (text.filter (· ≠ '_')).map Char.toLower
  if s.isEmpty then throw .emptyNumber
  let r := unsigned s
  let x ←
    if r = ".inf".toList then pure (1.0 / 0.0)
    else if r = ".nan".toList then pure (0.0 / 0.0)
    else if r.contains ':' then do
      let parts ← (r.splitOn ':').mapM decimalContent
      sixtieths parts.reverse 1 0.0
    else decimalContent r
  return if s.head? = some '-' then -x else x

/-! ### Words and bytes -/

/-- The truth value of a word in any case. -/
def truthContent (text : List Char) : Except Trouble Bool :=
  let word := String.ofList (text.map Char.toLower)
  if trueWords.contains word then .ok true
  else if falseWords.contains word then .ok false
  else .error .unknownWord

/-- The six bits that a character of base 64 stands for. -/
def sextet? (c : Char) : Option Nat :=
  if 'A' ≤ c && c ≤ 'Z' then some (c.toNat - 65)
  else if 'a' ≤ c && c ≤ 'z' then some (c.toNat - 71)
  else if c.isDigit then some (c.toNat + 4)
  else if c = '+' then some 62
  else if c = '/' then some 63
  else none

/-- The bytes of a group of sextets. -/
def groupBytes : List Nat → List UInt8
  | [a, b] => [UInt8.ofNat (a * 4 + b / 16)]
  | [a, b, c] => [UInt8.ofNat (a * 4 + b / 16), UInt8.ofNat (b * 16 + c / 4)]
  | [a, b, c, d] => [UInt8.ofNat (a * 4 + b / 16), UInt8.ofNat (b * 16 + c / 4), UInt8.ofNat (c * 64 + d)]
  | _ => []

/-- Reads base 64, given the sextets of the open group and the padding after them.  Other characters do not count,
and nothing counts after the padding that completes a group. -/
def base64 : List Char → List Nat → Nat → List UInt8 → Except Trouble (List UInt8)
  | [], group, _, bytes => if group.isEmpty then .ok bytes else .error .unreadable
  | c :: s, group, padding, bytes =>
    if c = '=' then
      if 2 ≤ group.length && 4 ≤ group.length + padding + 1 then .ok (bytes ++ groupBytes group)
      else base64 s group (if 2 ≤ group.length then padding + 1 else padding) bytes
    else match sextet? c with
      | none => base64 s group padding bytes
      | some n =>
        if group.length = 3 then base64 s [] 0 (bytes ++ groupBytes (group ++ [n]))
        else base64 s (group ++ [n]) 0 bytes

/-! ### All together -/

/-- The moment that a text writes; a line feed at its end does not count. -/
def momentContent (text : List Char) : Except Trouble Moment :=
  match timestamp? (withoutFinalBreak text) with
  | none => .error .notAMoment
  | some t =>
    match t.moment? with
    | some m => .ok m
    | none => .error .invalidNumber

/-- The value of a scalar. -/
def scalarContent (tag : Tag) (text : CodeText) : Except Trouble (Value ω) :=
  match tag with
  | .null => .ok .null
  | .bool => (truthContent text.chars).map .bool
  | .int => (wholeContent text.chars).map .int
  | .float => (fractionContent text.chars).map .float
  | .timestamp => (momentContent text.chars).map .moment
  | .text => .ok (.ofCodes text)
  | .binary =>
    if text.codes.all (· < 128) then (base64 text.chars [] 0 []).map .bytes else .error .unreadable
  | _ => .error .unreadable

end PathAccess.Yaml
