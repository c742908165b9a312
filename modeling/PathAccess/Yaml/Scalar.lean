import PathAccess.Text.CodeText
import PathAccess.Yaml.Cursor

/-!
# Written scalars

The three ways to write a text in YAML: plain, between quotation marks, and as a block of indented lines.  Each
function starts at the first character of the scalar and gives the text with the place after it.  Single line breaks
inside plain and quoted texts, and inside folded blocks, count as spaces.  Between double quotes a character may be
written by its code, which need not be the code of a character.
-/

namespace PathAccess.Yaml

/-- A single break folds into a space, further breaks stay. -/
def folded (first : Char) (further : List Char) : List Char :=
  (if first ≠ '\n' then [first] else if further.isEmpty then [' '] else []) ++ further

/-! ### Plain scalars -/

/-- Whether a colon before this character ends a key. -/
def endsKey (inFlow : Bool) (after : Option Char) : Bool :=
  isGapOrEnd after || (inFlow && after.any fun c => ",[]\x7b\x7d".toList.contains c)

/-- The part of a plain scalar up to the next gap or indicator. -/
def plainPart (inFlow : Bool) : List Char → List Char
  | [] => []
  | c :: s =>
    if isGapOrEnd (some c) || (c = ':' && endsKey inFlow s.head?) || (inFlow && ",?[]\x7b\x7d".toList.contains c)
    then [] else c :: plainPart inFlow s

/-- What stands between two parts of a plain scalar: nothing if the scalar ends there. -/
structure Gap where
  text : List Char
  /-- Whether a line ended in the gap. -/
  broke : Bool
  after : Cursor

/-- Further breaks and the spaces between them; nothing if a mark between documents stands after one. -/
def plainBreaks : Nat → Cursor → List Char → Option (List Char) × Cursor
  | 0, c, breaks => (some breaks, c)
  | fuel + 1, c, breaks =>
    match c.lineBreak with
    | some (b, c) => if c.atDocumentMark then (none, c) else plainBreaks fuel c (breaks ++ [b])
    | none => if c.head = some ' ' then plainBreaks fuel c.next breaks else (some breaks, c)

def plainGap (c : Cursor) : Gap :=
  let (spaces, c) := c.takeRun (· = ' ')
  match c.lineBreak with
  | none => ⟨spaces, false, c⟩
  | some (b, c) =>
    if c.atDocumentMark then ⟨[], true, c⟩
    else match plainBreaks c.rest.length c [] with
      | (some breaks, c) => ⟨folded b breaks, true, c⟩
      | (none, c) => ⟨[], true, c⟩

/-- Reads the parts of a plain scalar, indented by at least `indent` outside of brackets, into what was read before.
The Boolean says whether a line ended after the last part. -/
def plainParts (inFlow : Bool) (indent : Int) : Nat → Cursor → List Char → Bool → List Char × Bool × Cursor
  | 0, c, text, broke => (text, broke, c)
  | fuel + 1, c, text, broke =>
    let part := plainPart inFlow c.rest
    if c.head = some '#' || part.isEmpty then (text, broke, c)
    else
      let gap := plainGap (c.forward part.length)
      let text := text ++ part
      if gap.text.isEmpty || gap.after.head = some '#' || (!inFlow && gap.after.column < indent) then
        (text, gap.broke, gap.after)
      else
        let next := plainPart inFlow gap.after.rest
        plainParts inFlow indent fuel gap.after (if next.isEmpty then text else text ++ gap.text) gap.broke

def plainScalar (inFlow : Bool) (indent : Int) (c : Cursor) : List Char × Bool × Cursor :=
  plainParts inFlow indent (c.rest.length + 1) c [] false

/-! ### Quoted scalars -/

/-- The character that a backslash with a letter stands for. -/
def escaped? : Char → Option Char
  | '0' => some '\x00'
  | 'a' => some '\x07'
  | 'b' => some '\x08'
  | 't' | '\t' => some '\t'
  | 'n' => some '\n'
  | 'v' => some '\x0b'
  | 'f' => some '\x0c'
  | 'r' => some '\r'
  | 'e' => some '\x1b'
  | ' ' => some ' '
  | '"' => some '"'
  | '\\' => some '\\'
  | '/' => some '/'
  | 'N' => some '\x85'
  | '_' => some '\xa0'
  | 'L' => some '\u2028'
  | 'P' => some '\u2029'
  | _ => none

/-- The number of hexadecimal digits that follow a backslash with this letter. -/
def codeWidth? : Char → Option Nat
  | 'x' => some 2
  | 'u' => some 4
  | 'U' => some 8
  | _ => none

def hexValue? (c : Char) : Option Nat :=
  if c.isDigit then some (c.toNat - 48)
  else if 'a' ≤ c && c ≤ 'f' then some (c.toNat - 87)
  else if 'A' ≤ c && c ≤ 'F' then some (c.toNat - 55)
  else none

/-- The number that hexadecimal digits write. -/
def hexNumber? (s : List Char) : Option Nat := s.foldlM (fun n c => (hexValue? c).map (n * 16 + ·)) 0

/-- The code that `width` digits write. -/
def writtenCode (width : Nat) (c : Cursor) : Except Trouble (Nat × Cursor) :=
  let digits := c.rest.take width
  match if digits.length = width then hexNumber? digits else none with
  | none => .error .unreadable
  | some n =>
    if 0x7fffffff < n then .error .overflow
    else if 0x10ffff < n then .error .invalidNumber
    else .ok (n, c.forward width)

/-- The breaks between two lines of a quoted scalar. -/
def quotedBreaks : Nat → Cursor → List Char → Except Trouble (List Char × Cursor)
  | 0, c, breaks => .ok (breaks, c)
  | fuel + 1, c, breaks =>
    if c.atDocumentMark then .error .unreadable
    else
      let c := c.skip fun x => x = ' ' || x = '\t'
      match c.lineBreak with
      | some (b, c) => quotedBreaks fuel c (breaks ++ [b])
      | none => .ok (breaks, c)

/-- What a gap inside a quoted scalar stands for. -/
def quotedGap (c : Cursor) : Except Trouble (List Char × Cursor) :=
  let (spaces, c) := c.takeRun fun x => x = ' ' || x = '\t'
  match c.lineBreak with
  | some (b, c) => do
    let (breaks, c) ← quotedBreaks (c.rest.length + 1) c []
    return (folded b breaks, c)
  | none => if c.rest.isEmpty then .error .unreadable else .ok (spaces, c)

/-- The codes that a backslash between double quotes stands for, from the character after it. -/
def escape (c : Cursor) : Except Trouble (List Nat × Cursor) :=
  match c.head with
  | none => .error .unreadable
  | some x =>
    match escaped? x, codeWidth? x, c.lineBreak with
    | some e, _, _ => .ok ([e.toNat], c.next)
    | none, some width, _ => do
      let (n, c) ← writtenCode width c.next
      return ([n], c)
    | none, none, some (_, c) => do
      let (breaks, c) ← quotedBreaks (c.rest.length + 1) c []
      return (breaks.map Char.toNat, c)
    | none, none, none => .error .unreadable

/-- Reads a quoted scalar from the character after the mark on, up to and including the closing mark, given the codes
so far, the last one first. -/
def quotedRest (mark : Char) : Nat → Cursor → List Nat → Except Trouble (CodeText × Cursor)
  | 0, _, _ => .error .unreadable
  | fuel + 1, c, codes =>
    match c.head with
    | none => .error .unreadable
    | some x =>
      if x = mark then
        if mark = '\'' && c.peek 1 = some '\'' then quotedRest mark fuel (c.forward 2) ('\''.toNat :: codes)
        else .ok (⟨codes.reverse⟩, c.next)
      else if x = '\\' && mark = '"' then do
        let (part, c) ← escape c.next
        quotedRest mark fuel c (part.reverse ++ codes)
      else if isGapOrEnd (some x) then do
        let (part, c) ← quotedGap c
        quotedRest mark fuel c ((part.map Char.toNat).reverse ++ codes)
      else quotedRest mark fuel c.next (x.toNat :: codes)

def quotedScalar (mark : Char) (c : Cursor) : Except Trouble (CodeText × Cursor) :=
  quotedRest mark (c.rest.length + 1) c.next []

/-! ### Block scalars -/

/-- What becomes of the breaks at the end of a block. -/
inductive Chomping where
  /-- One break stays. -/
  | clip
  | strip
  | keep
  deriving DecidableEq

/-- The chomping and the indentation that the head of a block states. -/
structure BlockHead where
  chomping : Chomping
  indentation : Option Nat

def chomping? : Option Char → Option Chomping
  | some '+' => some .keep
  | some '-' => some .strip
  | _ => none

/-- Reads a stated indentation. -/
def statedIndent (c : Cursor) : Except Trouble (Option Nat × Cursor) :=
  match c.head with
  | some x =>
    if x = '0' then .error .unreadable
    else if x.isDigit then .ok (some (x.toNat - 48), c.next)
    else .ok (none, c)
  | none => .ok (none, c)

/-- Reads the head of a block up to the end of its line. -/
def blockHead (c : Cursor) : Except Trouble (BlockHead × Cursor) := do
  let (chomping, indentation, c) ← match chomping? c.head with
    | some chomping => do
      let (n, c) ← statedIndent c.next
      pure (chomping, n, c)
    | none => do
      let (n, c) ← statedIndent c
      match n, chomping? c.head with
      | some _, some chomping => pure (chomping, n, c.next)
      | _, _ => pure (Chomping.clip, n, c)
  if !isSpaceOrEnd c.head then throw .unreadable
  return (⟨chomping, indentation⟩, ← c.endOfLine)

/-- The empty lines at the start of a block, and the widest indentation among them and the first line. -/
def leadingLines : Nat → Cursor → List Char → Nat → List Char × Nat × Cursor
  | 0, c, breaks, widest => (breaks, widest, c)
  | fuel + 1, c, breaks, widest =>
    match c.lineBreak with
    | some (b, c) => leadingLines fuel c (breaks ++ [b]) widest
    | none =>
      if c.head = some ' ' then leadingLines fuel c.next breaks (max widest c.next.column)
      else (breaks, widest, c)

/-- The place after at most the spaces of an indentation. -/
def skipIndent (indent : Nat) : Nat → Cursor → Cursor
  | 0, c => c
  | fuel + 1, c => if c.column < indent && c.head = some ' ' then skipIndent indent fuel c.next else c

/-- The empty lines between two lines of a block. -/
def emptyLines (indent : Nat) : Nat → Cursor → List Char → List Char × Cursor
  | 0, c, breaks => (breaks, c)
  | fuel + 1, c, breaks =>
    let c := skipIndent indent indent c
    match c.lineBreak with
    | some (b, c) => emptyLines indent fuel c (breaks ++ [b])
    | none => (breaks, c)

/-- Whether a line of a block starts without further indentation. -/
def startsPlain (c : Cursor) : Bool := c.head ≠ some ' ' && c.head ≠ some '\t'

/-- The lines of a block: the text, the last line break, the empty lines after it and the place after them. -/
def blockLines (isFolded : Bool) (indent : Nat) :
    Nat → Cursor → List Char → List Char → List Char → List Char × List Char × List Char × Cursor
  | 0, c, text, last, breaks => (text, last, breaks, c)
  | fuel + 1, c, text, last, breaks =>
    if c.column ≠ indent || c.rest.isEmpty then (text, last, breaks, c)
    else
      let plain := startsPlain c
      let (line, after) := c.takeRun fun x => !isBreak x
      let text := text ++ breaks ++ line
      let (last, after) := match after.lineBreak with
        | some (b, after) => ([b], after)
        | none => ([], after)
      let (breaks, after) := emptyLines indent (after.rest.length + 1) after []
      if after.column = indent && !after.rest.isEmpty then
        let joint := if isFolded && last = ['\n'] && plain && startsPlain after
          then (if breaks.isEmpty then [' '] else []) else last
        blockLines isFolded indent fuel after (text ++ joint) last breaks
      else (text, last, breaks, after)

/-- Reads a block scalar inside a collection indented by `indent`. -/
def blockScalar (isFolded : Bool) (indent : Int) (c : Cursor) : Except Trouble (List Char × Cursor) := do
  let (head, c) ← blockHead c.next
  let least := (max (indent + 1) 1).toNat
  let (breaks, width, c) := match head.indentation with
    | some n =>
      let width := least + n - 1
      let (breaks, c) := emptyLines width (c.rest.length + 1) c []
      (breaks, width, c)
    | none =>
      let (breaks, widest, c) := leadingLines (c.rest.length + 1) c [] 0
      (breaks, max least widest, c)
  let (text, last, breaks, c) := blockLines isFolded width (c.rest.length + 1) c [] [] breaks
  return (match head.chomping with
    | .strip => text
    | .clip => text ++ last
    | .keep => text ++ last ++ breaks, c)

end PathAccess.Yaml
