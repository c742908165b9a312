import PathAccess.Decimal.Reading
import PathAccess.Yaml.Scalar

/-!
# Tokens of a YAML text

The tokens of a text in the order in which they count: a key of a mapping is announced by a token before it, and
collections that are written by indentation have tokens at their start and end.  Whether a node is a key is only
known at the colon after it, so the places where a key may have started are remembered, one for each level of
brackets, and the tokens that announce a key are put in when the colon comes.

A text that cannot be cut into tokens gives a last token with the reason.  While a place may still turn out to start
a key, the token there is not settled, so the reason stands in the place of the first token that was not settled when
it was found.
-/

namespace PathAccess.Yaml

inductive Token where
  /-- The version that the document asks for, by its major number. -/
  | version (major : Nat)
  /-- An abbreviation for the start of tags. -/
  | tagHandle (handle start : String)
  | otherDirective
  | documentStart
  | documentEnd
  | sequenceStart
  | mappingStart
  | blockEnd
  | flowSequenceStart
  | flowSequenceEnd
  | flowMappingStart
  | flowMappingEnd
  | blockEntry
  | flowEntry
  | key
  | value
  | reference (name : String)
  | anchor (name : String)
  /-- A tag: the handle, if there is one, and the rest. -/
  | tag (handle : Option String) (rest : String)
  | scalar (text : CodeText) (isPlain : Bool)
  /-- The place where the text stops making sense. -/
  | trouble (reason : Trouble)
  deriving DecidableEq

/-- A place where a key may have started. -/
structure Candidate where
  /-- The number of tokens before it. -/
  position : Nat
  /-- Whether nothing but a key can stand there. -/
  isNeeded : Bool
  index : Nat
  line : Nat
  column : Nat

/-- The tokens found so far, and what decides about the next ones. -/
structure Lexer where
  cursor : Cursor
  /-- How many brackets are open. -/
  level : Nat := 0
  /-- The column of the innermost open collection that is written by indentation. -/
  indent : Int := -1
  outer : List Int := []
  mayStartKey : Bool := true
  /-- For some levels of brackets a place where a key may have started. -/
  candidates : List (Nat × Candidate) := []
  /-- The tokens, the last one first. -/
  found : List Token := []

namespace Lexer

def emit (l : Lexer) (t : Token) : Lexer := { l with found := t :: l.found }

def forward (l : Lexer) (n : Nat) : Lexer := { l with cursor := l.cursor.forward n }

/-- Puts a token `n` places before the end of the tokens found. -/
def insertBefore (t : Token) : Nat → List Token → List Token
  | 0, ts => t :: ts
  | _ + 1, [] => [t]
  | n + 1, u :: ts => u :: insertBefore t n ts

/-- Puts a token at a position. -/
def insertAt (l : Lexer) (t : Token) (position : Nat) : Lexer :=
  { l with found := insertBefore t (l.found.length - position) l.found }

def candidate? (l : Lexer) : Option Candidate := (l.candidates.find? (·.1 = l.level)).map Prod.snd

def withoutCandidate (l : Lexer) : Lexer :=
  { l with candidates := l.candidates.filter (·.1 ≠ l.level) }

/-- Gives up the candidate of this level. -/
def dropCandidate (l : Lexer) : Except Trouble Lexer :=
  match l.candidate? with
  | some k => if k.isNeeded then .error .unreadable else .ok l.withoutCandidate
  | none => .ok l

/-- Remembers this place as a candidate, where a key may start. -/
def saveCandidate (l : Lexer) : Except Trouble Lexer :=
  if l.mayStartKey then do
    let needed := l.level = 0 && l.indent = l.cursor.column
    let l ← l.dropCandidate
    return { l with candidates :=
      (l.level, ⟨l.found.length, needed, l.cursor.index, l.cursor.line, l.cursor.column⟩) :: l.candidates }
  else .ok l

/-- The longest distance from the start of a key to its colon. -/
def maxKeyLength : Nat := 1024

/-- Whether a candidate is on another line or too far away to be a key. -/
def isStale (l : Lexer) (k : Candidate) : Bool :=
  k.line ≠ l.cursor.line || maxKeyLength < l.cursor.index - k.index

/-- Gives up the candidates that can no longer be keys. -/
def dropStale (l : Lexer) : Except Trouble Lexer :=
  if l.candidates.any fun e => l.isStale e.2 && e.2.isNeeded then .error .unreadable
  else .ok { l with candidates := l.candidates.filter fun e => !l.isStale e.2 }

/-- The number of tokens before the first candidate; all tokens if there is none. -/
def settled (l : Lexer) : Nat :=
  ((l.candidates.filter fun e => !l.isStale e.2).map fun e => e.2.position).foldl min l.found.length

/-- Ends the collections that are indented more than a column. -/
def unwind (column : Int) : Nat → Lexer → Lexer
  | 0, l => l
  | fuel + 1, l =>
    if l.level = 0 && column < l.indent then
      unwind column fuel { l with
        indent := l.outer.headD (-1), outer := l.outer.drop 1, found := .blockEnd :: l.found }
    else l

def unwindTo (l : Lexer) (column : Int) : Lexer := unwind column (l.outer.length + 1) l

/-- Opens a collection at a column, unless one is open there. -/
def indentTo (l : Lexer) (column : Nat) : Bool × Lexer :=
  if l.indent < column then (true, { l with indent := column, outer := l.indent :: l.outer }) else (false, l)

/-- Opens a collection with a token at the place of the cursor, unless one is open there. -/
def openHere (l : Lexer) (t : Token) : Lexer :=
  match l.indentTo l.cursor.column with
  | (true, l) => l.emit t
  | (false, l) => l

/-- The place of the next token: past spaces, comments and line breaks. -/
def skipToToken : Nat → Lexer → Lexer
  | 0, l => l
  | fuel + 1, l =>
    let c := (l.cursor.skip (· = ' ')).skipComment
    match c.lineBreak with
    | some (_, c) => skipToToken fuel { l with cursor := c, mayStartKey := l.mayStartKey || l.level = 0 }
    | none => { l with cursor := c }

/-! ### Directives, anchors and tags -/

/-- A number of a version. -/
def versionNumber (c : Cursor) : Except Trouble (Nat × Cursor) :=
  let (digits, c) := c.takeRun Char.isDigit
  if digits.isEmpty then .error .unreadable
  else if Decimal.maxDigits < digits.length then .error .invalidNumber
  else .ok (Decimal.asciiNumber digits, c)

/-- The start of a tag between exclamation marks. -/
def handle (c : Cursor) : Except Trouble (String × Cursor) :=
  if c.head ≠ some '!' then .error .unreadable
  else if c.peek 1 = some ' ' then .ok ("!", c.next)
  else
    let (name, after) := c.next.takeRun isWordChar
    if after.head = some '!' then .ok (String.ofList ('!' :: name ++ ['!']), after.next) else .error .unreadable

/-- The bytes that percent signs with two digits write. -/
def escapedBytes : Nat → Cursor → List UInt8 → Except Trouble (List UInt8 × Cursor)
  | 0, c, bytes => .ok (bytes, c)
  | fuel + 1, c, bytes =>
    if c.head = some '%' then
      let digits := c.next.rest.take 2
      match if digits.length = 2 then hexNumber? digits else none with
      | some n => escapedBytes fuel (c.forward 3) (bytes ++ [UInt8.ofNat n])
      | none => .error .unreadable
    else .ok (bytes, c)

/-- Characters of a tag. -/
def isUriChar (c : Char) : Bool := c.isAlphanum || "-;/?:@&=+$,_.!~*'()[]".toList.contains c

/-- Reads the rest of a tag. -/
def uriParts : Nat → Cursor → List Char → Except Trouble (List Char × Cursor)
  | 0, c, text => .ok (text, c)
  | fuel + 1, c, text =>
    match c.head with
    | some '%' => do
      let (bytes, c) ← escapedBytes c.rest.length c []
      match String.fromUTF8? ⟨bytes.toArray⟩ with
      | some s => uriParts fuel c (text ++ s.toList)
      | none => .error .unreadable
    | some x => if isUriChar x then uriParts fuel c.next (text ++ [x]) else .ok (text, c)
    | none => .ok (text, c)

def uri (c : Cursor) : Except Trouble (String × Cursor) := do
  let (text, after) ← uriParts (c.rest.length + 1) c []
  if after.index = c.index then throw .unreadable
  return (String.ofList text, after)

/-- The directive after a percent sign. -/
def directive (c : Cursor) : Except Trouble (Token × Cursor) := do
  let (name, c) := c.takeRun isWordChar
  if name.isEmpty || !isSpaceOrEnd c.head then throw .unreadable
  let (token, c) ←
    if name = "YAML".toList then do
      let (major, c) ← versionNumber (c.skip (· = ' '))
      if c.head ≠ some '.' then throw .unreadable
      let (_, c) ← versionNumber c.next
      if !isSpaceOrEnd c.head then throw .unreadable
      pure (Token.version major, c)
    else if name = "TAG".toList then do
      let (short, c) ← handle (c.skip (· = ' '))
      if c.head ≠ some ' ' then throw .unreadable
      let (start, c) ← uri (c.skip (· = ' '))
      if !isSpaceOrEnd c.head then throw .unreadable
      pure (Token.tagHandle short start, c)
    else pure (Token.otherDirective, c.skip fun x => !isBreak x)
  return (token, ← c.endOfLine)

/-- The name of an anchor or an alias, from the sign before it. -/
def anchorName (c : Cursor) : Except Trouble (String × Cursor) :=
  let (name, c) := c.next.takeRun isWordChar
  if name.isEmpty || !(isGapOrEnd c.head || c.head.any ("?:,]\x7d%@`".toList.contains ·)) then .error .unreadable
  else .ok (String.ofList name, c)

/-- A tag, from its exclamation mark. -/
def tagToken (c : Cursor) : Except Trouble (Token × Cursor) := do
  let (token, c) ←
    if c.peek 1 = some '<' then do
      let (rest, c) ← uri (c.forward 2)
      if c.head ≠ some '>' then throw .unreadable
      pure (Token.tag none rest, c.next)
    else if isGapOrEnd (c.peek 1) then pure (Token.tag none "!", c.next)
    else do
      let word := c.next.rest.takeWhile fun x => !isSpaceOrEnd (some x)
      if word.contains '!' then do
        let (short, c) ← handle c
        let (rest, c) ← uri c
        pure (Token.tag (some short) rest, c)
      else do
        let (rest, c) ← uri c.next
        pure (Token.tag (some "!") rest, c)
  if !isSpaceOrEnd c.head then throw .unreadable
  return (token, c)

/-! ### The next token -/

/-- Takes a directive or a mark between documents, which end every open collection. -/
def takeOuter (l : Lexer) (read : Cursor → Except Trouble (Token × Cursor)) : Except Trouble Lexer := do
  let l ← (l.unwindTo (-1)).dropCandidate
  let (t, c) ← read l.cursor
  return { l.emit t with cursor := c, mayStartKey := false }

/-- Takes a node that may be a key. -/
def takeNode (l : Lexer) (read : Cursor → Except Trouble (Token × Cursor)) : Except Trouble Lexer := do
  let l ← l.saveCandidate
  let (t, c) ← read l.cursor
  return { l.emit t with cursor := c, mayStartKey := false }

def takePlain (l : Lexer) : Except Trouble Lexer := do
  let l ← l.saveCandidate
  let (text, broke, c) := plainScalar (l.level ≠ 0) (l.indent + 1) l.cursor
  return { l.emit (.scalar (.ofChars text) true) with cursor := c, mayStartKey := broke }

def takeBlock (l : Lexer) (isFolded : Bool) : Except Trouble Lexer := do
  let l ← l.dropCandidate
  let (text, c) ← blockScalar isFolded l.indent l.cursor
  return { l.emit (.scalar (.ofChars text) false) with cursor := c, mayStartKey := true }

def takeFlowStart (l : Lexer) (t : Token) : Except Trouble Lexer := do
  let l ← l.saveCandidate
  return { (l.emit t).forward 1 with level := l.level + 1, mayStartKey := true }

def takeFlowEnd (l : Lexer) (t : Token) : Except Trouble Lexer := do
  let l ← l.dropCandidate
  if l.level = 0 then throw .unreadable
  return { (l.emit t).forward 1 with level := l.level - 1, mayStartKey := false }

def takeFlowEntry (l : Lexer) : Except Trouble Lexer := do
  let l ← l.dropCandidate
  return { (l.emit .flowEntry).forward 1 with mayStartKey := true }

def takeBlockEntry (l : Lexer) : Except Trouble Lexer := do
  if l.level = 0 && !l.mayStartKey then throw .unreadable
  let l := if l.level = 0 then l.openHere .sequenceStart else l
  let l ← l.dropCandidate
  return { (l.emit .blockEntry).forward 1 with mayStartKey := true }

def takeKey (l : Lexer) : Except Trouble Lexer := do
  if l.level = 0 && !l.mayStartKey then throw .unreadable
  let l := if l.level = 0 then l.openHere .mappingStart else l
  let l ← l.dropCandidate
  return { (l.emit .key).forward 1 with mayStartKey := l.level = 0 }

def takeValue (l : Lexer) : Except Trouble Lexer := do
  match l.candidate? with
  | some k =>
    let l := l.withoutCandidate.insertAt .key k.position
    let l := if l.level = 0 then
        match l.indentTo k.column with
        | (true, l) => l.insertAt .mappingStart k.position
        | (false, l) => l
      else l
    return { (l.emit .value).forward 1 with mayStartKey := false }
  | none =>
    if l.level = 0 && !l.mayStartKey then throw .unreadable
    let l := if l.level = 0 then l.openHere .mappingStart else l
    let l ← l.dropCandidate
    return { (l.emit .value).forward 1 with mayStartKey := l.level = 0 }

/-- Whether a plain scalar can start here. -/
def startsPlainScalar (l : Lexer) : Bool :=
  match l.cursor.head with
  | none => false
  | some c =>
    !(isGapOrEnd (some c) || "-?:,[]\x7b\x7d#&*!|>'\"%@`".toList.contains c) ||
      (!isGapOrEnd (l.cursor.peek 1) && (c = '-' || (l.level = 0 && (c = '?' || c = ':'))))

/-- Takes the token that starts with the character `x`. -/
def takeAt (l : Lexer) (x : Char) : Except Trouble Lexer :=
  let c := l.cursor
  let atGap := isGapOrEnd (c.peek 1)
  let inFlow := l.level ≠ 0
  let named (make : String → Token) (c : Cursor) : Except Trouble (Token × Cursor) :=
    (anchorName c).map fun r => (make r.1, r.2)
  let marked (t : Token) (c : Cursor) : Except Trouble (Token × Cursor) := .ok (t, c.forward 3)
  let quoted (c : Cursor) : Except Trouble (Token × Cursor) :=
    (quotedScalar x c).map fun r => (.scalar r.1 false, r.2)
  if x = '%' && c.column = 0 then l.takeOuter fun c => directive c.next
  else if x = '-' && c.column = 0 && c.atTriple '-' then l.takeOuter (marked .documentStart)
  else if x = '.' && c.column = 0 && c.atTriple '.' then l.takeOuter (marked .documentEnd)
  else if x = '[' then l.takeFlowStart .flowSequenceStart
  else if x = '\x7b' then l.takeFlowStart .flowMappingStart
  else if x = ']' then l.takeFlowEnd .flowSequenceEnd
  else if x = '\x7d' then l.takeFlowEnd .flowMappingEnd
  else if x = ',' then l.takeFlowEntry
  else if x = '-' && atGap then l.takeBlockEntry
  else if x = '?' && (inFlow || atGap) then l.takeKey
  else if x = ':' && (inFlow || atGap) then l.takeValue
  else if x = '*' then l.takeNode (named .reference)
  else if x = '&' then l.takeNode (named .anchor)
  else if x = '!' then l.takeNode tagToken
  else if (x = '|' || x = '>') && !inFlow then l.takeBlock (x = '>')
  else if x = '\'' || x = '"' then l.takeNode quoted
  else if l.startsPlainScalar then l.takePlain
  else .error .unreadable

/-- Takes the next token, or ends everything at the end of the text. -/
def take (l : Lexer) : Except Trouble Lexer := do
  let l ← (skipToToken (l.cursor.rest.length + 1) l).dropStale
  let l := l.unwindTo l.cursor.column
  match l.cursor.head with
  | some x => l.takeAt x
  | none => (l.unwindTo (-1)).dropCandidate

/-- Takes all tokens. -/
def run : Nat → Lexer → List Token
  | 0, l => l.found.reverse
  | fuel + 1, l =>
    match l.take with
    | .ok next => if next.cursor.rest.isEmpty && l.cursor.rest.isEmpty then next.found.reverse else run fuel next
    | .error reason => l.found.reverse.take l.settled ++ [.trouble reason]

end Lexer

/-- The tokens of a text.  A byte order mark at the start does not count. -/
def tokens (text : String) : List Token :=
  if !text.toList.all isAllowed then [.trouble .unreadable]
  else
    let start : Cursor := ⟨text.toList, 0, 0, 0⟩
    let start := if start.head = some '\ufeff' then start.next else start
    Lexer.run (start.rest.length + 2) { cursor := start }

end PathAccess.Yaml
