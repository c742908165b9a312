/-!
# A place in a YAML text

A cursor is what is left of a text together with the line and the column where it starts.  Five characters break
lines, and a carriage return with a line feed after it is one break; a byte order mark takes no column.
-/

namespace PathAccess.Yaml

/-- Why a text cannot be read. -/
inductive Trouble where
  /-- The text is not YAML, or not YAML that stands for a plain value. -/
  | unreadable
  /-- A number, a date or a character code that means nothing. -/
  | invalidNumber
  /-- A character code or a power of sixty out of every range. -/
  | overflow
  /-- A number without any character. -/
  | emptyNumber
  /-- A word tagged as a truth value that is none. -/
  | unknownWord
  /-- A text tagged as a point in time that is none. -/
  | notAMoment
  /-- A collection tagged as a point in time. -/
  | momentWithoutText
  /-- Collections nested too deeply, or a default value that is its own default. -/
  | bottomless
  deriving DecidableEq

/-- Whether a character may stand in a YAML text. -/
def isAllowed (c : Char) : Bool :=
  let n := c.toNat
  n = 0x9 || n = 0xa || n = 0xd || (0x20 ≤ n && n ≤ 0x7e) || n = 0x85 || (0xa0 ≤ n && n ≤ 0xfffd) ||
    0x10000 ≤ n

def isBreak (c : Char) : Bool := c = '\n' || c = '\r' || c = '\x85' || c = '\u2028' || c = '\u2029'

/-- Whether what is written before ends here, a tab not counting as a blank. -/
def isSpaceOrEnd (c : Option Char) : Bool := c.all fun c => c = ' ' || isBreak c

/-- Whether what is written before ends here. -/
def isGapOrEnd (c : Option Char) : Bool := c.all fun c => c = ' ' || c = '\t' || isBreak c

/-- Letters, digits, hyphen and underscore. -/
def isWordChar (c : Char) : Bool := c.isAlphanum || c = '-' || c = '_'

/-- What is left of a text and where it starts. -/
structure Cursor where
  rest : List Char
  index : Nat := 0
  line : Nat := 0
  column : Nat := 0

namespace Cursor

/-- The character `n` places ahead. -/
def peek (c : Cursor) (n : Nat) : Option Char := c.rest[n]?

/-- The next character. -/
def head (c : Cursor) : Option Char := c.rest.head?

/-- One character further. -/
def next (c : Cursor) : Cursor :=
  match c.rest with
  | [] => c
  | x :: r =>
    if isBreak x && !(x = '\r' && r.head? = some '\n') then ⟨r, c.index + 1, c.line + 1, 0⟩
    else ⟨r, c.index + 1, c.line, if x = '\ufeff' then c.column else c.column + 1⟩

/-- `n` characters further. -/
def forward (c : Cursor) : Nat → Cursor
  | 0 => c
  | n + 1 => c.next.forward n

/-- The run of characters of a class, and the place after it. -/
def takeRun (c : Cursor) (p : Char → Bool) : List Char × Cursor :=
  let run := c.rest.takeWhile p
  (run, c.forward run.length)

/-- The place after a run of characters of a class. -/
def skip (c : Cursor) (p : Char → Bool) : Cursor := (c.takeRun p).2

/-- The place after a comment, if one starts here. -/
def skipComment (c : Cursor) : Cursor := if c.head = some '#' then c.skip fun x => !isBreak x else c

/-- The line break that stands here, as a single character, and the place after it. -/
def lineBreak (c : Cursor) : Option (Char × Cursor) :=
  match c.rest with
  | '\r' :: '\n' :: _ => some ('\n', c.forward 2)
  | x :: _ =>
    if x = '\u2028' || x = '\u2029' then some (x, c.next)
    else if isBreak x then some ('\n', c.next)
    else none
  | [] => none

/-- Whether three characters `mark` stand here by themselves. -/
def atTriple (c : Cursor) (mark : Char) : Bool :=
  c.rest.take 3 = [mark, mark, mark] && isGapOrEnd (c.peek 3)

/-- Whether a mark between documents stands here. -/
def atDocumentMark (c : Cursor) : Bool := c.atTriple '-' || c.atTriple '.'

/-- The end of the line after an optional comment, which nothing else may precede. -/
def endOfLine (c : Cursor) : Except Trouble Cursor :=
  let c := (c.skip (· = ' ')).skipComment
  match c.lineBreak with
  | some (_, c) => .ok c
  | none => if c.rest.isEmpty then .ok c else .error .unreadable

end Cursor

end PathAccess.Yaml
