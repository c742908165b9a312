import PathAccess.Glob.Regex

/-!
# Path patterns

A path pattern is a path in which a star stands for any text within one segment, and two or more stars that make up
a whole segment stand for any number of whole segments.  A longer run of stars that shares its segment with other
characters counts as a single star.  A pattern is *open* or *exact*: unless it ends in a star, an open pattern also
covers every path below the ones that it matches.

The tokens of a pattern are read off its text (`Glob.tokens`); `Glob.accepts` says which texts the tokens match, and
`Glob.toRegex` gives the regular expression for the same texts.  A text counts as ended also before a line break that
is its last character (`atEnd`).
-/

namespace PathAccess

namespace Glob

/-- A part of a pattern: a character of its own, or a maximal run of stars. -/
inductive Piece where
  | char (c : Char)
  | stars (count : Nat)
  deriving DecidableEq

/-- What a pattern asks for, one after the other. -/
inductive Token where
  /-- This character. -/
  | literal (c : Char)
  /-- Any text without a slash. -/
  | star
  /-- Any number of whole segments, with the slash after each. -/
  | globstar
  deriving DecidableEq

/-- What may follow the part that the tokens match. -/
inductive Ending where
  /-- Nothing. -/
  | closed
  /-- Nothing, or a slash and any text. -/
  | below
  /-- Any text. -/
  | anything
  deriving DecidableEq

/-- The pattern with every run of stars taken together. -/
def pieces : List Char → List Piece
  | [] => []
  | c :: s =>
    if c = '*' then
      match pieces s with
      | .stars n :: ps => .stars (n + 1) :: ps
      | ps => .stars 1 :: ps
    else .char c :: pieces s

/-- Whether a run of stars beside `neighbour` (none at either end of the pattern) reaches the edge of a segment. -/
def isEdge (neighbour : Option Char) : Bool := neighbour.all (· = '/')

/-- The character that comes next, a run of stars counting as a star. -/
def nextChar : List Piece → Option Char
  | [] => none
  | .char c :: _ => some c
  | .stars _ :: _ => some '*'

/-- The tokens of the pieces that follow `before`.  A globstar takes the slash after it along. -/
def tokensAfter (before : Option Char) : List Piece → List Token
  | [] => []
  | .char c :: ps => .literal c :: tokensAfter (some c) ps
  | .stars n :: ps =>
    if 2 ≤ n && isEdge before && isEdge (nextChar ps) then
      .globstar :: match ps with
        | [] => []
        | p :: ps' => tokensAfter (nextChar [p]) ps'
    else .star :: tokensAfter (some '*') ps

/-- The tokens of a pattern. -/
def tokens (pattern : List Char) : List Token := tokensAfter none (pieces pattern)

/-- How an open pattern ends. -/
def openEnding (pattern : List Char) : Ending :=
  if pattern.getLast? = some '*' then .closed
  else if (tokens pattern).getLast? = some (.literal '/') then .anything
  else .below

/-! ### Matching -/

/-- Whether only a final line break, or nothing, is left. -/
def atEnd : List Char → Bool
  | [] => true
  | [c] => c = '\n'
  | _ :: _ :: _ => false

/-- Whether what is left is a permitted ending. -/
def Ending.accepts : Ending → List Char → Bool
  | .closed, s => atEnd s
  | .below, s => atEnd s || s.head? = some '/'
  | .anything, _ => true

/-- Whether `next` holds after some slash-free text is taken away. -/
def afterRun (next : List Char → Bool) : List Char → Bool
  | [] => next []
  | c :: s => next (c :: s) || (c ≠ '/' && afterRun next s)

/-- Whether `next` holds after some non-empty text is taken away that ends in a slash or at the end. -/
def afterSegments (next : List Char → Bool) : List Char → Bool
  | [] => false
  | c :: s => ((c = '/' || atEnd s) && next s) || afterSegments next s

/-- Whether the tokens match a text, up to a permitted ending. -/
def accepts (ending : Ending) : List Token → List Char → Bool
  | [], s => ending.accepts s
  | .literal _ :: _, [] => false
  | .literal c :: ts, d :: s => c = d && accepts ending ts s
  | .star :: ts, s => afterRun (accepts ending ts) s
  | .globstar :: ts, s => accepts ending ts s || afterSegments (accepts ending ts) s

/-! ### The regular expression -/

/-- Any text without a slash. -/
def slashFree : Regex := .star (.other '/')

/-- The regular expression of a token. -/
def Token.toRegex : Token → Regex
  | .literal c => .char c
  | .star => slashFree
  | .globstar => .star (.group (.seq slashFree (.group (.alt (.char '/') .finish))))

/-- The regular expression of an ending, without the end itself. -/
def Ending.toRegex : Ending → Regex
  | .closed => .empty
  | .below => .optional (.seq (.char '/') (.star .any))
  | .anything => .optional (.star .any)

/-- The regular expression of a pattern, open or exact. -/
def toRegex (pattern : List Char) (isOpen : Bool) : Regex :=
  let ending := if isOpen then openEnding pattern else .closed
  Regex.concat (.start :: (tokens pattern).map Token.toRegex ++ [ending.toRegex, .finish])

end Glob

end PathAccess
