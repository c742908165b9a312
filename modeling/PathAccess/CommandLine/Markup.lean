import PathAccess.Text.Pictograph

/-!
# Styled text

Text with style tags in square brackets, as the command line writes it: how a text is guarded so that nothing in it
is taken for a tag, and what of a styled text is shown.

A tag is a bracket with a letter, `#`, `/` or `@` after it, up to the next closing bracket, with no other opening
bracket between.  A backslash before a tag turns it into text, and two backslashes before a tag are one.  Names of
pictographs between colons are shown as the pictographs.
-/

namespace PathAccess.Markup

/-- Whether a tag can start with this character. -/
def startsTag (c : Char) : Bool := ('a' ≤ c && c ≤ 'z') || c = '#' || c = '/' || c = '@'

/-- The inside of a tag up to its closing bracket, and what follows. -/
def closeTag : List Char → Option (List Char × List Char)
  | [] => none
  | ']' :: s => some ([], s)
  | '[' :: _ => none
  | c :: s => (closeTag s).map fun r => (c :: r.1, r.2)

/-- The tag at the start of a text, without its brackets, and what follows. -/
def tag? : List Char → Option (List Char × List Char)
  | '[' :: c :: s => if startsTag c then (closeTag s).map fun r => (c :: r.1, r.2) else none
  | _ => none

/-- The run of backslashes at the start of a text, and what follows. -/
def backslashes (s : List Char) : Nat × List Char :=
  let run := s.takeWhile (· = '\\')
  (run.length, s.drop run.length)

/-- A part of a styled text. -/
inductive Part where
  | plain (text : List Char)
  /-- A tag after some backslashes. -/
  | tag (backslashes : Nat) (inside : List Char)

/-- A character before the first part, if that is plain. -/
def consPlain (c : Char) : List Part → List Part
  | .plain s :: ps => .plain (c :: s) :: ps
  | ps => .plain [c] :: ps

/-- The parts of a styled text. -/
def parts : Nat → List Char → List Part
  | 0, s => [.plain s]
  | _ + 1, [] => []
  | fuel + 1, c :: s =>
    let (n, rest) := backslashes (c :: s)
    match tag? rest with
    | some (inside, after) => .tag n inside :: parts fuel after
    | none =>
      if n = 0 then consPlain c (parts fuel s)
      else (List.replicate n '\\').foldr consPlain (parts fuel rest)

def partsOf (s : List Char) : List Part := parts (s.length + 1) s

def bracketed (inside : List Char) : List Char := '[' :: inside ++ [']']

/-- The text with a backslash before every tag, and with one at its end doubled. -/
def escape (s : List Char) : List Char :=
  let guarded := (partsOf s).flatMap fun
    | .plain t => t
    | .tag n inside => List.replicate (2 * n + 1) '\\' ++ bracketed inside
  match guarded.reverse with
  | '\\' :: '\\' :: _ => guarded
  | '\\' :: _ => guarded ++ ['\\']
  | _ => guarded

/-- A plain part as it is shown: a backslash before a bracket is dropped. -/
def shownPlain : List Char → List Char
  | '\\' :: '[' :: s => '[' :: shownPlain s
  | c :: s => c :: shownPlain s
  | [] => []

/-- A text as it is shown, with pictographs for their names. -/
def pictured (s : List Char) : List Char := Text.withPictographs s.length s

/-- What of a styled text is shown. -/
def shown (s : List Char) : List Char :=
  (partsOf s).flatMap fun
    | .plain t => pictured (shownPlain t)
    | .tag n inside => List.replicate (n / 2) '\\' ++ if n % 2 = 1 then pictured (bracketed inside) else []

end PathAccess.Markup
