import PathAccess.Text.Printable

/-!
# Quoted text

How a message shows a text that it quotes.  The marks are single quotes, unless the text has a single quote and no
double quote.  The mark, the backslash and the common control characters get a backslash before them; any other
character that is not printable is written by its code in lower-case hexadecimal, with two, four or eight digits.
Bytes are shown the same way, as the ASCII text that they spell, after the letter `b`.
-/

namespace PathAccess.Text

/-- The last `width` hexadecimal digits of a number. -/
def hexDigits : Nat → Nat → List Char
  | 0, _ => []
  | width + 1, n => hexDigits width (n / 16) ++ [Nat.digitChar (n % 16)]

/-- The quotation mark for a text. -/
def quoteMark (s : List Char) : Char := if s.contains '\'' && !s.contains '"' then '"' else '\''

/-- The code of a character that is not printable. -/
def codeEscape (n : Nat) : List Char :=
  if n < 0x100 then '\\' :: 'x' :: hexDigits 2 n
  else if n < 0x10000 then '\\' :: 'u' :: hexDigits 4 n
  else '\\' :: 'U' :: hexDigits 8 n

/-- One character between quotation marks `mark`, given which characters need no code. -/
def quotedChar (plain : Char → Bool) (mark c : Char) : List Char :=
  if c = mark || c = '\\' then ['\\', c]
  else if c = '\n' then ['\\', 'n']
  else if c = '\r' then ['\\', 'r']
  else if c = '\t' then ['\\', 't']
  else if plain c then [c]
  else codeEscape c.toNat

/-- A text between quotation marks. -/
def quotedChars (plain : Char → Bool) (s : List Char) : List Char :=
  let mark := quoteMark s
  mark :: s.flatMap (quotedChar plain mark) ++ [mark]

/-- A text as a message quotes it. -/
def quoted (s : String) : String := String.ofList (quotedChars isPrintable s.toList)

/-- Bytes as a message quotes them. -/
def quotedBytes (bytes : List UInt8) : String :=
  let isShown (c : Char) : Bool := 0x20 ≤ c.toNat && c.toNat < 0x7f
  String.ofList ('b' :: quotedChars isShown (bytes.map fun b => Char.ofNat b.toNat))

end PathAccess.Text
