/-!
# Regular expressions

The regular expressions that describe path patterns, as trees, and their written form.  A character that the written
form uses as a sign is written with a backslash before it; every other character, line breaks included, stands for
itself.
-/

namespace PathAccess

/-- A regular expression over characters. -/
inductive Regex where
  /-- The empty text. -/
  | empty
  /-- The start of the text. -/
  | start
  /-- The end of the text, or the place before a line break that ends it. -/
  | finish
  | char (c : Char)
  /-- Any character, line breaks included. -/
  | any
  /-- Any character but one. -/
  | other (c : Char)
  | seq (first second : Regex)
  | alt (left right : Regex)
  | star (body : Regex)
  | optional (body : Regex)
  /-- A numbered group. -/
  | group (body : Regex)
  deriving DecidableEq

namespace Regex

/-- The characters that the written form uses as signs. -/
def signs : List Char := "$.^+|[]()?*\x7b\x7d\\".toList

/-- A character as a literal. -/
def escape (c : Char) : List Char := if c ∈ signs then ['\\', c] else [c]

/-- The written form. -/
def chars : Regex → List Char
  | empty => []
  | start => ['^']
  | finish => ['$']
  | char c => escape c
  | any => ['.']
  | other c => ['[', '^', c, ']']
  | seq r t => r.chars ++ t.chars
  | alt r t => r.chars ++ '|' :: t.chars
  | star r => r.chars ++ ['*']
  | optional r => "(?:".toList ++ r.chars ++ ")?".toList
  | group r => '(' :: r.chars ++ [')']

/-- The written form as a text. -/
def text (r : Regex) : String := String.ofList r.chars

/-- The expressions of a list one after the other. -/
def concat (rs : List Regex) : Regex := rs.foldr seq empty

theorem chars_concat (rs : List Regex) : (concat rs).chars = rs.flatMap chars := by
  induction rs with
  | nil => rfl
  | cons r rs ih => simp [concat, chars, ← ih]

end Regex

end PathAccess
