/-!
# Blank characters

The characters that may surround a privilege name without belonging to it, and the removal of them from both ends
of a text.  Besides the characters with the Unicode property White_Space the class holds the four information
separators U+001C to U+001F; it does not hold the zero-width characters U+200B and U+FEFF.
-/

namespace PathAccess.Text

/-- Whether a code point lies in one of the closed ranges of a table. -/
def inRanges (table : List (Nat × Nat)) (n : Nat) : Bool :=
  table.any fun r => r.1 ≤ n && n ≤ r.2

/-- Code points of the blank characters. -/
def blankRanges : List (Nat × Nat) :=
   [(0x9, 0xd), (0x1c, 0x20), (0x85, 0x85), (0xa0, 0xa0), (0x1680, 0x1680), (0x2000, 0x200a), (0x2028, 0x2029),
    (0x202f, 0x202f), (0x205f, 0x205f), (0x3000, 0x3000)]

/-- Whether `c` may be trimmed from the ends of a text. -/
def isBlank (c : Char) : Bool := inRanges blankRanges c.toNat

/-- Code points with the Unicode property White_Space. -/
def whiteSpaceRanges : List (Nat × Nat) :=
    [(0x9, 0xd), (0x20, 0x20), (0x85, 0x85), (0xa0, 0xa0), (0x1680, 0x1680), (0x2000, 0x200a), (0x2028, 0x2029),
     (0x202f, 0x202f), (0x205f, 0x205f), (0x3000, 0x3000)]

/-- Whether `c` has the Unicode property White_Space. -/
def isWhiteSpace (c : Char) : Bool := inRanges whiteSpaceRanges c.toNat

/-- Removes the characters of a class from both ends. -/
def trimBy (p : Char → Bool) (s : List Char) : List Char :=
  ((s.dropWhile p).reverse.dropWhile p).reverse

/-- Removes blank characters from both ends. -/
def trim (s : String) : String := String.ofList (trimBy isBlank s.toList)

end PathAccess.Text
