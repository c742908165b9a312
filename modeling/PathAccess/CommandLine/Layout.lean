import PathAccess.CommandLine.Markup
import PathAccess.Text.Blank
import PathAccess.Text.Pieces

/-!
# Lines of a report

A report is a list of lines without frames: runs of blanks count as one space, there are none at the ends of a line,
and empty lines are left out.  The cells of a table row stand side by side, and a cell of several lines takes as many
lines of the report.
-/

namespace PathAccess.Layout

/-- Whether a character draws frames. -/
def isFrame (c : Char) : Bool := 0x2500 ≤ c.toNat && c.toNat ≤ 0x257f

/-- Whether a character ends a line of a report. -/
def endsLine (c : Char) : Bool :=
  let n := c.toNat
  (0xa ≤ n && n ≤ 0xd) || (0x1c ≤ n && n ≤ 0x1e) || n = 0x85 || n = 0x2028 || n = 0x2029

/-- Characters that are never shown. -/
def isSilent (c : Char) : Bool :=
  let n := c.toNat
  n = 0x7 || n = 0x8 || (0xb ≤ n && n ≤ 0xd)

/-- The words between blanks. -/
def words (s : List Char) : List (List Char) :=
  (s.splitOnP fun c => Text.isBlank c || isFrame c).filter fun w => !w.isEmpty

/-- The text with single spaces between its words. -/
def squeezed (s : List Char) : List Char := List.intercalate [' '] (words s)

/-- The lines of a text, squeezed, without the empty ones. -/
def lines (s : List Char) : List String :=
  (((s.splitOnP endsLine).map squeezed).filter fun l => !l.isEmpty).map String.ofList

/-- The lines of a styled cell. -/
def cellLines (cell : List Char) : List (List Char) :=
  ((Markup.shown cell).filter fun c => !isSilent c).splitOn '\n'

/-- The lines of a row of styled cells. -/
def row (cells : List (List Char)) : List String :=
  let columns := cells.map cellLines
  let height := columns.foldl (fun n c => max n c.length) 0
  (List.range height).flatMap fun i =>
    lines (List.intercalate [' '] (columns.map (·.getD i [])))

/-- The lines of a styled text. -/
def paragraph (s : List Char) : List String := row [s]

end PathAccess.Layout
