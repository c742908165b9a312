import PathAccess.Yaml.Cursor

/-!
# Tags of plain scalars

A plain scalar has no written tag; what it looks like decides what it stands for: a truth value, a whole number, a
number with a fraction, nothing, a date or point in time, the mark of a merged mapping, or else a text.  The same
holds of any scalar with the tag `!`, and there a line feed at the end of the text does not count.
-/

namespace PathAccess.Yaml

/-- What a node stands for. -/
inductive Tag where
  | null
  | bool
  | int
  | float
  | timestamp
  | text
  | binary
  | sequence
  | mapping
  | set
  | orderedMap
  | pairs
  /-- The key whose mapping is merged into the one around it. -/
  | merge
  /-- The key of a default value. -/
  | default
  /-- Any other tag; no value can be made of it. -/
  | other
  deriving DecidableEq

/-- The tag with a full name. -/
def Tag.ofName (name : String) : Tag :=
  let known := [("null", null), ("bool", bool), ("int", int), ("float", float), ("timestamp", timestamp),
    ("str", text), ("binary", binary), ("seq", sequence), ("map", mapping), ("set", set), ("omap", orderedMap),
    ("pairs", pairs), ("merge", merge), ("value", default)]
  match known.find? fun e => "tag:yaml.org,2002:" ++ e.1 = name with
  | some e => e.2
  | none => other

/-! ### Numbers -/

/-- The text after an optional sign. -/
def unsigned : List Char → List Char
  | '+' :: s => s
  | '-' :: s => s
  | s => s

def isDigitOrUnderscore (c : Char) : Bool := c.isDigit || c = '_'

def isNonEmpty (p : Char → Bool) (s : List Char) : Bool := !s.isEmpty && s.all p

/-- Digits and underscores after a digit. -/
def isNumeral : List Char → Bool
  | [] => false
  | d :: s => d.isDigit && s.all isDigitOrUnderscore

/-- A numeral that does not start with a zero. -/
def isLeadingNumeral (s : List Char) : Bool := isNumeral s && s.head? ≠ some '0'

/-- A number of minutes or seconds. -/
def isSixtieth : List Char → Bool
  | [d] => d.isDigit
  | [t, d] => '0' ≤ t && t ≤ '5' && d.isDigit
  | _ => false

/-- Whether the text after the sign is a whole number. -/
def isUnsignedInt (s : List Char) : Bool :=
  match s with
  | '0' :: 'b' :: r => isNonEmpty (fun c => c = '0' || c = '1' || c = '_') r
  | '0' :: 'x' :: r =>
    isNonEmpty (fun c => c.isDigit || ('a' ≤ c && c ≤ 'f') || ('A' ≤ c && c ≤ 'F') || c = '_') r
  | '0' :: r => r.all fun c => ('0' ≤ c && c ≤ '7') || c = '_'
  | s =>
    match s.splitOn ':' with
    | [n] => isLeadingNumeral n
    | n :: ns => isLeadingNumeral n && ns.all isSixtieth
    | [] => false

/-- An exponent with its sign, or nothing. -/
def isExponent : List Char → Bool
  | [] => true
  | e :: sign :: ds => (e = 'e' || e = 'E') && (sign = '+' || sign = '-') && isNonEmpty Char.isDigit ds
  | _ => false

/-- The digits after a point and an exponent. -/
def isFraction (s : List Char) : Bool := isExponent (s.dropWhile isDigitOrUnderscore)

/-- Whether the text after the sign is a numeral with a point after it, or several in sixtieths of each other with a
point after the last. -/
def isPointed (s : List Char) : Bool :=
  let whole := s.takeWhile (· ≠ '.')
  match s.dropWhile (· ≠ '.') with
  | [] => false
  | _ :: fraction =>
    match whole.splitOn ':' with
    | [n] => isNumeral n && isFraction fraction
    | n :: ns => isNumeral n && ns.all isSixtieth && fraction.all isDigitOrUnderscore
    | [] => false

def isFloat (s : List Char) : Bool :=
  isPointed (unsigned s) ||
    [".inf", ".Inf", ".INF"].any (fun w => w.toList = unsigned s) ||
    [".nan", ".NaN", ".NAN"].any (fun w => w.toList = s) ||
    match s with
    | '.' :: d :: r => d.isDigit && isFraction r
    | _ => false

/-! ### Points in time -/

/-- A time of day in the digits that were written. -/
structure WrittenClock where
  hour : List Char
  minute : List Char
  second : List Char
  /-- The digits after the point. -/
  fraction : List Char

/-- A time zone in the digits that were written. -/
inductive WrittenZone where
  /-- The zone that is written `Z`. -/
  | universal
  | offset (sign : Char) (hours minutes : List Char)

/-- A date with an optional time of day, in the digits that were written. -/
structure Timestamp where
  year : List Char
  month : List Char
  day : List Char
  clock : Option WrittenClock
  zone : Option WrittenZone

/-- Between `least` and `most` digits at the start of a text. -/
def digits (least most : Nat) (s : List Char) : Option (List Char × List Char) :=
  let run := (s.take most).takeWhile Char.isDigit
  if least ≤ run.length then some (run, s.drop run.length) else none

/-- The text after a character. -/
def after? (c : Char) : List Char → Option (List Char)
  | d :: s => if c = d then some s else none
  | [] => none

def isSpaceOrTab (c : Char) : Bool := c = ' ' || c = '\t'

/-- Reads the zone at the end of a point in time, where there may be none. -/
def zone? (s : List Char) : Option (Option WrittenZone) :=
  match s.dropWhile isSpaceOrTab with
  | [] => if s.isEmpty then some none else none
  | ['Z'] => some (some .universal)
  | sign :: r =>
    if sign ≠ '+' && sign ≠ '-' then none
    else do
      let (hours, r) ← digits 1 2 r
      if r.isEmpty then return some (.offset sign hours [])
      let (minutes, r) ← digits 2 2 (← after? ':' r)
      if r.isEmpty then some (some (.offset sign hours minutes)) else none

/-- Reads the time of day and the zone after it. -/
def clock? (s : List Char) : Option (WrittenClock × Option WrittenZone) := do
  let (hour, s) ← digits 1 2 s
  let (minute, s) ← digits 2 2 (← after? ':' s)
  let (second, s) ← digits 2 2 (← after? ':' s)
  match s with
  | '.' :: r => return (⟨hour, minute, second, r.takeWhile Char.isDigit⟩, ← zone? (r.dropWhile Char.isDigit))
  | r => return (⟨hour, minute, second, []⟩, ← zone? r)

/-- Reads a date, alone or with the time of day. -/
def timestamp? (s : List Char) : Option Timestamp := do
  let (year, s) ← digits 4 4 s
  let (month, s) ← digits 1 2 (← after? '-' s)
  let (day, s) ← digits 1 2 (← after? '-' s)
  match s with
  | [] => return ⟨year, month, day, none, none⟩
  | c :: r =>
    let rest ← if c = 'T' || c = 't' then some r else if isSpaceOrTab c then some (r.dropWhile isSpaceOrTab) else none
    let (clock, zone) ← clock? rest
    return ⟨year, month, day, some clock, zone⟩

/-- A date alone needs two digits for the month and the day to count as such. -/
def isTimestamp (s : List Char) : Bool :=
  match timestamp? s with
  | some t => t.clock.isSome || (t.month.length = 2 && t.day.length = 2)
  | none => false

/-! ### All together -/

def trueWords : List String := ["yes", "Yes", "YES", "true", "True", "TRUE", "on", "On", "ON"]

def falseWords : List String := ["no", "No", "NO", "false", "False", "FALSE", "off", "Off", "OFF"]

def nullWords : List String := ["", "~", "null", "Null", "NULL"]

/-- What a text without a line feed at its end stands for. -/
def Tag.ofWord (s : List Char) : Tag :=
  let word := String.ofList s
  if trueWords.contains word || falseWords.contains word then bool
  else if isFloat s then float
  else if isUnsignedInt (unsigned s) then int
  else if word = "<<" then merge
  else if nullWords.contains word then null
  else if isTimestamp s then timestamp
  else if word = "=" then default
  else if word = "!" || word = "&" || word = "*" then other
  else text

/-- The text without a line feed at its end. -/
def withoutFinalBreak (s : List Char) : List Char := if s.getLast? = some '\n' then s.dropLast else s

/-- What a scalar without a tag of its own stands for. -/
def Tag.ofText (s : List Char) : Tag := if s = ['\n'] then text else ofWord (withoutFinalBreak s)

end PathAccess.Yaml
