import PathAccess.Text.Digit

/-!
# Reading decimal numbers

Whole numbers from runs of decimal digits of any script, and doubles from decimal text.
-/

namespace PathAccess.Decimal

/-- The longest numeral that is read as a number or written for one. -/
def maxDigits : Nat := 4300

/-- Whether a whole number is short enough to be written. -/
def isWritable (n : Int) : Bool := n.natAbs < Nat.pow 10 maxDigits

/-- The number that a run of decimal digits writes, in any mixture of scripts. -/
def natural? (s : List Char) : Option Nat :=
  if s.isEmpty then none
  else s.foldlM (fun n c => (Text.digitValue? c).map (n * 10 + ·)) 0

/-- The number that a numeral of at most `maxDigits` digits writes. -/
def bounded? (s : List Char) : Option Nat :=
  if s.length ≤ maxDigits then natural? s else none

/-- `digits * 10 ^ exponent` as the nearest double. -/
def toFloat (digits : Nat) (exponent : Int) : Float :=
  let size : Int := (Nat.toDigits 10 digits).length
  if digits = 0 || size + exponent < -400 then 0.0
  else if 400 < size + exponent then 1.0 / 0.0
  else match exponent with
    | .ofNat e => Float.ofScientific digits false e
    | .negSucc e => Float.ofScientific digits true (e + 1)

/-- A run of ASCII digits as a number, the empty run as zero. -/
def asciiNumber (s : List Char) : Nat := s.foldl (fun n c => n * 10 + (c.toNat - 48)) 0

/-- Reads the exponent that may follow the digits. -/
def exponent? : List Char → Option Int
  | [] => some 0
  | e :: s =>
    if e != 'e' && e != 'E' then none
    else
      let (negative, ds) := match s with
        | '-' :: r => (true, r)
        | '+' :: r => (false, r)
        | r => (false, r)
      if ds.isEmpty || !ds.all Char.isDigit then none
      else some (if negative then -(asciiNumber ds) else asciiNumber ds)

/-- Reads a decimal number without sign: digits, a point and digits, and an exponent, of which any but one run of
digits may be missing. -/
def unsignedFloat? (s : List Char) : Option Float :=
  let whole := s.takeWhile Char.isDigit
  let afterWhole := s.dropWhile Char.isDigit
  let (fraction, rest) := match afterWhole with
    | '.' :: r => (r.takeWhile Char.isDigit, r.dropWhile Char.isDigit)
    | r => ([], r)
  if whole.isEmpty && fraction.isEmpty then none
  else (exponent? rest).map fun e => toFloat (asciiNumber (whole ++ fraction)) (e - fraction.length)

/-- Reads a decimal number, infinity (`inf` or `infinity`) or the undefined number (`nan`), with or without a sign. -/
def float? (s : List Char) : Option Float :=
  let unsigned (r : List Char) : Option Float :=
    if r = "inf".toList || r = "infinity".toList then some (1.0 / 0.0)
    else if r = "nan".toList then some (0.0 / 0.0)
    else unsignedFloat? r
  match s with
  | '-' :: r => (unsigned r).map fun x => -x
  | '+' :: r => unsigned r
  | r => unsigned r

end PathAccess.Decimal
