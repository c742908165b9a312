import PathAccess.Decimal.Binary

/-!
# Shortest decimal text

The text of a double with the fewest digits that read back as the same double; of two such texts the nearer to the
exact value, and on a tie the one with an even last digit.  All arithmetic is exact: for one, two, … digits the two
neighbours of the value on that decimal grid are compared with the ends of the interval of reals that round to it,
ends included when the significand is even.

The written form is positional for values from `0.0001` up to below `10 ^ 16`, with at least one digit on both sides
of the point, and otherwise has an exponent of at least two digits with its sign.
-/

namespace PathAccess.Decimal

/-- Decimal digits with the power of ten that they are multiplied by. -/
structure Scaled where
  digits : Nat
  exponent : Int
  deriving DecidableEq

/-- A positive fraction and the interval around it, all over one denominator. -/
structure Target where
  low : Nat
  value : Nat
  high : Nat
  denominator : Nat
  /-- Whether the ends belong to the interval. -/
  closed : Bool

/-- The interval of reals that round to a finite double. -/
def target (m : Nat) (q : Int) (evenlySpaced : Bool) : Target :=
  let up := Nat.pow 2 (q - 2).toNat
  let down := Nat.pow 2 (2 - q).toNat
  ⟨(4 * m - if evenlySpaced then 2 else 1) * up, 4 * m * up, (4 * m + 2) * up, down, m % 2 = 0⟩

/-- A target divided by a power of ten. -/
def Target.shift (t : Target) (k : Int) : Target :=
  let up := Nat.pow 10 (-k).toNat
  { t with
    low := t.low * up, value := t.value * up, high := t.high * up
    denominator := t.denominator * Nat.pow 10 k.toNat }

/-- Whether the whole number `d` lies in the interval. -/
def Target.holds (t : Target) (d : Nat) : Bool :=
  let n := d * t.denominator
  if t.closed then t.low ≤ n && n ≤ t.high else t.low < n && n < t.high

/-- The whole number in the interval that is the value's lower or upper neighbour, the nearer if both are. -/
def Target.pick? (t : Target) : Option Nat :=
  let d := t.value / t.denominator
  let rest := t.value % t.denominator
  match t.holds d && d != 0, t.holds (d + 1) with
  | true, true =>
    if 2 * rest < t.denominator || (2 * rest = t.denominator && d % 2 = 0) then some d else some (d + 1)
  | true, false => some d
  | false, true => some (d + 1)
  | false, false => none

/-- The exponent of ten of a fraction below one: the least `k` with `num * 10 ^ k ≥ den`. -/
def leadingZeros : Nat → Nat → Nat → Nat
  | 0, _, _ => 0
  | fuel + 1, num, den => if den ≤ num then 0 else leadingZeros fuel (num * 10) den + 1

/-- The exponent of ten of the value's first digit. -/
def Target.magnitude (t : Target) : Int :=
  if t.denominator ≤ t.value then ((Nat.toDigits 10 (t.value / t.denominator)).length : Int) - 1
  else -(leadingZeros 400 t.value t.denominator : Int)

/-- The first grid, from `n` digits on, with a point in the interval. -/
def Target.search (t : Target) (magnitude : Int) : Nat → Nat → Scaled
  | 0, n => ⟨0, n⟩
  | fuel + 1, n =>
    let k := magnitude - n
    match (t.shift k).pick? with
    | some d => ⟨d, k⟩
    | none => t.search magnitude fuel (n + 1)

/-- Digits without the zeros at their end. -/
def Scaled.trimmed (s : Scaled) : Nat → Scaled
  | 0 => s
  | fuel + 1 =>
    if s.digits != 0 && s.digits % 10 = 0 then (⟨s.digits / 10, s.exponent + 1⟩ : Scaled).trimmed fuel else s

/-- The shortest digits of a positive double. -/
def shortest (m : Nat) (q : Int) (evenlySpaced : Bool) : Scaled :=
  let t := target m q evenlySpaced
  (t.search t.magnitude 20 0).trimmed 20

/-- The written form of a positive decimal. -/
def Scaled.text (s : Scaled) : String :=
  let ds := Nat.toDigits 10 s.digits
  let point : Int := ds.length + s.exponent
  let zeros (n : Int) : List Char := List.replicate n.toNat '0'
  if -4 < point && point ≤ 16 then
    if point ≤ 0 then String.ofList ("0.".toList ++ zeros (-point) ++ ds)
    else
      let fraction := ds.drop point.toNat
      String.ofList (ds.take point.toNat ++ zeros (point - ds.length) ++
        '.' :: if fraction.isEmpty then ['0'] else fraction)
  else
    let e := point - 1
    let size := Nat.toDigits 10 e.natAbs
    let fraction := ds.drop 1
    String.ofList (ds.take 1 ++ (if fraction.isEmpty then [] else '.' :: fraction) ++
      ['e', if e < 0 then '-' else '+'] ++ zeros (2 - size.length) ++ size)

/-- The shortest text of a double. -/
def shortestText (x : Float) : String :=
  match parts x with
  | .nan => "nan"
  | .infinite negative => if negative then "-inf" else "inf"
  | .finite negative m q evenlySpaced =>
    let text := if m = 0 then "0.0" else (shortest m q evenlySpaced).text
    if negative then "-" ++ text else text

end PathAccess.Decimal
