/-!
# The exact value of a binary floating-point number

A finite double is `± m * 2 ^ q` for whole numbers `m` and `q`, read off its 64 bits.
-/

namespace PathAccess.Decimal

/-- The parts of a double. -/
inductive Parts where
  | nan
  | infinite (negative : Bool)
  /-- `± significand * 2 ^ exponent`.  The number is `evenlySpaced` when its two neighbours are equally far away. -/
  | finite (negative : Bool) (significand : Nat) (exponent : Int) (evenlySpaced : Bool)
  deriving DecidableEq

/-- The parts of a double, from its bits. -/
def parts (x : Float) : Parts :=
  let bits := x.toBits.toNat
  let negative := bits ≥ Nat.pow 2 63
  let exponent : Nat := bits / Nat.pow 2 52 % Nat.pow 2 11
  let fraction : Nat := bits % Nat.pow 2 52
  if exponent = 2047 then
    if fraction = 0 then .infinite negative else .nan
  else if exponent = 0 then .finite negative fraction (-1074) true
  else .finite negative (Nat.pow 2 52 + fraction) ((exponent : Int) - 1075) (fraction != 0 || exponent = 1)

/-- The whole number that a double is, if it is one. -/
def wholeNumber? (x : Float) : Option Int :=
  match parts x with
  | .finite negative m q _ =>
    let sign : Int → Int := fun n => if negative then -n else n
    match q with
    | .ofNat e => some (sign (m * Nat.pow 2 e : Nat))
    | .negSucc e => if m % Nat.pow 2 (e + 1) = 0 then some (sign (m / Nat.pow 2 (e + 1) : Nat)) else none
  | _ => none

/-- Whether a double is neither infinite nor the result of an undefined operation. -/
def isFinite (x : Float) : Bool :=
  match parts x with
  | .finite .. => true
  | _ => false

end PathAccess.Decimal
