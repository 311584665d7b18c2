/-!
# Reading decimals and exact values

`Decimal.nearest` is the binary64 number nearest to `coefficient * 10 ^ power`. In the other
direction a binary64 number has an exact value: a rational number, an infinity, or none.
-/

namespace ScriptShell

namespace Decimal

/-- The binary64 number nearest to `coefficient * 10 ^ power`. Beyond the powers of ten that
binary64 spans the answer is zero or infinite without further arithmetic. -/
def nearest (coefficient : Nat) (power : Int) : Float :=
  let point := (coefficient.repr.length : Int) + power
  if coefficient = 0 || point < -400 then 0.0
  else if 400 < point then 1.0 / 0.0
  else Float.ofScientific coefficient (power < 0) power.natAbs

end Decimal

/-- The exact value of a number: not a number, infinite, or a rational. -/
inductive Numeric where
  | nan
  | infinite (negative : Bool)
  | finite (value : Rat)
  deriving DecidableEq

/-- The exact value of a binary64 number. -/
def Numeric.ofFloat (number : Float) : Numeric :=
  let bits := number.toBits.toNat
  let negative := decide (Nat.pow 2 63 ≤ bits)
  let fraction : Nat := bits % Nat.pow 2 52
  let power : Nat := bits / Nat.pow 2 52 % Nat.pow 2 11
  if power = 2047 then if fraction = 0 then .infinite negative else .nan
  else
    let significand : Nat := if power = 0 then fraction else Nat.pow 2 52 + fraction
    let place : Nat := if power = 0 then 1 else power
    let exponent : Int := (place : Int) - 1075
    let numerator : Nat := significand * Nat.pow 2 exponent.toNat
    let size : Rat := mkRat numerator (Nat.pow 2 (-exponent).toNat)
    .finite (if negative then -size else size)

end ScriptShell
