/-!
# The shortest decimal that reads back

A finite binary64 number is `significand * 2 ^ exponent`. The decimals that read back as it are
those in an interval around it, up to half the way to its two neighbours, both ends included
exactly when the significand is even. `Binary.shortest` looks at the decimals with 1, 2, … digits.
On each such grid only the two points next to the number need a test: if any point of the grid
lies in the interval, one of these does. The first grid with a hit gives the digits; of two hits
the nearer one counts, and of two equally near the one with the even last digit.
-/

namespace ScriptShell.Decimal

/-- A positive finite binary64 number. Below a power of two its neighbour is only half as far
away as above; `narrow` marks that case. -/
structure Binary where
  significand : Nat
  exponent : Int
  narrow : Bool
  deriving DecidableEq, Repr

/-- Decimal digits `d₁d₂…` with the place of the point: the number is `0.d₁d₂… * 10 ^ point`. -/
structure Digits where
  digits : List Char
  point : Int
  deriving DecidableEq, Repr

/-- The number that the bits of a positive finite binary64 stand for. -/
def Binary.ofBits (bits : UInt64) : Binary :=
  let fraction : Nat := bits.toNat % Nat.pow 2 52
  let power : Nat := bits.toNat / Nat.pow 2 52 % Nat.pow 2 11
  if power = 0 then ⟨fraction, -1074, false⟩
  else ⟨Nat.pow 2 52 + fraction, (power : Int) - 1075, fraction = 0 && 1 < power⟩

/-- A number with the interval of decimals that read back as it, over one denominator. -/
structure Interval where
  low : Nat
  value : Nat
  high : Nat
  denominator : Nat
  closed : Bool

/-- The interval around a number, in quarters of its last binary place. -/
def Binary.interval (number : Binary) : Interval :=
  let place := number.exponent - 2
  let scale := Nat.pow 2 place.toNat
  let value := 4 * number.significand
  { low := (if number.narrow then value - 1 else value - 2) * scale
    value := value * scale
    high := (value + 2) * scale
    denominator := Nat.pow 2 (-place).toNat
    closed := number.significand % 2 = 0 }

/-- How often a fraction below one must be multiplied by ten to reach one, up to a bound. -/
def shiftsToOne (denominator : Nat) : Nat → Nat → Nat
  | 0, _ => 0
  | bound + 1, numerator =>
    if denominator ≤ numerator then 0 else shiftsToOne denominator bound (numerator * 10) + 1

/-- The place of the point of a positive fraction: it is below `10 ^ point` and at least a tenth
of that. -/
def pointOf (numerator denominator : Nat) : Int :=
  if denominator ≤ numerator then ((numerator / denominator).repr.length : Int)
  else 1 - (shiftsToOne denominator 400 numerator : Int)

/-- The coefficient on the grid `10 ^ place` that reads back and is nearest to the number. -/
def Interval.nearest? (interval : Interval) (place : Int) : Option Nat :=
  let up := Nat.pow 10 place.toNat * interval.denominator
  let down := Nat.pow 10 (-place).toNat
  let value := interval.value * down
  let inside := fun coefficient =>
    if interval.closed then
      interval.low * down ≤ coefficient * up && coefficient * up ≤ interval.high * down
    else interval.low * down < coefficient * up && coefficient * up < interval.high * down
  let below := value / up
  let above := below + 1
  match inside below, inside above with
  | true, true =>
    let fromBelow := value - below * up
    let fromAbove := above * up - value
    if fromBelow < fromAbove then some below
    else if fromAbove < fromBelow then some above
    else some (if below % 2 = 0 then below else above)
  | true, false => some below
  | false, true => some above
  | false, false => none

/-- Digits of a coefficient on the grid `10 ^ place`, without zeros at the end. -/
def Digits.ofCoefficient (coefficient : Nat) (place : Int) : Digits :=
  let written := Nat.toDigits 10 coefficient
  { digits := (written.reverse.dropWhile (· = '0')).reverse
    point := (written.length : Int) + place }

/-- The first hit on the grids with `17 - left` digits and more. -/
def Interval.search (interval : Interval) (point : Int) : Nat → Digits
  | 0 =>
    let place := point - 17
    let up := Nat.pow 10 place.toNat * interval.denominator
    Digits.ofCoefficient (interval.value * Nat.pow 10 (-place).toNat / up) place
  | left + 1 =>
    let place := point - (17 - left : Int)
    match interval.nearest? place with
    | some coefficient => Digits.ofCoefficient coefficient place
    | none => search interval point left

/-- The fewest digits that read back as the number. -/
def Binary.shortest (number : Binary) : Digits :=
  let interval := number.interval
  interval.search (pointOf interval.value interval.denominator) 17

end ScriptShell.Decimal
