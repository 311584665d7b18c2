import ScriptShell.Decimal.Shortest

/-!
# Laying out decimal digits

A `Layout` holds the decisions of one number format: between which places of the point a number
is written positionally, whether a whole number shows a fraction, and whether a positive power shows
its sign. Outside that range the number is written as one digit, the others behind a point, and a
power of ten.
-/

namespace ScriptShell.Decimal

/-- The decisions of a number format. -/
structure Layout where
  /-- The least place of the point that is written positionally. -/
  least : Int
  /-- The greatest place of the point that is written positionally. -/
  greatest : Int
  /-- What a whole number carries behind its digits. -/
  wholeEnding : String
  /-- The sign of a power of ten that is not negative. -/
  plus : List Char

/-- The number format of scripts: positional from 1e-6 to below 1e21. -/
def Layout.script : Layout := ⟨-5, 21, "", ['+']⟩

/-- The number format of the profile file: positional from 1e-5 to below 1e16, a whole number
with one zero behind the point. Releases of the JSON library differ in whether a positive power has
its sign; the recent ones write it. -/
def Layout.profile : Layout := ⟨-4, 16, ".0", ['+']⟩

/-- So many zeros. -/
def zeros (count : Int) : List Char :=
  List.replicate count.toNat '0'

/-- Digits with the point in their place. -/
def Layout.positional (layout : Layout) (number : Digits) : List Char :=
  let count : Int := number.digits.length
  if number.point ≤ 0 then '0' :: '.' :: (zeros (-number.point) ++ number.digits)
  else if count ≤ number.point then
    number.digits ++ zeros (number.point - count) ++ layout.wholeEnding.toList
  else
    number.digits.take number.point.toNat ++ '.' :: number.digits.drop number.point.toNat

/-- Digits with a power of ten. -/
def Layout.exponential (layout : Layout) (number : Digits) : List Char :=
  let power := number.point - 1
  let sign := if power < 0 then ['-'] else layout.plus
  let fraction := match number.digits.drop 1 with
    | [] => []
    | rest => '.' :: rest
  number.digits.take 1 ++ fraction ++ 'e' :: (sign ++ Nat.toDigits 10 power.natAbs)

/-- The text of digits in a format. -/
def Layout.digits (layout : Layout) (number : Digits) : List Char :=
  if layout.least ≤ number.point && number.point ≤ layout.greatest then layout.positional number
  else layout.exponential number

/-- The text of a number in a format. -/
def Layout.float (layout : Layout) (number : Float) : String :=
  let bits := number.toBits
  let size := bits % 0x8000000000000000
  if 0x7FF0000000000000 < size then "NaN"
  else
    let sign := if size < bits && size != 0 then ['-'] else []
    let text :=
      if size = 0x7FF0000000000000 then "Infinity".toList
      else if size = 0 then '0' :: layout.wholeEnding.toList
      else layout.digits (Binary.ofBits size).shortest
    String.ofList (sign ++ text)

end ScriptShell.Decimal
