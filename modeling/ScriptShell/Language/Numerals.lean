import ScriptShell.Decimal.Layout
import ScriptShell.Decimal.Read
import ScriptShell.Language.Builtin
import ScriptShell.Language.Letters
import ScriptShell.Text.Wide

/-!
# Numbers of the script language

How numbers become integers of a width, how texts are read as numbers, and the operations on
numbers that binary64 arithmetic does not have at hand.
-/

namespace ScriptShell.Language.Numerals

/-! ## Integers -/

/-- A number without its fraction; a NaN and the infinities have no such value. -/
def truncate? (number : Float) : Option Int :=
  match Numeric.ofFloat number with
  | .finite value => some (value.num.tdiv value.den)
  | _ => none

/-- The remainder of a number's whole part modulo `2 ^ width`; a NaN and the infinities count as
zero. -/
def toUnsigned (width : Nat) (number : Float) : Nat :=
  (((truncate? number).getD 0) % (Nat.pow 2 width : Int)).toNat

/-- The whole part modulo `2 ^ width` as a signed integer. -/
def toSigned (width : Nat) (number : Float) : Int :=
  Int.bmod ((truncate? number).getD 0) (Nat.pow 2 width)

/-- The whole part of a number, where a NaN counts as zero. -/
def toInteger (number : Float) : Float :=
  if number.isNaN then 0.0
  else if number < 0.0 then number.ceil
  else number.floor

/-- A place in a sequence of some length: negative numbers count from its end. -/
def placeIn (length : Nat) (number : Float) : Nat :=
  let whole := toInteger number
  if whole < 0.0 then
    if whole.abs < Float.ofNat length then length - whole.abs.toUInt64.toNat else 0
  else if whole < Float.ofNat length then whole.toUInt64.toNat
  else length

/-! ## Reading texts -/

/-- Characters that do not count at the ends of a numeric text. -/
def isSpace (c : Char) : Bool :=
  isBlank c || isLineBreak c

/-- A text without the spaces at its ends. -/
def trim (text : List Char) : List Char :=
  ((text.dropWhile isSpace).reverse.dropWhile isSpace).reverse

/-- The value of digits in a base, of which there must be one. -/
def readBase? (base : Nat) (digits : List Char) : Option Nat :=
  if digits.isEmpty then none
  else digits.foldl (fun value c => do return (← value) * base + (← digitValue? base c)) (some 0)

/-- Reads a power of ten behind its mark. -/
def readPower? (text : List Char) : Option Int :=
  match text with
  | '-' :: digits => (readBase? 10 digits).map fun value => -(value : Int)
  | '+' :: digits => (readBase? 10 digits).map Int.ofNat
  | digits => (readBase? 10 digits).map Int.ofNat

/-- Reads a decimal number without a sign. -/
def readDecimal? (text : List Char) : Option Float := do
  let whole := text.takeWhile Char.isDigit
  let rest := text.dropWhile Char.isDigit
  let (fraction, rest) := match rest with
    | '.' :: rest => (rest.takeWhile Char.isDigit, rest.dropWhile Char.isDigit)
    | rest => ([], rest)
  let coefficient ← readBase? 10 (whole ++ fraction)
  match rest with
  | [] => return Decimal.nearest coefficient (-(fraction.length : Int))
  | mark :: power =>
    if mark = 'e' || mark = 'E' then
      return Decimal.nearest coefficient ((← readPower? power) - fraction.length)
    else none

/-- Reads a decimal number or an infinity without a sign. -/
def readSize? (text : List Char) : Option Float :=
  if text = "Infinity".toList then some (1.0 / 0.0) else readDecimal? text

/-- The number that a text spells; no text at all is zero, and any other text is a NaN. -/
def ofText (text : WideText) : Float :=
  let nan : Float := 0.0 / 0.0
  match trim text.escaped.toList with
  | [] => 0.0
  | '0' :: 'x' :: digits | '0' :: 'X' :: digits =>
    ((readBase? 16 digits).map fun value => Decimal.nearest value 0).getD nan
  | '0' :: 'o' :: digits | '0' :: 'O' :: digits =>
    ((readBase? 8 digits).map fun value => Decimal.nearest value 0).getD nan
  | '0' :: 'b' :: digits | '0' :: 'B' :: digits =>
    ((readBase? 2 digits).map fun value => Decimal.nearest value 0).getD nan
  | '-' :: rest => ((readSize? rest).map fun value => -value).getD nan
  | '+' :: rest => (readSize? rest).getD nan
  | rest => (readSize? rest).getD nan

/-- The integer that a text spells, if it spells one. -/
def bigintOfText? (text : WideText) : Option Int :=
  match trim text.escaped.toList with
  | [] => some 0
  | '0' :: 'x' :: digits | '0' :: 'X' :: digits => (readBase? 16 digits).map Int.ofNat
  | '0' :: 'o' :: digits | '0' :: 'O' :: digits => (readBase? 8 digits).map Int.ofNat
  | '0' :: 'b' :: digits | '0' :: 'B' :: digits => (readBase? 2 digits).map Int.ofNat
  | '-' :: digits => (readBase? 10 digits).map fun value => -(value : Int)
  | '+' :: digits => (readBase? 10 digits).map Int.ofNat
  | digits => (readBase? 10 digits).map Int.ofNat

/-! ## Writing numbers -/

/-- The text of a number. -/
def toText (number : Float) : WideText :=
  WideText.ofString (Decimal.Layout.script.float number)

/-- The text of an integer in a base. -/
def integerToText (base : Nat) (number : Int) : WideText :=
  let digit := fun value : Nat =>
    if value < 10 then Char.ofNat (48 + value) else Char.ofNat (87 + value)
  let rec digits (bound value : Nat) (read : List Char) : List Char :=
    match bound with
    | 0 => read
    | bound + 1 =>
      let read := digit (value % base) :: read
      if value < base then read else digits bound (value / base) read
  let size := digits (number.natAbs.log2 + 1) number.natAbs []
  WideText.ofString (String.ofList (if number < 0 then '-' :: size else size))

/-! ## Arithmetic -/

/-- The number `value * 2 ^ power`, where it is one of binary64. -/
def scale (value power : Int) : Float :=
  (Float.ofInt value).scaleB power

/-- A finite number as an integer and a power of two. -/
def split (number : Float) : Int × Int :=
  let bits := number.toBits.toNat
  let fraction : Nat := bits % Nat.pow 2 52
  let stored : Nat := bits / Nat.pow 2 52 % Nat.pow 2 11
  let size : Int := if stored = 0 then fraction else Nat.pow 2 52 + fraction
  let power : Int := (if stored = 0 then 1 else stored : Nat)
  (if Nat.pow 2 63 ≤ bits then -size else size, power - 1075)

/-- The remainder of a division whose quotient is cut off toward zero. It has the sign of the
first operand. -/
def remainder (left right : Float) : Float :=
  if left.isNaN || right.isNaN || left.isInf || right == 0.0 then 0.0 / 0.0
  else if right.isInf || left == 0.0 then left
  else
    let (a, p) := split left
    let (b, q) := split right
    let least := min p q
    let result := Int.tmod (a * Nat.pow 2 (p - least).toNat) (b * Nat.pow 2 (q - least).toNat)
    if result = 0 then (if left < 0.0 then -0.0 else 0.0) else scale result least

/-- A number raised to a power. -/
def power (base exponent : Float) : Float :=
  if exponent.isNaN then 0.0 / 0.0
  else if exponent.isInf && base.abs == 1.0 then 0.0 / 0.0
  else base.pow exponent

/-- The number nearest to another among the integers from zero to 255, ties to even. -/
def clampToOctet (number : Float) : Float :=
  if number.isNaN || number ≤ 0.0 then 0.0
  else if 255.0 ≤ number then 255.0
  else
    let below := number.floor
    let rest := number - below
    if rest < 0.5 then below
    else if 0.5 < rest then below + 1.0
    else if remainder below 2.0 == 0.0 then below
    else below + 1.0

/-- A number as an element of a typed array. -/
def toElement (kind : ElementKind) (number : Float) : Float :=
  match kind with
  | .uint8 => Float.ofNat (toUnsigned 8 number)
  | .uint8Clamped => clampToOctet number
  | .uint16 => Float.ofNat (toUnsigned 16 number)
  | .uint32 => Float.ofNat (toUnsigned 32 number)
  | .int8 => Float.ofInt (toSigned 8 number)
  | .int16 => Float.ofInt (toSigned 16 number)
  | .int32 => Float.ofInt (toSigned 32 number)
  | .float32 => number.toFloat32.toFloat
  | .float64 => number

end ScriptShell.Language.Numerals
