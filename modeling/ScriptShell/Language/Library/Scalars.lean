import ScriptShell.Language.Operators

/-!
# Numbers, booleans, symbols and large integers

The constructors and methods of the primitive values other than strings.
-/

namespace ScriptShell.Language.Run

/-! ## The value behind `this` -/

/-- The primitive value that a method works on: `this`, or what is in it if it is an object. -/
def unboxed (this : Value) : Run Value := do
  match this with
  | .object id =>
    match (← object id).kind with
    | .boxed value => return value
    | _ => return this
  | _ => return this

/-- A primitive value in an object. -/
def constructBoxed (className : ClassName) (value target : Value) : Run Value := do
  return .object (← newBoxed (← prototypeFor target className) value)

/-! ## Numbers -/

/-- The number that the constructor of numbers makes of its argument. -/
def numberFrom (arguments : List Value) : Run Value := do
  match arguments with
  | [] => return .number 0.0
  | value :: _ =>
    match ← toNumeric value with
    | .bigint integer => return .number (Float.ofInt integer)
    | number => return number

/-- The number of `this`. -/
def thisNumber (this : Value) : Run Float := do
  match ← unboxed this with
  | .number number => return number
  | _ => typeError "'this' is not a number"

/-- The digits of a fraction in a base, up to a number of them. -/
def fractionDigits (base : Nat) : Nat → Float → List Char
  | 0, _ => []
  | bound + 1, fraction =>
    if fraction == 0.0 then []
    else
      let scaled := fraction * Float.ofNat base
      let digit := scaled.floor
      Nat.digitChar digit.toUInt64.toNat :: fractionDigits base bound (scaled - digit)

/-- The text of a number in a base. -/
def numberInBase (base : Nat) (number : Float) : WideText :=
  if base = 10 || number.isNaN || number.isInf then Numerals.toText number
  else
    let whole := Numerals.toInteger number
    let sign := if number < 0.0 then "-" else ""
    let digits := (Numerals.integerToText base ((Numerals.truncate? whole.abs).getD 0)).escaped
    let fraction := fractionDigits base 52 (number - whole).abs
    WideText.ofString
      (sign ++ digits ++ if fraction.isEmpty then "" else "." ++ String.ofList fraction)

/-- The base that an argument names, ten if there is none. -/
def baseOf (arguments : List Value) : Run Nat := do
  match argument arguments 0 with
  | .undefined => return 10
  | value =>
    let base := Numerals.toInteger (← toNumber value)
    if 2.0 ≤ base && base ≤ 36.0 then return base.toUInt64.toNat
    else fail .range "radix must be an integer at least 2 and no greater than 36"

/-- The text of a number. -/
def numberToString (this : Value) (arguments : List Value) : Run Value := do
  let number ← thisNumber this
  return .text (numberInBase (← baseOf arguments) number)

/-- The number itself. -/
def numberValueOf (this : Value) : Run Value := do
  return .number (← thisNumber this)

/-! ## Booleans -/

/-- The boolean of `this`. -/
def thisBoolean (this : Value) : Run Bool := do
  match ← unboxed this with
  | .boolean value => return value
  | _ => typeError "'this' is not a boolean"

/-- The text of a boolean. -/
def booleanToString (this : Value) : Run Value := do
  return .ofString (if ← thisBoolean this then "true" else "false")

/-- The boolean itself. -/
def booleanValueOf (this : Value) : Run Value := do
  return .boolean (← thisBoolean this)

/-! ## Symbols -/

/-- A new symbol. -/
def newSymbol (arguments : List Value) : Run Value := do
  let description ← match argument arguments 0 with
    | .undefined => pure none
    | value => some <$> toText value
  makeIn fun store =>
    (.symbol ⟨store.nextSymbol, description⟩, { store with nextSymbol := store.nextSymbol + 1 })

/-- The symbol of `this`. -/
def thisSymbol (this : Value) : Run Symbol := do
  match ← unboxed this with
  | .symbol symbol => return symbol
  | _ => typeError "'this' is not a Symbol"

/-- A symbol in words. -/
def symbolToString (this : Value) : Run Value := do
  return .text (← thisSymbol this).describe

/-- The symbol itself. -/
def symbolValueOf (this : Value) : Run Value := do
  return .symbol (← thisSymbol this)

/-- The description of a symbol. -/
def symbolDescription (this : Value) : Run Value := do
  match (← thisSymbol this).description with
  | some description => return .text description
  | none => return .undefined

/-! ## Integers of unbounded size -/

/-- The integer that the constructor of large integers makes of its argument. -/
def bigintFrom (arguments : List Value) : Run Value := do
  match ← toPrimitive .number (argument arguments 0) with
  | .bigint value => return .bigint value
  | .boolean value => return .bigint (if value then 1 else 0)
  | .number number =>
    match Numerals.truncate? number with
    | some value =>
      if number.floor == number then return .bigint value
      else fail .range ("cannot convert " ++ (Numerals.toText number).escaped ++ " to a BigInt")
    | none =>
      fail .range ("cannot convert " ++ (Numerals.toText number).escaped ++ " to a BigInt")
  | .text text =>
    match Numerals.bigintOfText? text with
    | some value => return .bigint value
    | none =>
      fail .syntaxError ("cannot convert string '" ++ text.escaped ++ "' to bigint primitive")
  | value => typeError ("cannot convert " ++ (← typeOf value) ++ " to a BigInt")

/-- The integer of `this`. -/
def thisBigint (this : Value) : Run Int := do
  match ← unboxed this with
  | .bigint value => return value
  | _ => typeError "'this' is not a BigInt"

/-- The text of an integer. -/
def bigintToString (this : Value) (arguments : List Value) : Run Value := do
  let value ← thisBigint this
  return .text (Numerals.integerToText (← baseOf arguments) value)

/-- The integer itself. -/
def bigintValueOf (this : Value) : Run Value := do
  return .bigint (← thisBigint this)

end ScriptShell.Language.Run
