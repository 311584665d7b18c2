import ScriptShell.Language.Library.Arrays

/-!
# Strings

The methods of strings. Places and lengths count 16-bit units.
-/

namespace ScriptShell.Language.Run

/-! ## Making strings -/

/-- The text that the constructor of strings makes of its argument; a symbol is described. -/
def textFrom (arguments : List Value) : Run WideText := do
  match arguments with
  | [] => return .empty
  | .symbol symbol :: _ => return symbol.describe
  | value :: _ => toText value

/-- A string in an object. -/
def constructString (arguments : List Value) (target : Value) : Run Value := do
  let text ← match arguments with
    | [] => pure .empty
    | value :: _ => toText value
  return .object (← newBoxed (← prototypeFor target .string) (.text text))

/-- The units that numbers name. -/
def unitsOf : List Value → Run (List UInt16)
  | [] => return []
  | value :: rest => do
    let unit := (Numerals.toUnsigned 16 (← toNumber value)).toUInt16
    return unit :: (← unitsOf rest)

/-- The string of the units that numbers name. -/
def stringFromCharCode (arguments : List Value) : Run Value := do
  return .text ⟨← unitsOf arguments⟩

/-! ## Methods -/

/-- The text that a method of strings works on. -/
def thisText (this : Value) : Run WideText := do
  if this.isNullish then typeError "cannot convert 'null' or 'undefined' to string"
  else toText this

/-- The text of a string or of a string in an object. -/
def stringToString (this : Value) : Run Value := do
  match this with
  | .text text => return .text text
  | .object id =>
    match (← object id).kind with
    | .boxed (.text text) => return .text text
    | _ => typeError "'this' is not a string"
  | _ => typeError "'this' is not a string"

/-- The unit at the place that an argument names, if there is one. -/
def unitAt (this : Value) (arguments : List Value) : Run (Option UInt16) := do
  let text ← thisText this
  let place := Numerals.toInteger (← toNumber (argument arguments 0))
  if place < 0.0 then return none
  else return text.units[Numerals.placeIn text.length place]?

/-- The unit at a place as a string. -/
def stringCharAt (this : Value) (arguments : List Value) : Run Value := do
  return .text ⟨(← unitAt this arguments).toList⟩

/-- The unit at a place as a number. -/
def stringCharCodeAt (this : Value) (arguments : List Value) : Run Value := do
  match ← unitAt this arguments with
  | some unit => return .ofNat unit.toNat
  | none => return .number (0.0 / 0.0)

/-- The texts of values. -/
def textsOf : List Value → Run (List WideText)
  | [] => return []
  | value :: rest => do
    let text ← toText value
    return text :: (← textsOf rest)

/-- The texts of this string and the arguments in a row. -/
def stringConcat (this : Value) (arguments : List Value) : Run Value := do
  let text ← thisText this
  return .text (WideText.join .empty (text :: (← textsOf arguments)))

/-- The first place, from some place on, at which a text stands in another one. -/
def placeOfText? (part : List UInt16) (place : Nat) : List UInt16 → Option Nat
  | [] => if part.isEmpty then some place else none
  | unit :: rest =>
    if part.isPrefixOf (unit :: rest) then some place else placeOfText? part (place + 1) rest

/-- The first place of the text of an argument in this string. -/
def searchText (this : Value) (arguments : List Value) : Run (Option Nat) := do
  let text ← thisText this
  let part ← toText (argument arguments 0)
  let number := Numerals.toInteger (← toNumber (argument arguments 1))
  let start := if number < 0.0 then 0 else Numerals.placeIn text.length number
  return placeOfText? part.units start (text.units.drop start)

/-- The first place of a text, or -1. -/
def stringIndexOf (this : Value) (arguments : List Value) : Run Value := do
  match ← searchText this arguments with
  | some place => return .ofNat place
  | none => return .number (-1.0)

/-- Whether a text stands in this string. -/
def stringIncludes (this : Value) (arguments : List Value) : Run Value := do
  return .boolean (← searchText this arguments).isSome

/-- The error for a repetition that is too long. -/
def repeatText : String :=
  "repeat count must be a positive finite number that doesn't overflow the maximum string " ++
    "length (2^32 - 1)"

/-- This string, some number of times. -/
def stringRepeat (this : Value) (arguments : List Value) : Run Value := do
  let text ← thisText this
  let count := Numerals.toInteger (← toNumber (argument arguments 0))
  if count < 0.0 || count.isInf || 4294967295.0 < count * Float.ofNat text.length then
    fail .range repeatText
  else if text.length = 0 then return .text .empty
  else return .text (text.replicate count.toUInt64.toNat)

/-- The part of this string between two places. -/
def stringSlice (this : Value) (arguments : List Value) : Run Value := do
  let text ← thisText this
  let place := fun value : Value => do
    return Numerals.placeIn text.length (Numerals.toInteger (← toNumber value))
  let start ← place (argument arguments 0)
  let stop ← match argument arguments 1 with
    | .undefined => pure text.length
    | value => place value
  return .text ⟨(text.units.take stop).drop start⟩

/-- The characters of units, where a lone surrogate stands for itself. -/
def charactersOf : List UInt16 → List WideText
  | [] => []
  | [unit] => [⟨[unit]⟩]
  | first :: second :: rest =>
    if WideText.isHigh first && WideText.isLow second then ⟨[first, second]⟩ :: charactersOf rest
    else ⟨[first]⟩ :: charactersOf (second :: rest)

/-- An iterator over the characters of this string. -/
def stringIterator (this : Value) : Run Value := do
  newIterator ((charactersOf (← thisText this).units).map Value.text)

end ScriptShell.Language.Run
