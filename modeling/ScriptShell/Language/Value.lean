import ScriptShell.Engine
import ScriptShell.Language.Syntax

/-!
# Values of the script language

Primitive values stand for themselves; objects and scopes are named by numbers under which the
store holds them. The keys of properties are integer indices, other texts, and symbols; a text that
spells an index is always the index.
-/

namespace ScriptShell.Language

/-- The name of an object in the store. -/
abbrev ObjectId := Nat

/-- The name of a scope. One that is made has a place in the store. That of a script is nowhere
stored: it shows the bindings that another scope has of some names. -/
inductive ScopeId where
  | made (place : Nat)
  | script (keeper : ScopeId) (names : List String)

/-- A symbol. -/
structure Symbol where
  id : Nat
  description : Option WideText
  deriving DecidableEq

namespace Symbol

/-- The symbol of the method that iterates. -/
def iterator : Symbol := ⟨0, some (WideText.ofString "Symbol.iterator")⟩

/-- The symbol of the method that converts to a primitive value. -/
def toPrimitive : Symbol := ⟨1, some (WideText.ofString "Symbol.toPrimitive")⟩

/-- The symbol of the tag in the text of an object. -/
def toStringTag : Symbol := ⟨2, some (WideText.ofString "Symbol.toStringTag")⟩

/-- The symbol of the method that decides `instanceof`. -/
def hasInstance : Symbol := ⟨3, some (WideText.ofString "Symbol.hasInstance")⟩

/-- The number of the first symbol that a script makes. -/
def firstFree : Nat := 16

/-- A symbol in words. -/
def describe (symbol : Symbol) : WideText :=
  WideText.ofString "Symbol(" ++ symbol.description.getD .empty ++ WideText.ofString ")"

end Symbol

/-- A value of the script language. -/
inductive Value where
  | undefined
  | null
  | boolean (value : Bool)
  | number (value : Float)
  | bigint (value : Int)
  | text (value : WideText)
  | symbol (value : Symbol)
  | object (id : ObjectId)
  deriving Inhabited

namespace Value

/-- A text as a value. -/
def ofString (text : String) : Value :=
  .text (WideText.ofString text)

/-- A natural number as a value. -/
def ofNat (number : Nat) : Value :=
  .number (Float.ofNat number)

/-- Whether a value is `undefined` or `null`. -/
def isNullish : Value → Bool
  | .undefined | .null => true
  | _ => false

/-- Whether a value is an object. -/
def isObject : Value → Bool
  | .object _ => true
  | _ => false

/-- The word for the type of a primitive value. -/
def typeName : Value → String
  | .undefined => "undefined"
  | .null => "object"
  | .boolean _ => "boolean"
  | .number _ => "number"
  | .bigint _ => "bigint"
  | .text _ => "string"
  | .symbol _ => "symbol"
  | .object _ => "object"

/-- Whether a value counts as true. -/
def truthy : Value → Bool
  | .undefined | .null => false
  | .boolean value => value
  | .number value => !(value == 0.0 || value.isNaN)
  | .bigint value => value != 0
  | .text value => !value.units.isEmpty
  | .symbol _ | .object _ => true

/-- Strict equality. -/
def same : Value → Value → Bool
  | .undefined, .undefined | .null, .null => true
  | .boolean a, .boolean b => a = b
  | .number a, .number b => a == b
  | .bigint a, .bigint b => a = b
  | .text a, .text b => a = b
  | .symbol a, .symbol b => a = b
  | .object a, .object b => a = b
  | _, _ => false

/-- Equality of the keys of maps and sets: as strict equality, but a NaN equals itself. -/
def sameKey : Value → Value → Bool
  | .number a, .number b => a == b || (a.isNaN && b.isNaN)
  | a, b => a.same b

end Value

/-! ## Keys -/

/-- The key of a property. -/
inductive Key where
  | index (value : Nat)
  | text (value : WideText)
  | symbol (value : Symbol)
  deriving DecidableEq

namespace Key

/-- The greatest index. -/
def greatestIndex : Nat := 4294967294

/-- The number that decimal digits spell, if they are digits only. -/
def digits? (value : Nat) : List UInt16 → Option Nat
  | [] => some value
  | unit :: rest =>
    if 48 ≤ unit && unit ≤ 57 then digits? (value * 10 + (unit.toNat - 48)) rest else none

/-- The index that a text spells, if it does. -/
def indexOf? (text : WideText) : Option Nat :=
  match text.units with
  | [] => none
  | [48] => some 0
  | 48 :: _ => none
  | units =>
    if 10 < units.length then none
    else (digits? 0 units).filter (· ≤ greatestIndex)

/-- The key that a text is. -/
def ofText (text : WideText) : Key :=
  match indexOf? text with
  | some number => .index number
  | none => .text text

/-- The key that a text is. -/
def ofString (text : String) : Key :=
  ofText (WideText.ofString text)

/-- The key of a number that may be too large for an index. -/
def ofNat (number : Nat) : Key :=
  if number ≤ greatestIndex then .index number else .text (WideText.ofString number.repr)

/-- The value that a key is. -/
def toValue : Key → Value
  | .index value => .ofString value.repr
  | .text value => .text value
  | .symbol value => .symbol value

/-- The text of a key. -/
def describe : Key → WideText
  | .index value => WideText.ofString value.repr
  | .text value => value
  | .symbol value => value.describe

/-- The name that a function gets from the key it is stored under. -/
def functionName : Key → WideText
  | .symbol value =>
    match value.description with
    | some description => WideText.ofString "[" ++ description ++ WideText.ofString "]"
    | none => .empty
  | key => key.describe

end Key

end ScriptShell.Language
