/-!
# Text in 16-bit code units

Scripts see text as a sequence of 16-bit units in the encoding form UTF-16, where a unit of a
surrogate pair may also stand alone. `WideText.ofString` encodes Unicode text, and
`WideText.escaped` reads it back; a lone surrogate, which is no character, is written as the
six characters of its escape.
-/

namespace ScriptShell

/-- A sequence of 16-bit code units. -/
structure WideText where
  units : List UInt16
  deriving DecidableEq, Hashable, Inhabited

namespace WideText

/-! ## From characters -/

/-- The one or two units of a character. -/
def encodeChar (character : Char) : List UInt16 :=
  let scalar := character.toNat
  if scalar < 0x10000 then [scalar.toUInt16]
  else
    [(0xD800 + (scalar - 0x10000) / 0x400).toUInt16,
      (0xDC00 + (scalar - 0x10000) % 0x400).toUInt16]

/-- The units of a sequence of characters. -/
def encode (characters : List Char) : List UInt16 :=
  characters.flatMap encodeChar

/-- The text in code units. -/
def ofString (text : String) : WideText :=
  ⟨encode text.toList⟩

instance : Coe String WideText := ⟨ofString⟩

/-! ## To characters -/

/-- A unit that begins a surrogate pair. -/
def isHigh (unit : UInt16) : Bool :=
  0xD800 ≤ unit && unit ≤ 0xDBFF

/-- A unit that ends a surrogate pair. -/
def isLow (unit : UInt16) : Bool :=
  0xDC00 ≤ unit && unit ≤ 0xDFFF

/-- The character of a surrogate pair. -/
def pair (high low : UInt16) : Char :=
  Char.ofNat (0x10000 + (high.toNat - 0xD800) * 0x400 + (low.toNat - 0xDC00))

/-- The digit of a number below sixteen, in upper case. -/
def hexDigit (digit : Nat) : Char :=
  if digit < 10 then Char.ofNat (48 + digit) else Char.ofNat (55 + digit)

/-- The escape of a unit that is no character: a backslash, `u` and four digits. -/
def escape (unit : UInt16) : List Char :=
  let value := unit.toNat
  ['\\', 'u', hexDigit (value / 0x1000), hexDigit (value / 0x100 % 0x10),
    hexDigit (value / 0x10 % 0x10), hexDigit (value % 0x10)]

/-- The characters of units, each lone surrogate escaped, behind `written` in reverse. -/
def decodeOnto (written : List Char) : List UInt16 → List Char
  | [] => written.reverse
  | unit :: rest =>
    if isHigh unit then
      match rest with
      | [] => decodeOnto ((escape unit).reverse ++ written) []
      | next :: rest' =>
        if isLow next then decodeOnto (pair unit next :: written) rest'
        else decodeOnto ((escape unit).reverse ++ written) (next :: rest')
    else if isLow unit then decodeOnto ((escape unit).reverse ++ written) rest
    else decodeOnto (Char.ofNat unit.toNat :: written) rest

/-- The text as characters, each lone surrogate as its escape. -/
def escaped (text : WideText) : String :=
  String.ofList (decodeOnto [] text.units)

/-! ## Operations -/

/-- The text of no units. -/
def empty : WideText := ⟨[]⟩

/-- The number of code units. -/
def length (text : WideText) : Nat :=
  text.units.length

/-- One text behind the other. -/
def append (first second : WideText) : WideText :=
  ⟨first.units ++ second.units⟩

instance : Append WideText := ⟨append⟩

/-- The texts in order, with a separator between each two. -/
def join (separator : WideText) : List WideText → WideText
  | [] => empty
  | [last] => last
  | first :: rest => first ++ separator ++ join separator rest

/-- The text, `count` times. -/
def replicate (text : WideText) (count : Nat) : WideText :=
  ⟨(List.replicate count text.units).flatten⟩

/-- Orders texts by their first differing unit. -/
def lessThan : List UInt16 → List UInt16 → Bool
  | _, [] => false
  | [], _ :: _ => true
  | a :: rest, b :: rest' => if a = b then lessThan rest rest' else a < b

end WideText

end ScriptShell
