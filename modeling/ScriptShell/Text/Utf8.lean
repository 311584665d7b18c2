/-!
# UTF-8

The encoding form of Unicode text over octets, from both sides: `encode` writes characters, and
`decode?` reads a sequence of octets that is well formed from end to end. The rows of well formed
sequences are the four predicates `leadsOne` to `formsFour`; they exclude overlong forms,
surrogates and values above U+10FFFF.

`decodeLossy` reads any sequence of octets. Each maximal ill-formed part, that is the longest
start of a well formed sequence that cannot be continued, or else a single octet, becomes one
replacement character.
-/

namespace ScriptShell

/-- A sequence of octets. -/
abbrev Bytes := List UInt8

namespace Utf8

/-! ## Writing -/

/-- The octets of one character. -/
def encodeChar (character : Char) : Bytes :=
  let scalar := character.toNat
  if scalar < 0x80 then
    [scalar.toUInt8]
  else if scalar < 0x800 then
    [(0xC0 + scalar / 0x40).toUInt8, (0x80 + scalar % 0x40).toUInt8]
  else if scalar < 0x10000 then
    [(0xE0 + scalar / 0x1000).toUInt8, (0x80 + scalar / 0x40 % 0x40).toUInt8,
      (0x80 + scalar % 0x40).toUInt8]
  else
    [(0xF0 + scalar / 0x40000).toUInt8, (0x80 + scalar / 0x1000 % 0x40).toUInt8,
      (0x80 + scalar / 0x40 % 0x40).toUInt8, (0x80 + scalar % 0x40).toUInt8]

/-- The octets of a sequence of characters. -/
def encode (characters : List Char) : Bytes :=
  characters.flatMap encodeChar

/-! ## The rows of well formed sequences -/

/-- An octet that may stand at any place after the first. -/
def isTail (octet : UInt8) : Bool :=
  0x80 ≤ octet && octet ≤ 0xBF

/-- An octet that is a character of its own. -/
def leadsOne (first : UInt8) : Bool :=
  first < 0x80

/-- Two octets that form a character. -/
def formsTwo (first second : UInt8) : Bool :=
  0xC2 ≤ first && first ≤ 0xDF && isTail second

/-- The first two octets of a character of three. -/
def startsThree (first second : UInt8) : Bool :=
  if first = 0xE0 then 0xA0 ≤ second && second ≤ 0xBF
  else if first = 0xED then 0x80 ≤ second && second ≤ 0x9F
  else 0xE1 ≤ first && first ≤ 0xEF && isTail second

/-- Three octets that form a character. -/
def formsThree (first second third : UInt8) : Bool :=
  startsThree first second && isTail third

/-- The first two octets of a character of four. -/
def startsFour (first second : UInt8) : Bool :=
  if first = 0xF0 then 0x90 ≤ second && second ≤ 0xBF
  else if first = 0xF4 then 0x80 ≤ second && second ≤ 0x8F
  else 0xF1 ≤ first && first ≤ 0xF3 && isTail second

/-- Four octets that form a character. -/
def formsFour (first second third fourth : UInt8) : Bool :=
  startsFour first second && isTail third && isTail fourth

/-- The payload of an octet after the first. -/
def tailBits (octet : UInt8) : Nat :=
  octet.toNat % 0x40

/-- The character that one octet is. -/
def one (first : UInt8) : Char :=
  Char.ofNat first.toNat

/-- The character that two octets form. -/
def two (first second : UInt8) : Char :=
  Char.ofNat (first.toNat % 0x20 * 0x40 + tailBits second)

/-- The character that three octets form. -/
def three (first second third : UInt8) : Char :=
  Char.ofNat (first.toNat % 0x10 * 0x1000 + tailBits second * 0x40 + tailBits third)

/-- The character that four octets form. -/
def four (first second third fourth : UInt8) : Char :=
  Char.ofNat (first.toNat % 0x08 * 0x40000 + tailBits second * 0x1000 + tailBits third * 0x40 +
    tailBits fourth)

/-! ## Reading -/

/-- Reads well formed octets onto the characters already read, the last one first. -/
def decodeOnto? (read : List Char) : Bytes → Option (List Char)
  | [] => some read.reverse
  | a :: rest =>
    if leadsOne a then decodeOnto? (one a :: read) rest
    else match rest with
      | [] => none
      | b :: rest =>
        if formsTwo a b then decodeOnto? (two a b :: read) rest
        else match rest with
          | [] => none
          | c :: rest =>
            if formsThree a b c then decodeOnto? (three a b c :: read) rest
            else match rest with
              | [] => none
              | d :: rest =>
                if formsFour a b c d then decodeOnto? (four a b c d :: read) rest else none

/-- The characters whose encoding the octets are, if they are one. -/
def decode? (bytes : Bytes) : Option (List Char) :=
  decodeOnto? [] bytes

/-- The character that stands for octets that are not text. -/
def replacement : Char := '\uFFFD'

/-- Reads octets onto the characters already read, with a replacement for each ill-formed part. -/
def decodeLossyOnto (read : List Char) : Bytes → List Char
  | [] => read.reverse
  | a :: rest =>
    if leadsOne a then decodeLossyOnto (one a :: read) rest
    else match rest with
      | [] => decodeLossyOnto (replacement :: read) []
      | b :: rest' =>
        if formsTwo a b then decodeLossyOnto (two a b :: read) rest'
        else if startsThree a b then
          match rest' with
          | [] => decodeLossyOnto (replacement :: read) []
          | c :: rest'' =>
            if isTail c then decodeLossyOnto (three a b c :: read) rest''
            else decodeLossyOnto (replacement :: read) (c :: rest'')
        else if startsFour a b then
          match rest' with
          | [] => decodeLossyOnto (replacement :: read) []
          | c :: rest'' =>
            if isTail c then
              match rest'' with
              | [] => decodeLossyOnto (replacement :: read) []
              | d :: rest''' =>
                if isTail d then decodeLossyOnto (four a b c d :: read) rest'''
                else decodeLossyOnto (replacement :: read) (d :: rest''')
            else decodeLossyOnto (replacement :: read) (c :: rest'')
        else decodeLossyOnto (replacement :: read) (b :: rest')

/-- The octets as text, with a replacement character for each maximal ill-formed part. -/
def decodeLossy (bytes : Bytes) : String :=
  String.ofList (decodeLossyOnto [] bytes)

end Utf8

/-- The octets of a text. -/
def Bytes.ofString (text : String) : Bytes :=
  Utf8.encode text.toList

end ScriptShell
