import ScriptShell.Text.Utf8

/-!
# Source text out of octets

A script is text in UTF-8. Octets that are not well formed UTF-8 from end to end are read as
Latin-1 instead, one character for each octet, so every sequence of octets has a text. A byte
order mark is a character like any other.
-/

namespace ScriptShell

/-- The Latin-1 reading: each octet is the character of that number. -/
def latin1 (bytes : Bytes) : List Char :=
  bytes.map fun octet => Char.ofNat octet.toNat

/-- The text of a script: UTF-8 where well formed, Latin-1 otherwise. -/
def decode (bytes : Bytes) : String :=
  match Utf8.decode? bytes with
  | some characters => String.ofList characters
  | none => String.ofList (latin1 bytes)

end ScriptShell
