import ScriptShell.Text.Decode

/-!
# Script files

The content of a script file as the engine is to see it. A file that starts with `#!` has these
two octets turned into `//`, which makes its first line a comment and moves nothing. The buffer
ends with one zero octet that is no part of the content.
-/

namespace ScriptShell

/-- The octets of a script file with a terminator. -/
structure SourceBuffer where
  withTerminator : Bytes
  deriving DecidableEq, Repr

namespace SourceBuffer

/-- The octets with a leading `#!` turned into `//`. -/
def neutralize : Bytes → Bytes
  | 0x23 :: 0x21 :: rest => 0x2F :: 0x2F :: rest
  | bytes => bytes

/-- The buffer of a file's content. -/
def ofFile (content : Bytes) : SourceBuffer :=
  ⟨neutralize content ++ [0]⟩

/-- The octets without the terminator. -/
def contents (buffer : SourceBuffer) : Bytes :=
  buffer.withTerminator.dropLast

/-- The source text. -/
def text (buffer : SourceBuffer) : String :=
  decode buffer.contents

end SourceBuffer

end ScriptShell
