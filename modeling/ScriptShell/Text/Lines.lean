import ScriptShell.Text.Utf8

/-!
# Lines

Two notions of a line. Standard input is consumed in *chunks*: each ends just after a newline
octet, the last one at the end of the input, and `chomp` removes the one newline that may end
it. A stack text is cut into *lines* for display: a newline ends a line, a carriage return directly
before that newline belongs to the ending, and nothing follows a final newline.
-/

namespace ScriptShell

namespace Bytes

/-- The newline octet. -/
def newline : UInt8 := 0x0A

/-- The first chunk, its newline included, and what stands behind it. -/
def takeChunk (bytes : Bytes) : Bytes × Bytes :=
  match bytes.span (· != newline) with
  | (line, []) => (line, [])
  | (line, ending :: rest) => (line ++ [ending], rest)

/-- A chunk without the newline that may end it. -/
def chomp (chunk : Bytes) : Bytes :=
  if chunk.getLast? = some newline then chunk.dropLast else chunk

end Bytes

namespace Lines

/-- The text of a line that a newline ended: a final carriage return belongs to the ending. -/
def dropReturn (line : List Char) : List Char :=
  if line.getLast? = some '\r' then line.dropLast else line

/-- The lines behind those already found, where `current` holds the line begun, backwards. -/
def splitOnto (current : List Char) : List Char → List (List Char)
  | [] => if current = [] then [] else [current.reverse]
  | c :: rest =>
    if c = '\n' then dropReturn current.reverse :: splitOnto [] rest
    else splitOnto (c :: current) rest

/-- The lines of a text. -/
def split (text : String) : List String :=
  (splitOnto [] text.toList).map String.ofList

end Lines

end ScriptShell
