/-!
# Fields of text

Text at the end of a field of some width.
-/

namespace ScriptShell

/-- A text at the end of a field of at least so many characters. -/
def padLeft (width : Nat) (filler : Char) (text : List Char) : List Char :=
  List.replicate (width - text.length) filler ++ text

end ScriptShell
