import ScriptShell.Text.Lines

/-!
# What is reported of an exception

A message and, where the thrown value has one, the lines of a stack text. The report of a script
run writes the message on the line `Exception: …` and then the stack lines, joined by newlines,
with a newline at the end even where there is no line at all.
-/

namespace ScriptShell

/-- What the shell read out of a thrown value. -/
structure ExceptionInfo where
  message : String
  stack : Option (List String) := none
  deriving DecidableEq, Repr, Inhabited

namespace ExceptionInfo

/-- The information with the lines of a stack text, in place of earlier ones. -/
def withStack (info : ExceptionInfo) (stack : String) : ExceptionInfo :=
  { info with stack := some (Lines.split stack) }

/-- The message and then each stack line behind a newline. -/
def display (info : ExceptionInfo) : String :=
  info.message ++ String.join ((info.stack.getD []).map fun line => "\n" ++ line)

/-- The line that reports the message. -/
def headline (info : ExceptionInfo) : String :=
  "Exception: " ++ info.message ++ "\n"

/-- The report of a script that threw. -/
def report (info : ExceptionInfo) : String :=
  match info.stack with
  | none => info.headline
  | some lines => info.headline ++ "\n".intercalate lines ++ "\n"

end ExceptionInfo

end ScriptShell
