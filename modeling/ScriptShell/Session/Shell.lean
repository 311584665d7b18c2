import ScriptShell.Session.Natives

/-!
# The interactive shell

The shell prompts, reads a line, evaluates it and writes its value or its exception, until a line
is empty or there is none. A line is empty if it has no octet before its newline. The lines come
from a text of their own or from the standard input of the session, where the native `readline`
takes lines as well.
-/

namespace ScriptShell

variable {engine : Engine}

namespace Host

/-- What the shell writes before it reads a line. -/
def prompt : String := "> "

/-- The source name of a line of the shell. -/
def interpreterSource : String := "Interpreter"

/-- Evaluates a line and writes its value, or the message of what it threw. -/
def evaluateLine (budget : Nat) (environment : Realm) (out : Channel) (line : String) :
    Host engine Unit := do
  match ← evaluateIn budget environment line interpreterSource with
  | .completed value =>
    write out ((← stringifyIn budget environment value) ++ "\n")
  | .threw _ info => write out info.headline

/-- The shell on the standard input of the session, for a number of lines at most. -/
def shellLines (budget : Nat) (environment : Realm) (out : Channel) : Nat → Host engine Unit
  | 0 => throw .exhausted
  | lines + 1 => do
    write out prompt
    let line ← readLine
    if line = [] then write out "\n"
    else
      evaluateLine budget environment out (decode line)
      shellLines budget environment out lines

/-- The shell on the standard input of the session. It reads no more lines than there are newlines
in it, and one. -/
def shell (budget : Nat) (environment : Realm) (out : Channel) : Host engine Unit := do
  shellLines budget environment out ((← get).input.length + 1)

/-- The shell on a text of its own, given as octets, for a number of lines at most. It gives what is
left of the text. -/
def shellOnLines (budget : Nat) (environment : Realm) (out : Channel) :
    Nat → Bytes → Host engine Bytes
  | 0, _ => throw .exhausted
  | lines + 1, input => do
    write out prompt
    let (chunk, rest) := input.takeChunk
    if chunk.chomp = [] then
      write out "\n"
      return rest
    else
      evaluateLine budget environment out (decode chunk.chomp)
      shellOnLines budget environment out lines rest

/-- The shell on a text of its own. It gives what is left of the text. -/
def shellOn (budget : Nat) (environment : Realm) (out : Channel) (input : Bytes) :
    Host engine Bytes :=
  shellOnLines budget environment out (input.length + 1) input

end Host

end ScriptShell
