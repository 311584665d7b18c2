/-!
# Failures of the shell

What can go wrong outside the scripts, and how it is worded.
-/

namespace ScriptShell

/-- An input or output error: one of the operating system, or one with a text of its own. -/
inductive IoError where
  | system (number : Nat)
  | other (text : String)
  deriving DecidableEq, Repr

namespace IoError

/-- A path names nothing. -/
def notFound : IoError := .system 2

/-- A file may not be opened. -/
def notPermitted : IoError := .system 13

/-- A path leads through something that is no directory. -/
def notDirectory : IoError := .system 20

/-- A path names a directory where a file is needed. -/
def isDirectory : IoError := .system 21

/-- A path or one of its components is too long. -/
def nameTooLong : IoError := .system 36

/-- A path contains a NUL character. -/
def nulInPath : IoError := .other "file name contained an unexpected NUL byte"

/-- The operating system's words for the numbers of its errors, from 1 on. -/
def descriptions : List String :=
  ["Operation not permitted", "No such file or directory", "No such process",
    "Interrupted system call", "Input/output error", "No such device or address",
    "Argument list too long", "Exec format error", "Bad file descriptor", "No child processes",
    "Resource temporarily unavailable", "Cannot allocate memory", "Permission denied",
    "Bad address", "Block device required", "Device or resource busy", "File exists",
    "Invalid cross-device link", "No such device", "Not a directory", "Is a directory",
    "Invalid argument", "Too many open files in system", "Too many open files",
    "Inappropriate ioctl for device", "Text file busy", "File too large",
    "No space left on device", "Illegal seek", "Read-only file system", "Too many links",
    "Broken pipe", "Numerical argument out of domain", "Numerical result out of range",
    "Resource deadlock avoided", "File name too long", "No locks available",
    "Function not implemented", "Directory not empty", "Too many levels of symbolic links"]

/-- The operating system's words for the number of an error. -/
def describe (number : Nat) : String :=
  if number = 0 then "Success"
  else (descriptions[number - 1]?).getD ("Unknown error " ++ number.repr)

/-- The text of an error. -/
def message : IoError → String
  | .system number => describe number ++ " (os error " ++ number.repr ++ ")"
  | .other text => text

end IoError

/-- A failure of the shell itself. -/
inductive Failure where
  /-- A script that cannot be opened or read. -/
  | file (path : String)
  /-- A command line that cannot be read. -/
  | usage (text : String)
  /-- The engine could not set up an environment. -/
  | engine (text : String)
  /-- Any other input or output. -/
  | io (error : IoError)
  deriving DecidableEq, Repr

/-- The text of a failure. -/
def Failure.message : Failure → String
  | .file path => "Could not open file: " ++ path
  | .usage text => text
  | .engine text => "engine error: " ++ text
  | .io error => "I/O error: " ++ error.message

end ScriptShell
