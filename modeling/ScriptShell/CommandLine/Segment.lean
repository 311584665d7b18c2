import ScriptShell.Options

/-!
# The segments of a command line

A command line is a sequence of *segments*, each of one or two arguments, and an *ending*. An
argument is read by its place: the value behind `-f`, `-e` or `-p` may be any text at all, and any
argument that is no flag and no accepted option assignment names a file. `split` finds the
segments and the ending, and `Segment.arguments` writes a segment.
-/

namespace ScriptShell.CommandLine

/-- One unit of a command line. -/
inductive Segment where
  /-- `-f` and the path of a script. -/
  | file (path : String)
  /-- `-e` and the code of a script. -/
  | inline (code : String)
  /-- `-p` and the path of the profile. -/
  | profile (path : String)
  /-- `-i` asks for the shell. -/
  | interactive
  /-- `-d` asks for completion values. -/
  | dump
  /-- `-s` ends the process at a crash. -/
  | crashHandlers
  /-- `-x` reports the exit status. -/
  | reportExit
  /-- `--options` lists the engine options and ends. -/
  | listOptions
  /-- `--dumpOptions` lists the engine options and goes on. -/
  | dumpOptions
  /-- An option assignment behind two dashes. -/
  | assignment (text : String)
  /-- The path of a script on its own. -/
  | bare (path : String)
  deriving DecidableEq, Repr

/-- A flag that needs a value. -/
inductive ValueFlag where
  | file
  | inline
  | profile
  deriving DecidableEq, Repr

/-- What follows the segments. -/
inductive Ending where
  /-- The end of the command line. -/
  | complete
  /-- `--` and the arguments of the scripts. -/
  | trailing (arguments : List String)
  /-- `-h` or `--help`; the arguments behind it are not read. -/
  | help (word : String) (unread : List String)
  /-- A last flag whose value is missing. -/
  | missing (flag : ValueFlag)
  deriving DecidableEq, Repr

/-- The spelling of a flag that needs a value. -/
def ValueFlag.spelling : ValueFlag → String
  | .file => "-f"
  | .inline => "-e"
  | .profile => "-p"

/-- The segment of a flag with its value. -/
def ValueFlag.segment : ValueFlag → String → Segment
  | .file => .file
  | .inline => .inline
  | .profile => .profile

/-- The flag that needs a value with a spelling. -/
def ValueFlag.ofSpelling? (word : String) : Option ValueFlag :=
  if word = "-f" then some .file
  else if word = "-e" then some .inline
  else if word = "-p" then some .profile
  else none

/-- The text behind two leading dashes. -/
def longName? (word : String) : Option String :=
  match word.toList with
  | '-' :: '-' :: rest => some (String.ofList rest)
  | _ => none

/-- The segment that a single argument is, when it is no value and ends nothing. -/
def Segment.ofWord (word : String) : Segment :=
  if word = "-i" then .interactive
  else if word = "-d" then .dump
  else if word = "-s" then .crashHandlers
  else if word = "-x" then .reportExit
  else if word = "--options" then .listOptions
  else if word = "--dumpOptions" then .dumpOptions
  else match longName? word with
    | some text => if (Options.readAssignment? text).isSome then .assignment text else .bare word
    | none => .bare word

/-- The arguments that a segment is written with. -/
def Segment.arguments : Segment → List String
  | .file path => ["-f", path]
  | .inline code => ["-e", code]
  | .profile path => ["-p", path]
  | .interactive => ["-i"]
  | .dump => ["-d"]
  | .crashHandlers => ["-s"]
  | .reportExit => ["-x"]
  | .listOptions => ["--options"]
  | .dumpOptions => ["--dumpOptions"]
  | .assignment text => ["--" ++ text]
  | .bare path => [path]

/-- The arguments that an ending is written with. -/
def Ending.arguments : Ending → List String
  | .complete => []
  | .trailing arguments => "--" :: arguments
  | .help word unread => word :: unread
  | .missing flag => [flag.spelling]

/-- The segments of a command line and its ending. -/
def split : List String → List Segment × Ending
  | [] => ([], .complete)
  | word :: rest =>
    match ValueFlag.ofSpelling? word with
    | some flag =>
      match rest with
      | [] => ([], .missing flag)
      | value :: rest =>
        let (segments, ending) := split rest
        (flag.segment value :: segments, ending)
    | none =>
      if word = "--" then ([], .trailing rest)
      else if word = "-h" || word = "--help" then ([], .help word rest)
      else
        let (segments, ending) := split rest
        (Segment.ofWord word :: segments, ending)

end ScriptShell.CommandLine
