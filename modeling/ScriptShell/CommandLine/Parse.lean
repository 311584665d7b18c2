import ScriptShell.CommandLine.Segment

/-!
# Reading a command line

`parse` turns the arguments of the process into a `Request`: a configuration to run, or one of
the two requests that only print. The segments are applied from left to right, so assignments
that stand behind `--options` count as well.
-/

namespace ScriptShell

/-- One unit of work of a run. -/
inductive Script where
  /-- A path, read when its turn comes. -/
  | file (path : String)
  /-- Source text. -/
  | inline (code : String)
  deriving DecidableEq, Repr

/-- The path or the source text. -/
def Script.payload : Script → String
  | .file path => path
  | .inline code => code

namespace CommandLine

/-- What a run of the program is to do. -/
structure Configuration where
  scripts : List Script := []
  interactive : Bool := false
  dump : Bool := false
  profilePath : Option String := none
  reportExit : Bool := false
  crashHandlers : Bool := false
  dumpOptions : Bool := false
  options : Options := {}
  trailingArguments : List String := []
  deriving DecidableEq, Repr, Inhabited

/-- What a command line asks for. -/
inductive Request where
  | run (configuration : Configuration)
  | help
  | listOptions (options : Options)
  deriving DecidableEq, Repr

/-- A command line that cannot be read: the value of its last flag is missing. -/
inductive UsageError where
  | missingValue (flag : ValueFlag)
  deriving DecidableEq, Repr

/-- The text of a usage error. -/
def UsageError.message : UsageError → String
  | .missingValue flag => "missing argument for `" ++ flag.spelling ++ "`"

/-- A configuration with one more segment. -/
def Configuration.apply (configuration : Configuration) : Segment → Configuration
  | .file path | .bare path =>
    { configuration with scripts := configuration.scripts ++ [.file path] }
  | .inline code => { configuration with scripts := configuration.scripts ++ [.inline code] }
  | .profile path => { configuration with profilePath := some path }
  | .interactive => { configuration with interactive := true }
  | .dump => { configuration with dump := true }
  | .crashHandlers => { configuration with crashHandlers := true }
  | .reportExit => { configuration with reportExit := true }
  | .listOptions | .dumpOptions => { configuration with dumpOptions := true }
  | .assignment text => { configuration with options := configuration.options.assign text }

/-- The configuration that segments and trailing arguments describe: the shell is the default
where there is no script. -/
def Configuration.ofSegments (segments : List Segment) (trailing : List String) :
    Configuration :=
  let configuration := segments.foldl Configuration.apply {}
  { configuration with
    interactive := configuration.interactive || configuration.scripts.isEmpty
    trailingArguments := trailing }

/-- The request of a command line without help and without a missing value. -/
def Request.ofSegments (segments : List Segment) (trailing : List String) : Request :=
  let configuration := Configuration.ofSegments segments trailing
  if segments.contains .listOptions then .listOptions configuration.options
  else .run configuration

/-- Reads the arguments of the process. -/
def parse (arguments : List String) : Except UsageError Request :=
  match split arguments with
  | (segments, .complete) => .ok (.ofSegments segments [])
  | (segments, .trailing rest) => .ok (.ofSegments segments rest)
  | (_, .help _ _) => .ok .help
  | (_, .missing flag) => .error (.missingValue flag)

end CommandLine

end ScriptShell
