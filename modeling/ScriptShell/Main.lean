import ScriptShell.Language.Regions
import ScriptShell.Log.Directives
import ScriptShell.Program

/-!
# The command

The outer layer of the program. A run is a function of what surrounds it, so this layer only finds
out what a run asks for. It starts with an empty tree of files and an empty input. Where the run
asks for a file or a line that is not known yet, the layer looks it up and runs again. Two such runs
agree up to the first request in which they differ, so what was written before it is written out at
once.
-/

namespace ScriptShell.Command

/-! ## What is known -/

/-- What is known of the surroundings so far. -/
structure Known where
  surroundings : Surroundings
  /-- The paths that were looked up. -/
  paths : List String := []
  /-- Whether standard input came to its end. -/
  inputEnded : Bool := false
  /-- How many entries of the journal were written out. -/
  written : Nat := 0

/-- What a run asks for. -/
inductive Request where
  | file (path : String)
  | line

/-- What an entry of the journal asks for, if it is not known yet. -/
def Known.request? (known : Known) : Entry → Option Request
  | .fileRead path false | .fileWritten path (some _) =>
    if known.paths.contains path then none else some (.file path)
  | .lineRead [] => if known.inputEnded then none else some .line
  | _ => none

/-- The path of the directory that a path leads through last. -/
def directoryOf (path : String) : String :=
  "/".intercalate (Files.components path).dropLast

/-! ## Looking things up -/

/-- The content of a file, if it can be read. -/
def contentOf (path : String) : IO (Option Bytes) := do
  try
    return some (← IO.FS.readBinFile path).toList
  catch _ => return none

/-- Whether a path names a directory. -/
def isDirectory (path : String) : IO Bool := do
  try
    (← IO.FS.realPath path).isDir
  catch _ => return false

/-- Whether a path names anything. -/
def isThere (path : String) : IO Bool := do
  try
    (← IO.FS.realPath path).pathExists
  catch _ => return false

/-- The files with what a path names, or else with the directory that it leads through. What is there
and cannot be read may not be opened. -/
def addKnown (files : Files) (path : String) : IO Files := do
  match ← contentOf path with
  | some content => return files.addFile path content
  | none =>
    let directory := directoryOf path
    if ← isDirectory path then return files.addDirectory path
    else if ← isThere path then return files.addLocked path
    else if directory != "" && (← isDirectory directory) then return files.addDirectory directory
    else return files

/-- Looks up what a run asks for. -/
def Known.answer (known : Known) : Request → IO Known
  | .file path => do
    let files ← addKnown known.surroundings.files path
    return { known with
      surroundings := { known.surroundings with files := files }
      paths := path :: known.paths }
  | .line => do
    let line ← (← IO.getStdin).getLine
    return { known with
      surroundings :=
        { known.surroundings with
          input := known.surroundings.input ++ Bytes.ofString line }
      inputEnded := line.isEmpty }

/-! ## Writing -/

/-- Writes out what an entry of the journal says. -/
def writeEntry (subscriber : LogSubscriber) (filter : subscriber.Filter) (files : Files)
    (place : Nat) : Entry → IO Unit
  | .wrote .stdout text => do
    (← IO.getStdout).putStr text
    (← IO.getStdout).flush
  | .wrote .stderr text => do (← IO.getStderr).putStr text
  | .logged event => do
    if subscriber.enabled filter event.metadata then
      (← IO.getStderr).putStr (subscriber.line place event)
  | .fileWritten path none => do
    match files.read path with
    | .ok content => IO.FS.writeBinFile path ⟨content.toArray⟩
    | .error _ => return ()
  | _ => return ()

/-! ## Running -/

/-- The budget of a run. -/
def budget : Nat := Nat.pow 2 62

/-- Runs until nothing is asked for that is not known; the result is the exit status. -/
partial def run (known : Known) : IO Nat := do
  let outcome := Program.run Language.regional budget known.surroundings
  let subscriber := LogDirective.subscriber
  let filter := subscriber.filterOf known.surroundings.logSetting
  let certain := outcome.journal.takeWhile fun entry => (known.request? entry).isNone
  for (entry, place) in certain.zipIdx.drop known.written do
    writeEntry subscriber filter outcome.files place entry
  match (outcome.journal.drop certain.length).head?.bind known.request? with
  | none => return outcome.status
  | some request =>
    run (← { known with written := max known.written certain.length }.answer request)

/-- The help text. -/
def usage : String :=
  "Usage: jsc [options] [files] [-- arguments]\n" ++
  "\n" ++
  "Arguments:\n" ++
  "  [files]...  Source files, run in order\n" ++
  "\n" ++
  "Options:\n" ++
  "  -d                 Prints the completion value of every script\n" ++
  "  -e <code>          Evaluate argument as script code\n" ++
  "  -f <file>          Specifies a source file (deprecated)\n" ++
  "  -h, --help         Prints this help message\n" ++
  "  -i                 Enables interactive mode (default if no files are specified)\n" ++
  "  -s                 Exits immediately with status 3 if the shell itself crashes\n" ++
  "  -p <file>          Outputs profiling data to a file\n" ++
  "  -x                 Output exit code before terminating\n" ++
  "      --options      Dumps all engine options and exits\n" ++
  "      --dumpOptions  Dumps all engine options before continuing\n" ++
  "\n" ++
  "  --<engine option>=<value>  Sets the specified engine option\n"

/-- The surroundings of this process, before any file or input is known. -/
def surroundings (arguments : List String) : IO Surroundings := do
  let directory := (← IO.currentDir).toString
  return {
    arguments := arguments.map Bytes.ofString
    input := []
    files := Files.within ((Files.components directory).filter (· != ""))
    logSetting := ← IO.getEnv "JSC_LOG"
    clock := .ticking (← IO.monoNanosNow)
    usage := usage }

end ScriptShell.Command

/-- The command line of the shell. -/
def main (arguments : List String) : IO UInt32 := do
  let surroundings ← ScriptShell.Command.surroundings arguments
  return (← ScriptShell.Command.run { surroundings := surroundings }).toUInt32
