import ScriptShell.Session.Batch
import ScriptShell.Session.Shell

/-!
# The program

One run of the program, from its arguments to its exit status. The phases follow each other: the
command line is read; the options are listed on demand; the scripts run; the shell follows if it
was asked for and every script succeeded; the exit status is reported on demand; the profile is
saved; the samples are shown. A script that calls `quit` ends the run with status zero at once.
-/

namespace ScriptShell

/-- What surrounds a run of the program. -/
structure Surroundings where
  /-- The arguments behind the name of the program. -/
  arguments : List Bytes
  /-- All of standard input. -/
  input : Bytes
  files : Files
  /-- The setting that holds the log filter. -/
  logSetting : Option String
  clock : Clock
  /-- The help text of the command line. -/
  usage : String

/-- How a run of the program ended. -/
structure Outcome where
  status : Nat
  /-- What the run did, in order. -/
  journal : List Entry
  files : Files
  /-- The samples at the end. -/
  sampler : Sampler

namespace Program

variable {engine : Engine}

/-- The status of a run in which a script failed or could not be read. -/
def failureStatus : Nat := 3

/-- The line that reports the exit status. -/
def exitLine (status : Nat) : String :=
  "jsc exiting " ++ status.repr ++ "\n"

/-- Writes the profile into a file. Where profiling is off there is nothing to write. -/
def saveProfile (path : String) : Host engine (Except Failure Unit) := do
  let session ← get
  match session.profile with
  | none => return .ok ()
  | some records =>
    match session.files.write path (Bytes.ofString (Profile.render records)) with
    | .ok files =>
      set { session with files := files }
      Host.note (.fileWritten path none)
      return .ok ()
    | .error error =>
      Host.note (.fileWritten path (some error))
      return .error (.io error)

/-- Saves the profile, if a path for it was given; a failure is reported and changes nothing. -/
def saveProfileTo : Option String → Host engine Unit
  | none => return ()
  | some path => do
    match ← saveProfile path with
    | .ok () => return ()
    | .error failure =>
      Host.log (.profileNotSaved path failure)
      Host.write .stderr "could not save profiler output.\n"

/-- Shows the samples, if the sampler is enabled and the options ask for it. -/
def dumpSamples : Host engine Unit := do
  let session ← get
  if session.sampler.enabled && session.options.dumpSampleData then
    Host.write .stderr session.sampler.dump

/-- The phases of a run with a configuration; the result is the exit status. -/
def phases (budget : Nat) (configuration : CommandLine.Configuration) : Host engine Nat := do
  match ← (Host.createEnvironment configuration.trailingArguments).run with
  | .error fault =>
    let text := engine.faultText fault (← get).store
    Host.write .stderr ((Failure.engine text).message ++ "\n")
    return failureStatus
  | .ok environment =>
    let success ←
      Host.runScripts budget environment .stdout configuration.dump configuration.scripts
    if configuration.interactive && success then
      Host.shell budget environment .stdout
    let status := if success then 0 else failureStatus
    if configuration.reportExit then Host.write .stdout (exitLine status)
    saveProfileTo configuration.profilePath
    dumpSamples
    return status

/-- A run with a configuration. A run that exceeds its budget ends with the failure status. -/
def runConfiguration (engine : Engine) (budget : Nat) (surroundings : Surroundings)
    (configuration : CommandLine.Configuration) : Outcome :=
  let session := Session.start engine configuration.options configuration.profilePath.isSome
    surroundings.input surroundings.files surroundings.clock
  let listing := if configuration.dumpOptions then
      [Entry.wrote .stderr configuration.options.dump]
    else []
  let (ending, session) := (phases budget configuration).run.run session
  { status := match ending with
      | .ok status => status
      | .error .quit => 0
      | .error .exhausted => failureStatus
    journal := listing ++ session.journal
    files := session.files
    sampler := session.sampler }

/-- A run that only writes to standard error. -/
def printOnly (surroundings : Surroundings) (status : Nat) (texts : List String) : Outcome :=
  { status := status
    journal := texts.map fun text => .wrote .stderr text
    files := surroundings.files
    sampler := { enabled := false } }

/-- A run of the program. -/
def run (engine : Engine) (budget : Nat) (surroundings : Surroundings) : Outcome :=
  match CommandLine.parse (surroundings.arguments.map Utf8.decodeLossy) with
  | .error error =>
    printOnly surroundings 1 [error.message ++ "\n", surroundings.usage]
  | .ok .help => printOnly surroundings 0 [surroundings.usage]
  | .ok (.listOptions options) => printOnly surroundings 0 [options.dump]
  | .ok (.run configuration) => runConfiguration engine budget surroundings configuration

end Program

/-- The text on standard output of a run. -/
def Outcome.stdout (outcome : Outcome) : String :=
  Entry.written .stdout outcome.journal

/-- The text on standard error of a run, under a setting of the log filter. -/
def Outcome.stderr (outcome : Outcome) (subscriber : LogSubscriber) (logSetting : Option String) :
    String :=
  Entry.diagnostics subscriber (subscriber.filterOf logSetting) outcome.journal

end ScriptShell
