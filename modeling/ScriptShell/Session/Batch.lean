import ScriptShell.CommandLine.Parse
import ScriptShell.Session.Natives

/-!
# Running a list of scripts

Scripts run one after another in one environment. A script that throws is reported and the next
one runs; a script file that cannot be read ends the run. While a run lasts the sampler is running,
and each script has a sampling window around it, closed after its report is written.
-/

namespace ScriptShell

variable {engine : Engine}

/-- The outcome of one script. -/
structure Execution where
  succeeded : Bool
  /-- The elapsed time, where the sampler is enabled or profiling is on. -/
  elapsedMillis : Option Nat
  exception : Option ExceptionInfo
  deriving DecidableEq, Repr

namespace Host

/-- The source name of a script that is no file. -/
def commandLineSource : String := "[Command Line]"

/-- The name and the source text of a script. -/
def openScript : Script → Host engine (Except Failure (String × String))
  | .inline code => return .ok (commandLineSource, code)
  | .file path => do
    match ← readFile path with
    | .ok content => return .ok (path, (SourceBuffer.ofFile content).text)
    | .error _ => return .error (.file path)

/-- Evaluates a script and writes its report: what it threw or, on demand, what it completed
with. -/
def report (budget : Nat) (environment : Realm) (out : Channel) (dump : Bool)
    (source name : String) : Host engine (Option ExceptionInfo) := do
  match ← evaluateIn budget environment source name with
  | .threw _ info =>
    write out info.report
    return some info
  | .completed value =>
    if dump then
      write out ("End: " ++ (← stringifyIn budget environment value) ++ "\n")
    return none

/-- Opens a sampling window. The clock is looked at only for one that is recording. -/
def openWindow (script : String) : Host engine Window := do
  if (← get).sampler.records then
    let instant ← now .window
    modifyGet fun session =>
      let (window, sampler) := session.sampler.openWindow script instant
      (window, { session with sampler := sampler })
  else return ⟨script, none⟩

/-- Closes a sampling window. The clock is looked at only for one that is recording. -/
def closeWindow (window : Window) : Host engine Unit := do
  if window.isRecording then
    let instant ← now .window
    modify fun session =>
      { session with sampler := session.sampler.closeWindow window instant session.flags }

/-- Whole milliseconds since an instant, as far as they can be counted, where they are wanted. -/
def elapsedMillis (wanted : Bool) (began : Nat) : Host engine (Option Nat) := do
  if wanted then
    return some (min (((← now .script) - began) / 1000000) (UInt64.size - 1))
  else return none

/-- Loads and evaluates one script. It fails only where the script file cannot be read. -/
def execute (budget : Nat) (environment : Realm) (out : Channel) (dump : Bool)
    (script : Script) : Host engine (Except Failure Execution) := do
  match ← openScript script with
  | .error failure => return .error failure
  | .ok (name, source) =>
    log (.evaluating name)
    let session ← get
    let instrumented := session.sampler.enabled || session.profile.isSome
    let began ← now .script
    let window ← openWindow name
    let exception ← report budget environment out dump source name
    closeWindow window
    let millis ← elapsedMillis instrumented began
    log (.finished name exception.isNone)
    return .ok ⟨exception.isNone, millis, exception⟩

/-- Runs scripts up to the first that cannot be read, and tells whether all were read and none
threw. -/
def executeAll (budget : Nat) (environment : Realm) (out : Channel) (dump : Bool) :
    List Script → Host engine Bool
  | [] => return true
  | script :: rest => do
    match ← execute budget environment out dump script with
    | .error failure =>
      log (.abortingRun script.payload failure)
      write .stderr (failure.message ++ "\n")
      return false
    | .ok execution =>
      let others ← executeAll budget environment out dump rest
      return execution.succeeded && others

/-- Runs scripts while the sampler is running. -/
def runScripts (budget : Nat) (environment : Realm) (out : Channel) (dump : Bool)
    (scripts : List Script) : Host engine Bool := do
  modify fun session => { session with sampler := session.sampler.start }
  let success ← executeAll budget environment out dump scripts
  modify fun session => { session with sampler := session.sampler.stop }
  return success

end Host

end ScriptShell
