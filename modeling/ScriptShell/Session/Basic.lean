import ScriptShell.Clock
import ScriptShell.Engine
import ScriptShell.ExceptionInfo
import ScriptShell.Files
import ScriptShell.Log
import ScriptShell.Profile.Record
import ScriptShell.Sampling.Sampler

/-!
# Sessions

A session is one engine with everything around it: the frames of the evaluations in progress,
the queue of promise jobs, the sampler and the profile, standard input, the files and the clock.
What the session does is kept as a `history` of entries; all output is read off it.

An action of the shell may end early: a script calls `quit`, or a bound on nested calls or on the
number of jobs is used up.
-/

namespace ScriptShell

/-! ## The history -/

/-- Where text is written: the two outputs of the process, or a report collected by a caller. -/
inductive Channel where
  | stdout
  | stderr
  | report
  deriving DecidableEq, Repr

/-- One thing that a session did. -/
inductive Entry where
  /-- Text was written. -/
  | wrote (channel : Channel) (text : String)
  /-- An event was announced. -/
  | logged (event : LogEvent)
  /-- A script file was asked for. -/
  | fileRead (path : String) (found : Bool)
  /-- A file was to be written, which may fail. -/
  | fileWritten (path : String) (failure : Option IoError)
  /-- A chunk of standard input was consumed; at the end of the input it is empty. -/
  | lineRead (chunk : Bytes)
  /-- A frame was entered. -/
  | entered (frame : String)
  /-- The innermost frame was left. -/
  | left (frame : String)
  /-- Script code called a native while some frames were open, innermost first. -/
  | called (native : Native) (frames : List String)
  /-- A job was queued under a number. -/
  | queued (job : Nat)
  /-- A job began to run. -/
  | started (job : Nat)
  /-- A job came to its end. -/
  | settled (job : Nat)
  /-- A job ended in an error that it could not catch, and the waiting jobs were dropped. -/
  | interrupted (job : Nat)
  /-- A record was added to the profile. -/
  | recorded (record : ProfileRecord)
  /-- A realm was made. -/
  | realmCreated (realm : Realm)
  deriving DecidableEq, Repr

/-- The text that entries wrote to a channel, in the order of the entries. -/
def Entry.written (channel : Channel) (entries : List Entry) : String :=
  String.join (entries.filterMap fun
    | .wrote target text => if target = channel then some text else none
    | _ => none)

/-- The text on standard error: what was written there and the lines of the events that a filter
lets through. -/
def Entry.diagnostics (subscriber : LogSubscriber) (filter : subscriber.Filter)
    (entries : List Entry) : String :=
  String.join (entries.zipIdx.filterMap fun
    | (.wrote .stderr text, _) => some text
    | (.logged event, place) =>
      if subscriber.enabled filter event.metadata then some (subscriber.line place event) else none
    | _ => none)

/-! ## The state -/

/-- The state of a session. -/
structure Session (engine : Engine) where
  store : engine.Store
  /-- The realm that the engine is in. -/
  realm : Realm
  /-- How many realms there are; the next one gets this number. -/
  realms : Nat
  /-- The waiting jobs with their numbers, the first one first. -/
  jobs : List (Nat × engine.Job)
  /-- How many jobs were ever queued. -/
  jobCount : Nat
  /-- The names of the evaluations in progress, innermost first. -/
  frames : List String
  options : Options
  flags : SamplingFlags
  sampler : Sampler
  /-- The profile, where profiling is on. -/
  profile : Option (List ProfileRecord)
  /-- What is left of standard input. -/
  input : Bytes
  files : Files
  clock : Clock
  /-- What the session did so far, the last thing first. -/
  history : List Entry

/-- Why an action ended early. -/
inductive Halt where
  /-- A script ended the process. -/
  | quit
  /-- A bound on nested calls or on the number of jobs was used up. -/
  | exhausted
  deriving DecidableEq, Repr

/-- An action of the shell on a session. -/
abbrev Host (engine : Engine) := ExceptT Halt (StateM (Session engine))

/-- An action of the shell that may throw to the script that caused it. -/
abbrev Attempt (engine : Engine) := ExceptT engine.Fault (Host engine)

namespace Session

variable {engine : Engine}

/-- A session with a new engine, in the engine's first realm. -/
def start (engine : Engine) (options : Options) (profiling : Bool) (input : Bytes)
    (files : Files) (clock : Clock) : Session engine where
  store := engine.start options
  realm := 0
  realms := 1
  jobs := []
  jobCount := 0
  frames := []
  options := options
  flags := {}
  sampler := { enabled := options.useSampling }
  profile := if profiling then some [] else none
  input := input
  files := files
  clock := clock
  history := [.logged (.runtimeCreated profiling options.useSampling)]

/-- What the session did, in order. -/
def journal (session : Session engine) : List Entry :=
  session.history.reverse

/-- The records of the profile; none where profiling is off. -/
def profileRecords (session : Session engine) : List ProfileRecord :=
  session.profile.getD []

end Session

/-! ## Basic actions -/

namespace Host

variable {engine : Engine}

/-- An action that throws nothing to a script. -/
def lift {α : Type} (action : Host engine α) : Attempt engine α :=
  ExceptT.lift action

/-- A result, as an action that does nothing. -/
def settle {α : Type} (result : Except engine.Fault α) : Attempt engine α :=
  ExceptT.mk (pure result)

/-- Adds an entry to the history. -/
def note (entry : Entry) : Host engine Unit :=
  modify fun session => { session with history := entry :: session.history }

/-- Writes text. -/
def write (channel : Channel) (text : String) : Host engine Unit :=
  note (.wrote channel text)

/-- Announces an event. -/
def log (event : LogEvent) : Host engine Unit :=
  note (.logged event)

/-- The instant at a look at the clock. -/
def now (look : Look) : Host engine Nat :=
  modifyGet fun session =>
    (session.clock.instant look, { session with clock := session.clock.looked look })

/-- The span of time since an instant. -/
def elapsedSince (look : Look) (instant : Nat) : Host engine Duration := do
  return Duration.ofNanos ((← now look) - instant)

/-- The time of day, unless it is before the epoch. -/
def timeOfDay : Host engine (Option Nat) :=
  modifyGet fun session => (session.clock.day, { session with clock := session.clock.dayRead })

/-- Enters a frame. -/
def enter (frame : String) : Host engine Unit := do
  modify fun session => { session with frames := frame :: session.frames }
  note (.entered frame)

/-- Leaves the innermost frame. -/
def leave : Host engine Unit := do
  match (← get).frames with
  | [] => pure ()
  | frame :: rest =>
    modify fun session => { session with frames := rest }
    note (.left frame)

/-- Does something inside a frame. -/
def withFrame {α : Type} (frame : String) (action : Host engine α) : Host engine α := do
  enter frame
  let result ← action
  leave
  return result

/-- Does something inside a realm. -/
def withRealm {α : Type} (realm : Realm) (action : Host engine α) : Host engine α := do
  let previous := (← get).realm
  modify fun session => { session with realm := realm }
  let result ← action
  modify fun session => { session with realm := previous }
  return result

/-- Adds a record to the profile, where profiling is on. -/
def record (record : ProfileRecord) : Host engine Unit := do
  match (← get).profile with
  | none => pure ()
  | some records =>
    modify fun session => { session with profile := some (records ++ [record]) }
    note (.recorded record)

/-- Consumes a chunk of standard input and gives its text octets. -/
def readLine : Host engine Bytes := do
  let (chunk, rest) := (← get).input.takeChunk
  modify fun session => { session with input := rest }
  note (.lineRead chunk)
  return chunk.chomp

/-- The content of a script file, if it can be read. -/
def readFile (path : String) : Host engine (Except IoError Bytes) := do
  let content := (← get).files.read path
  note (.fileRead path content.isOk)
  return content

end Host

end ScriptShell
