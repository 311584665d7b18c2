import ScriptShell.Session.Evaluate
import ScriptShell.Source

/-!
# Natives and environments

The functions that scripts call, and the environments that they live in. An environment is a realm
of its own in which the natives and the array `arguments` are bound. `answer` ties the knot: a
native may have the engine run script code, whose calls of natives are answered in turn; the
budget bounds how deep such calls may nest.

`Host.evaluateIn`, `Host.checkSyntaxIn`, `Host.stringifyIn` and `Host.createEnvironment` are what
the parts of the shell above this one use.
-/

namespace ScriptShell

variable {engine : Engine}

namespace Host

/-! ## Environments -/

/-- Makes a realm and binds the natives and the arguments in it. -/
def createEnvironment (arguments : List String) : Attempt engine Realm := ExceptT.mk do
  let session ← get
  let realm := session.realms
  match engine.createRealm realm session.store with
  | .error fault => return .error fault
  | .ok store =>
    set { session with store := store, realms := realm + 1 }
    note (.realmCreated realm)
    let installed ← withRealm realm do
      modifyGet fun session =>
        let (store, installed) :=
          engine.install realm (Native.available session.options) arguments session.store
        (installed, { session with store := store })
    match installed with
    | .error fault => return .error fault
    | .ok () =>
      log (.environmentCreated arguments.length)
      return .ok realm

/-! ## Natives that only look or write -/

/-- The conversions of arguments to strings, from left to right. -/
def texts (answer : Answer engine) : List engine.Value → Attempt engine (List String)
  | [] => return []
  | value :: rest => do
    let text ← toText answer value
    return text :: (← texts answer rest)

/-- Writes the arguments on one line, once all of them are converted. -/
def print (answer : Answer engine) (arguments : List engine.Value) :
    Attempt engine engine.Value := do
  let line ← texts answer arguments
  lift (write .stdout (" ".intercalate line ++ "\n"))
  return engine.undefined

/-- The first argument, or `undefined`. -/
def firstArgument (arguments : List engine.Value) : engine.Value :=
  arguments.headD engine.undefined

/-- The text that shows the frames, numbered from the innermost one on. -/
def stackTrace (frames : List String) : String :=
  "--> Stack trace:\n" ++
    String.join (frames.zipIdx.map fun (frame, index) =>
      "    " ++ index.repr ++ "   " ++ frame ++ "\n")

/-! ## Natives that change the sampling flags -/

/-- The flag that a number names: its whole part, from 1 to 32. -/
def flagOf : Numeric → Option UInt32
  | .finite value => if 1 ≤ value ∧ value < 33 then some value.floor.toNat.toUInt32 else none
  | _ => none

/-- Changes the flags by each argument in turn, conversion first. -/
def changeFlags (answer : Answer engine) (change : SamplingFlags → UInt32 → SamplingFlags) :
    List engine.Value → Attempt engine engine.Value
  | [] => return engine.null
  | value :: rest => do
    let number ← act answer fun realm => engine.toNumber realm value
    match flagOf number with
    | some flag => modify fun session => { session with flags := change session.flags flag }
    | none => pure ()
    changeFlags answer change rest

/-! ## Natives that tell the time -/

/-- The seconds since the epoch, as a number for scripts. -/
def preciseTime : Attempt engine engine.Value := do
  match ← lift timeOfDay with
  | some time => return engine.ofNumber (Duration.ofNanos time).inSeconds
  | none => throw (engine.errorOf "system clock went backwards")

/-! ## Natives that evaluate files -/

/-- The text of a script file; a file that cannot be read is an error that scripts can catch. -/
def loadSource (path : String) : Attempt engine String := do
  match ← lift (readFile path) with
  | .ok content => return (SourceBuffer.ofFile content).text
  | .error _ => throw (engine.errorOf (Failure.file path).message)

/-- The milliseconds since an instant, as a number for scripts. -/
def elapsedNumber (began : Nat) : Host engine engine.Value := do
  return engine.ofNumber (← elapsedSince .call began).inMilliseconds

/-- Runs a file in a new environment without arguments and gives the elapsed milliseconds. -/
def runFile (answer : Answer engine) (bound : Nat) (argument : engine.Value) :
    Attempt engine engine.Value := do
  let path ← toText answer argument
  let source ← loadSource path
  let realm ← createEnvironment []
  let began ← lift (now .call)
  let outcome ← lift (withRealm realm (evaluate answer bound source path))
  discard (settle outcome.toExcept)
  lift (elapsedNumber began)

/-- Evaluates a file in the present realm and gives its completion value. -/
def loadFile (answer : Answer engine) (bound : Nat) (argument : engine.Value) :
    Attempt engine engine.Value := do
  let path ← toText answer argument
  let source ← loadSource path
  let outcome ← lift (evaluate answer bound source path)
  settle outcome.toExcept

/-- Checks the syntax of a file and gives the elapsed milliseconds. -/
def checkFile (answer : Answer engine) (argument : engine.Value) :
    Attempt engine engine.Value := do
  let path ← toText answer argument
  let source ← loadSource path
  let began ← lift (now .call)
  let outcome ← lift (checkSyntax answer source path)
  discard (settle outcome.toExcept)
  lift (elapsedNumber began)

/-! ## Answering calls -/

/-- What a native does, in the realm that it belongs to. -/
def respond (answer : Answer engine) (bound : Nat) (native : Native)
    (arguments : List engine.Value) : Attempt engine engine.Value :=
  match native with
  | .print => print answer arguments
  | .debug => do
    let text ← toText answer (firstArgument arguments)
    lift (write .stderr ("--> " ++ text ++ "\n"))
    return engine.undefined
  | .describe => do
    let rendered := engine.display (firstArgument arguments) (← get).store
    lift (write .stderr ("--> " ++ rendered ++ "\n"))
    return engine.undefined
  | .quit => ExceptT.mk (throw .quit)
  | .gc | .releaseExecutableMemory | .version => return engine.undefined
  | .dumpCallFrame => do
    match (← get).frames with
    | [] => pure ()
    | frame :: _ => lift (write .stderr ("--> Call frame: " ++ frame ++ "\n"))
    return engine.undefined
  | .run => runFile answer bound (firstArgument arguments)
  | .load => loadFile answer bound (firstArgument arguments)
  | .checkSyntax => checkFile answer (firstArgument arguments)
  | .stackTrace => do
    lift (write .stderr (stackTrace (← get).frames))
    return engine.undefined
  | .readline => return engine.ofText (decode (← lift readLine))
  | .preciseTime => preciseTime
  | .setSamplingFlags => changeFlags answer SamplingFlags.set arguments
  | .clearSamplingFlags => changeFlags answer SamplingFlags.clear arguments

/-- Answers the call of a native: it runs in the realm it belongs to. The budget bounds how deep
calls may nest. -/
def answer : Nat → Answer engine
  | 0 => fun _ _ _ => ExceptT.mk (throw .exhausted)
  | budget + 1 => fun realm native arguments => ExceptT.mk do
    note (.called native (← get).frames)
    withRealm realm (respond (answer budget) budget native arguments).run

/-! ## Environments in use -/

/-- Evaluates a source text in an environment. -/
def evaluateIn (budget : Nat) (environment : Realm) (source name : String) :
    Host engine (Evaluated engine) :=
  withRealm environment (evaluate (answer budget) budget source name)

/-- Checks the syntax of a source text in an environment. -/
def checkSyntaxIn (budget : Nat) (environment : Realm) (source name : String) :
    Host engine (Evaluated engine) :=
  withRealm environment (checkSyntax (answer budget) source name)

/-- The text of a value in an environment. -/
def stringifyIn (budget : Nat) (environment : Realm) (value : engine.Value) :
    Host engine String :=
  withRealm environment (stringify (answer budget) value)

end Host

end ScriptShell
