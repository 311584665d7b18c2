import ScriptShell.Session.Basic

/-!
# Evaluation

Everything the shell has the engine do goes through `perform`, which follows a behaviour node by
node: natives are answered, jobs are queued. How natives are answered is a parameter here, since
natives evaluate scripts themselves.

An evaluation enters a frame, parses and runs the source text and then, if its frame is the only
one, runs the waiting jobs; it adds its record to the profile and, still inside the frame,
computes what is reported of something thrown. A syntax check parses and runs nothing.

## Main definitions

* `Host.perform` follows a behaviour.
* `Host.evaluate` and `Host.checkSyntax` are the two ways in which source text reaches the engine.
* `Host.exceptionInfo` reads a message and stack lines out of something thrown.
-/

namespace ScriptShell

variable {engine : Engine}

/-- How calls of natives are answered. -/
abbrev Answer (engine : Engine) :=
  Realm → Native → List engine.Value → Attempt engine engine.Value

/-- The outcome of an evaluation or a syntax check. -/
inductive Evaluated (engine : Engine) where
  | completed (value : engine.Value)
  | threw (fault : engine.Fault) (info : ExceptionInfo)

namespace Evaluated

/-- Hands something thrown on unchanged. -/
def toExcept : Evaluated engine → Except engine.Fault engine.Value
  | .completed value => .ok value
  | .threw fault _ => .error fault

end Evaluated

namespace Host

/-! ## Following the engine -/

/-- Replaces the state of the engine. -/
def setStore (store : engine.Store) : Host engine Unit :=
  modify fun session => { session with store := store }

/-- Adds a job at the end of the queue. -/
def queueJob (job : engine.Job) : Host engine Unit := do
  let number := (← get).jobCount
  modify fun session =>
    { session with jobs := session.jobs ++ [(number, job)], jobCount := number + 1 }
  note (.queued number)

/-- Follows a behaviour of the engine to its end. -/
def perform {α : Type} (answer : Answer engine) :
    Behaviour engine.Store engine.Value engine.Fault engine.Job α → Attempt engine α
  | .finish store result => ExceptT.mk do
    setStore store
    return result
  | .native store realm callee arguments resume => ExceptT.mk do
    setStore store
    let result ← (answer realm callee arguments).run
    let session ← get
    (perform answer (resume session.store result)).run
  | .enqueue store job resume => ExceptT.mk do
    setStore store
    queueJob job
    (perform answer (resume store)).run
  | .exhausted => ExceptT.mk (throw .exhausted)

/-- Has the engine do an operation in its present state and realm. -/
def act {α : Type} (answer : Answer engine) (operation : Realm → engine.Store → engine.Acts α) :
    Attempt engine α := ExceptT.mk do
  let session ← get
  (perform answer (operation session.realm session.store)).run

/-! ## Values as text -/

/-- The conversion of a value to a string. -/
def toText (answer : Answer engine) (value : engine.Value) : Attempt engine String :=
  act answer fun realm => engine.toText realm value

/-- The conversion of a value to a string, or the engine's rendering where it throws. -/
def stringify (answer : Answer engine) (value : engine.Value) : Host engine String := do
  match ← (toText answer value).run with
  | .ok text => return text
  | .error _ => return engine.display value (← get).store

/-- The stack text of a thrown value: its property `stack`, if it is an object, reading that does
not throw, and there is something in it. -/
def stackText (answer : Answer engine) (value : engine.Value) : Host engine (Option String) := do
  if engine.isObject value then
    match ← (act answer fun realm => engine.stack realm value).run with
    | .ok stack =>
      if engine.isNullish stack then return none else return some (← stringify answer stack)
    | .error _ => return none
  else return none

/-- The value of something thrown, in the present realm. -/
def thrownValue (fault : engine.Fault) : Host engine engine.Value :=
  modifyGet fun session =>
    let (value, store) := engine.thrown session.realm fault session.store
    (value, { session with store := store })

/-- What is reported of something thrown. An error that script code cannot catch has a text of its
own and no stack, and no script code runs for it. -/
def exceptionInfo (answer : Answer engine) (fault : engine.Fault) : Host engine ExceptionInfo := do
  match engine.limitText? fault with
  | some text => return { message := text }
  | none =>
    let value ← thrownValue fault
    let info : ExceptionInfo := { message := ← stringify answer value }
    match ← stackText answer value with
    | some stack => return info.withStack stack
    | none => return info

/-- The outcome for a result of the engine. -/
def evaluated (answer : Answer engine) (result : Except engine.Fault engine.Value) :
    Host engine (Evaluated engine) := do
  match result with
  | .ok value => return .completed value
  | .error fault => return .threw fault (← exceptionInfo answer fault)

/-! ## Jobs -/

/-- Takes the first waiting job. -/
def takeJob : Host engine (Option (Nat × engine.Job)) :=
  modifyGet fun session =>
    match session.jobs with
    | [] => (none, session)
    | job :: rest => (some job, { session with jobs := rest })

/-- Runs the waiting jobs in their order, those queued meanwhile included, up to a number of jobs.
A job that ends in an error drops those that still wait. -/
def drain (answer : Answer engine) : Nat → Host engine Unit
  | 0 => do
    if (← get).jobs.isEmpty then return () else throw .exhausted
  | bound + 1 => do
    match ← takeJob with
    | none => return ()
    | some (number, job) =>
      note (.started number)
      match ← (act answer fun realm => engine.runJob realm job).run with
      | .ok () =>
        note (.settled number)
        drain answer bound
      | .error _ =>
        note (.interrupted number)
        modify fun session => { session with jobs := [] }

/-! ## Source text -/

/-- Parses a source text and runs it. -/
def runSource (answer : Answer engine) (source : String) : Attempt engine engine.Value :=
  ExceptT.mk do
    match engine.parse (← get).options source with
    | .ok code => (act answer fun realm => engine.evaluate realm code).run
    | .error fault => return .error fault

/-- Runs the waiting jobs, if the present frame is the only one. -/
def drainOutermost (answer : Answer engine) (bound : Nat) : Host engine Unit := do
  if (← get).frames.length = 1 then drain answer bound

/-- Evaluates a source text in the present realm, inside a frame with the given name. The bound is
the number of jobs that may run at its end. -/
def evaluate (answer : Answer engine) (bound : Nat) (source name : String) :
    Host engine (Evaluated engine) :=
  withFrame name do
    let began ← now .evaluation
    let result ← (runSource answer source).run
    drainOutermost answer bound
    record ⟨name, .evaluate, ← elapsedSince .evaluation began, !result.isOk⟩
    evaluated answer result

/-- Parses a source text without running it, inside a frame with the given name. -/
def checkSyntax (answer : Answer engine) (source name : String) : Host engine (Evaluated engine) :=
  withFrame name do
    let began ← now .evaluation
    let result := (engine.parse (← get).options source).map fun _ => engine.undefined
    record ⟨name, .checkSyntax, ← elapsedSince .evaluation began, !result.isOk⟩
    evaluated answer result

end Host

end ScriptShell
